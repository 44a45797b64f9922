/-
# Documents in memory

A document answers lookups from its own tree: by identifier, name, class, tag and link
text, and the scans of all elements and of all elements of one tag. Any other lookup
has to be given its answer in advance. Elements can be made stale, which is what
happens to an element that a page has dropped; and the lookups are recorded.
-/

import ElementSearch.OrderedMap
import ElementSearch.Search.Driver
import ElementSearch.Text.Basic
import ElementSearch.Tree

namespace ElementSearch

/-- A document. -/
structure Document where
  tree : Tree
  /-- Answers to lookups that the tree does not answer. -/
  stubs : OrderedMap (Strategy × String) (List Nat)
  stale : List Nat
  /-- The lookups so far, in order. -/
  calls : List (Strategy × String)

namespace Document

/-- A document with nothing but its root. -/
def empty : Document := ⟨.empty, .empty, [], []⟩

/-- Add an element. -/
def add (document : Document) (added : Element) (below : added.parent < document.tree.size) :
    Document :=
  { document with tree := document.tree.add added below }

/-- Answer a lookup with these elements. -/
def stub (document : Document) (strategy : Strategy) (value : String) (nodes : List Nat) :
    Document :=
  { document with stubs := document.stubs.insert (strategy, value) nodes }

/-- Make an element stale. -/
def makeStale (document : Document) (node : Nat) : Document :=
  { document with stale := node :: document.stale }

/-- Record a lookup. -/
def record (document : Document) (strategy : Strategy) (value : String) : Document :=
  { document with calls := document.calls ++ [(strategy, value)] }

/-- Refuse stale elements. -/
def checkLive (document : Document) (node : Nat) : Except Fault Unit :=
  if document.stale.contains node then .error (.staleElement ("node " ++ toString node))
  else .ok ()

/-- The tag that an XPath expression scans for, if it is a scan for one tag. -/
def scannedTag? (value : String) : Option String :=
  match value.toList with
  | '.' :: '/' :: '/' :: tag =>
      if !tag.isEmpty && tag.all Char.isAlphanum then some (String.ofList tag) else none
  | _ => none

/-- Whether an element is what a lookup asks for; `none` if the tree does not answer it. -/
def answers? (strategy : Strategy) (value : String) : Option (Element → Bool) :=
  match strategy with
  | .id => some fun element => element.attribute? "id" == some value
  | .name => some fun element => element.attribute? "name" == some value
  | .className => some fun element =>
      (element.attribute? "class").any fun tokens => (Text.words tokens).contains value
  | .tagName => some fun element => Text.sameAsciiLetters element.tag value
  | .linkText => some fun element => element.tag == "a" && Text.trim element.text == value
  | .partialLinkText => some fun element =>
      element.tag == "a" && Text.contains element.text value
  | .xpath =>
      if value == ".//*" then some fun _ => true
      else (scannedTag? value).map fun tag element => element.tag == tag
  | .css => none

/-- The answer to a lookup below a root that is not stale. -/
def lookup (document : Document) (root : Nat) (strategy : Strategy) (value : String) :
    Except Fault (List Nat) :=
  match answers? strategy value with
  | some asked => .ok ((document.tree.descendants root).filter fun node =>
      asked (document.tree.element node))
  | none =>
      match document.stubs.get? (strategy, value) with
      | some nodes => .ok nodes
      | none => .error (.pageFailed ("unstubbed query " ++ strategy.displayLookup value))

/-- Look elements up below a root. A lookup below a stale root is not recorded. -/
def findElements (root : Option Nat) (strategy : Strategy) (value : String) :
    Work Document (List Nat) := do
  let root := root.getD 0
  Work.read fun document => document.checkLive root
  modify fun document => document.record strategy value
  Work.read fun document => document.lookup root strategy value

/-- Look the first element up below a root. -/
def findElement (root : Option Nat) (strategy : Strategy) (value : String) :
    Work Document Nat := do
  match ← findElements root strategy value with
  | first :: _ => return first
  | [] => throw (.noSuchElement (strategy.displayLookup value))

/-- Read an element, which must not be stale. -/
def readElement {α : Type} (document : Document) (part : Element → α) (node : Nat) :
    Except Fault α :=
  (document.checkLive node).map fun () => part (document.tree.element node)

/-- How the elements of a document are read. -/
def reader (document : Document) : ElementReader (Except Fault) Nat where
  readTag := document.readElement Element.tag
  readAttribute node name := document.readElement (·.attribute? name) node
  readText := document.readElement Element.text

/-- The driver of documents. -/
def driver : Driver Document Nat where
  findElement := findElement
  findElements := findElements
  reader := .ofState reader

end Document

end ElementSearch
