/-
# Checks on elements

Criteria are checked on an element by reading what they are compared with. Patterns are
checked this way on the answers of a broader query; the tag, and the type of an input,
are checked again on a single result, since a caller's own query may not have looked at
them. Elements without a label of their own can be asked for by the label that points at
them or that contains them, for which labels are read.
-/

import ElementSearch.Search.Driver
import ElementSearch.Selector.Basic
import ElementSearch.Text.Basic

namespace ElementSearch

namespace Value

/-- The value with its literals in lower case. -/
def lowered : Value → Value
  | .literal text => .literal (Text.lowercase text)
  | .oneOf texts => .oneOf (texts.map Text.lowercase)
  | value => value

/-- Whether a text in lower case satisfies the value in lower case. -/
def acceptsLowered (value : Value) (actual : Option String) : Bool :=
  value.lowered.accepts (actual.map Text.lowercase)

end Value

namespace ElementReader

variable {m : Type → Type} [Monad m] {η : Type}

/-- What a criterion is compared with, read off an element; queries and positions are compared
with nothing. -/
def fetch (reader : ElementReader m η) (element : η) (key : Key) : m (Option String) :=
  match key with
  | .text => return some (Text.collapse (← reader.readText element))
  | .tagName => return some (Text.lowercase (← reader.readTag element))
  | .className => reader.readAttribute element "class"
  | .label => reader.readAttribute element "label"
  | .attr name _ =>
      if name == "href" then return (← reader.readAttribute element "href").map Text.trim
      else reader.readAttribute element key.htmlName
  | .xpath | .css | .index => return none

/-- Whether a pattern matches what its key is compared with. -/
def meetsPattern (reader : ElementReader m η) (key : Key) (pattern : Pattern) (element : η) :
    m Bool :=
  return (← reader.fetch element key).any pattern.matchesIn

/-- Whether every pattern matches; nothing is read after the first that does not. -/
def meetsPatterns (reader : ElementReader m η) : List (Key × Pattern) → η → m Bool
  | [], _ => return true
  | (key, pattern) :: rest, element => do
      if ← reader.meetsPattern key pattern element then reader.meetsPatterns rest element
      else return false

/-- Whether the tag is what the selector asks for, in whatever case. -/
def tagFits (reader : ElementReader m η) (selector : Selector) (element : η) : m Bool :=
  match selector.get? "tag_name" with
  | none => return true
  | some asked => return asked.acceptsLowered (some (← reader.readTag element))

/-- Whether the type is what the selector asks for, in whatever case, where the element is an
input. -/
def typeFits (reader : ElementReader m η) (selector : Selector) (element : η) : m Bool :=
  match selector.get? "type" with
  | none => return true
  | some asked => do
      if Text.sameAsciiLetters (← reader.readTag element) "input" then
        return asked.acceptsLowered (← reader.readAttribute element "type")
      else return true

/-- Whether a single result stands: its tag and its type are what the selector asks for. The
type is not read where the tag already differs. -/
def fits (reader : ElementReader m η) (selector : Selector) (element : η) : m Bool := do
  if ← reader.tagFits selector element then reader.typeFits selector element
  else return false

end ElementReader

/-! ## Labels -/

/-- What the first label with a matching text says about its element. -/
inductive LabelTarget (η : Type)
  /-- The element has this identifier. -/
  | identified (id : String)
  /-- The element is inside the label. -/
  | inside (label : η)
  /-- There is no such label. -/
  | nowhere
  deriving DecidableEq, Repr

/-- Read labels until one has a matching text. -/
def ElementReader.labelTarget {m : Type → Type} [Monad m] {η : Type} (reader : ElementReader m η)
    (pattern : Pattern) : List η → m (LabelTarget η)
  | [] => return .nowhere
  | label :: rest => do
      if pattern.matchesIn (Text.trim (← reader.readText label)) then
        match ← reader.readAttribute label "for" with
        | some id => return if id == "" then .inside label else .identified id
        | none => return .inside label
      else reader.labelTarget pattern rest

/-- Find the target of the first label below a root whose text the pattern matches. -/
def Driver.resolveLabel {σ η : Type} (driver : Driver σ η) (root : Option η)
    (pattern : Pattern) : Work σ (LabelTarget η) := do
  let labels ← driver.findElements root .tagName "label"
  driver.reader.labelTarget pattern labels

end ElementSearch
