/-
# Remote pages

A page in a browser is asked over a connection. It only evaluates CSS and XPath, so every
other strategy is written in one of them; and what it refuses is sorted into faults:
nothing found, an element that is gone, or a failure.
-/

import ElementSearch.Search.Driver
import ElementSearch.Text.Basic
import ElementSearch.XPath.Printer

namespace ElementSearch

/-- A query in one of the languages that browsers evaluate. -/
inductive BrowserQuery
  | css (text : String)
  | xpath (text : String)
  deriving DecidableEq, Repr

namespace BrowserQuery

open XPath

/-- All elements, or all of a tag, that meet a condition. -/
private def byCondition (tag : Option String) (condition : Condition) : BrowserQuery :=
  .xpath (Path.render ⟨tag, [condition]⟩)

/-- A lookup as a query. A tag is a CSS query as it stands. -/
def ofLookup (strategy : Strategy) (value : String) : BrowserQuery :=
  match strategy with
  | .css | .tagName => .css value
  | .xpath => .xpath value
  | .id => byCondition none (.equals (.attr "id") value)
  | .name => byCondition none (.equals (.attr "name") value)
  | .className =>
      byCondition none (.includes (.padded (.normalized (.attr "class"))) (" " ++ value ++ " "))
  | .linkText => byCondition (some "a") (.equals .text value)
  | .partialLinkText => byCondition (some "a") (.includes .text value)

end BrowserQuery

/-- Why a browser did not do what it was asked to, in its own words. -/
inductive Refusal
  /-- There is no such element. -/
  | nothingFound (message : String)
  /-- Anything else. -/
  | failed (message : String)
  deriving DecidableEq, Repr

namespace Refusal

/-- The wording of a refusal. -/
def text : Refusal → String
  | .nothingFound message | .failed message => message

/-- What browsers say of a node that is gone. -/
def lostMessages : List String :=
  ["Could not find node with given id", "No node with given id",
    "Could not find object with given id"]

/-- The fault that a refused call of an element is. -/
def readFault (refusal : Refusal) : Fault :=
  if lostMessages.any (Text.contains refusal.text) then .staleElement refusal.text
  else .pageFailed refusal.text

/-- The fault that a refused lookup is. -/
def lookupFault (strategy : Strategy) (value : String) : Refusal → Fault
  | .nothingFound _ => .noSuchElement (strategy.displayLookup value)
  | refusal => refusal.readFault

end Refusal

/-- Work that a browser may refuse, against a state of the browser's side. -/
abbrev RemoteWork (σ : Type) := ExceptT Refusal (StateM σ)

namespace RemoteWork

variable {σ α : Type}

/-- The work with its refusals turned into faults. -/
def orFault (fault : Refusal → Fault) (work : RemoteWork σ α) : Work σ α :=
  ExceptT.mk do
    match ← ExceptT.run work with
    | .ok result => return .ok result
    | .error refusal => return .error (fault refusal)

/-- Take finding nothing for an empty list. -/
def nothingIsEmpty (work : RemoteWork σ (List α)) : RemoteWork σ (List α) :=
  tryCatch work fun
    | .nothingFound _ => return []
    | refusal => throw refusal

end RemoteWork

/-- A page in a browser. Queries are asked of the whole page or below an element. -/
structure RemotePage (σ η : Type) where
  /-- The first match; that there is none is a refusal. -/
  first : Option η → BrowserQuery → RemoteWork σ η
  /-- All matches in document order; that there are none may be a refusal. -/
  all : Option η → BrowserQuery → RemoteWork σ (List η)
  /-- The tag of an element, which is known without asking. -/
  tagOf : η → String
  readAttribute : η → String → RemoteWork σ (Option String)
  readText : η → RemoteWork σ String

namespace RemotePage

variable {σ η : Type}

/-- How the elements of a page are read. Tags are in lower case, as HTML does not tell cases
apart. -/
def reader (page : RemotePage σ η) : ElementReader (Work σ) η where
  readTag element := return Text.lowercase (page.tagOf element)
  readAttribute element name := (page.readAttribute element name).orFault Refusal.readFault
  readText element := (page.readText element).orFault Refusal.readFault

/-- The driver of a page. -/
def driver (page : RemotePage σ η) : Driver σ η where
  findElement root strategy value :=
    (page.first root (.ofLookup strategy value)).orFault (Refusal.lookupFault strategy value)
  findElements root strategy value :=
    (page.all root (.ofLookup strategy value)).nothingIsEmpty.orFault
      (Refusal.lookupFault strategy value)
  reader := page.reader

end RemotePage

end ElementSearch
