/-
# Faults

Everything that can go wrong in a search or a browser session, and how it is worded.
-/

import ElementSearch.Text.Quoted

namespace ElementSearch

/-- Why an operation failed. -/
inductive Fault
  | launchFailed (reason : String)
  | connectionFailed (reason : String)
  | tabFailed (reason : String)
  | navigationFailed (reason : String)
  /-- An element was demanded of a reference that finds none. -/
  | elementNotFound (selector : String)
  /-- A lookup of one element found none. -/
  | noSuchElement (lookup : String)
  /-- The element is no longer part of the page. -/
  | staleElement (detail : String)
  /-- Any other failure of the page. -/
  | pageFailed (detail : String)
  | invalidValue (key expected : String)
  | unsupportedAttribute (name kind : String)
  | conflictingStrategy (reason : String)
  | indexForAll
  | unbuildable (selector : String)
  | invalidPattern
  | malformedJson
  deriving DecidableEq, Repr

namespace Fault

/-- The wording of a fault. -/
def message : Fault → String
  | .launchFailed reason => "Failed to launch browser: " ++ reason
  | .connectionFailed reason => "Failed to connect to browser: " ++ reason
  | .tabFailed reason => "Tab operation failed: " ++ reason
  | .navigationFailed reason => "Navigation failed: " ++ reason
  | .elementNotFound selector => "Element not found: " ++ selector
  | .noSuchElement lookup => "No such element: " ++ lookup
  | .staleElement detail => "Stale element reference: " ++ detail
  | .pageFailed detail => "Driver error: " ++ detail
  | .invalidValue key expected => "Invalid value for " ++ key ++ ": expected " ++ expected
  | .unsupportedAttribute name kind =>
      "Unsupported attribute " ++ Text.quoted name ++ " for <" ++ kind ++ ">"
  | .conflictingStrategy reason => "Conflicting strategy: " ++ reason
  | .indexForAll => "Can't locate all elements by index"
  | .unbuildable selector => "Internal error: unable to build query from " ++ selector
  | .invalidPattern => "Invalid pattern"
  | .malformedJson => "Serialization error"

/-- Whether the fault means that there is nothing there, and not that something broke. -/
def isAbsence : Fault → Bool
  | .noSuchElement _ | .staleElement _ => true
  | _ => false

/-- Whether the fault lies in the selector, whatever the page. -/
def isSelectorFault : Fault → Bool
  | .invalidValue _ _ | .unsupportedAttribute _ _ | .conflictingStrategy _ | .indexForAll
  | .unbuildable _ => true
  | _ => false

end Fault

end ElementSearch
