/-
# Selectors

A selector is what a caller asks for: named criteria in the order in which they were
added. Once its names are resolved it is a set of criteria filed under keys.
-/

import ElementSearch.OrderedMap
import ElementSearch.Selector.Key
import ElementSearch.Selector.Value

namespace ElementSearch

variable [Compiler]

/-- Named criteria, as a caller gives them. -/
abbrev Selector := OrderedMap String Value

/-- Criteria filed under keys. -/
abbrev Criteria := OrderedMap Key Value

/-- Named values between braces, as messages show them. -/
def displayNamed (entries : List (String × Value)) : String :=
  "\x7b" ++ ", ".intercalate (entries.map fun (name, value) => name ++ ": " ++ value.display) ++
    "\x7d"

namespace Selector

/-- The selector as messages show it. -/
def display (selector : Selector) : String := displayNamed selector.entries

/-- The selector with its position set. -/
def withIndex (selector : Selector) (position : Int64) : Selector :=
  selector.insert "index" (.index position)

end Selector

namespace Criteria

/-- The criteria as messages show them. -/
def display (criteria : Criteria) : String :=
  displayNamed (criteria.entries.map fun (key, value) => (key.name, value))

/-- Whether some criterion is a pattern. -/
def hasPattern (criteria : Criteria) : Bool := criteria.entries.any (·.2.isPattern)

/-- The pattern criteria, in order. -/
def patterns (criteria : Criteria) : List (Key × Pattern) :=
  criteria.entries.filterMap fun (key, value) => value.pattern?.map (key, ·)

/-- The criteria that are no patterns. -/
def withoutPatterns (criteria : Criteria) : Criteria :=
  criteria.filter fun _ value => !value.isPattern

/-- The position that is asked for, if it is one. -/
def index? (criteria : Criteria) : Option Int64 :=
  match criteria.get? .index with
  | some (.index position) => some position
  | _ => none

/-- The criteria but for the position. -/
def withoutIndex (criteria : Criteria) : Criteria := criteria.erase .index

end Criteria

end ElementSearch
