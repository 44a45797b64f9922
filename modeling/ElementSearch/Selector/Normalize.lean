/-
# Normalizing selectors

Names of criteria are resolved to keys, and each criterion is checked on the way: its
value must be of a sort that the key takes, and its attribute must be one that the kind
accepts or that a page answers by itself.
-/

import ElementSearch.Fault
import ElementSearch.Kind
import ElementSearch.Selector.Basic
import ElementSearch.Strategy

namespace ElementSearch

/-- The name that an alias stands for. -/
def canonicalName : String → String
  | "class_name" => "class"
  | "caption" => "text"
  | name => name

/-- What sort of value a key takes, if `value` is not of it. -/
def Key.expected? : Key → Value → Option String
  | .index, .index _ => none
  | .index, _ => some "integer"
  | .xpath, .literal _ => none
  | .xpath, _ => some "string"
  | .css, .literal _ => none
  | .css, _ => some "string"
  | _, .index _ => some "string, pattern or list"
  | _, _ => none

/-- Check one criterion against a kind; the sort of its value is looked at first. -/
def checkCriterion (kind : ElementKind) (key : Key) (value : Value) : Except Fault Unit :=
  match key.expected? value with
  | some expected => .error (.invalidValue key.name expected)
  | none =>
      match key with
      | .attr name _ =>
          if kind.accepts name || (Strategy.forName? name).isSome then .ok ()
          else .error (.unsupportedAttribute name kind.tag)
      | _ => .ok ()

namespace Selector

/-- File criteria under their keys, behind those of `done`. -/
def fileAll (kind : ElementKind) (done : Criteria) :
    List (String × Value) → Except Fault Criteria
  | [] => .ok done
  | (name, value) :: rest =>
      let key := Key.ofName (canonicalName name)
      match checkCriterion kind key value with
      | .error fault => .error fault
      | .ok () => fileAll kind (done.insert key value) rest

/-- The criteria of a selector, or what is wrong with the first of them that is. -/
def normalize (kind : ElementKind) (selector : Selector) : Except Fault Criteria :=
  fileAll kind .empty selector.entries

end Selector

end ElementSearch
