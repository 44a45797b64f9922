/-
# Plans

How a search goes about its criteria: by one query that selects exactly what they ask
for, or, where there are patterns, by a broader query whose answers are then filtered.
-/

import ElementSearch.Fault
import ElementSearch.Query.Basic

namespace ElementSearch

/-- How criteria are searched for. -/
inductive Plan
  /-- One query selects exactly the matches. -/
  | exact (query : Query)
  /-- Patterns have to be checked on the elements of a broader query. -/
  | filtered
  deriving DecidableEq, Repr

namespace Criteria

/-- Whether keys may stand beside a query that the caller gave: none, the tag alone, or the tag
`input` with a type. -/
def mayAccompany (criteria : Criteria) (keys : List Key) : Bool :=
  match keys with
  | [] => true
  | [key] => key == .tagName
  | [first, second] =>
      (criteria.get? .tagName).bind Value.literal? == some "input" &&
        ((first == .tagName && second.isAttribute "type") ||
          (first.isAttribute "type" && second == .tagName))
  | _ => false

/-- The query that the caller gave in CSS or XPath, if one was given. -/
def givenQuery? (criteria : Criteria) : Except Fault (Option Query) :=
  let check (query : Query) : Except Fault (Option Query) :=
    if criteria.mayAccompany (criteria.keys.filter fun key => key != .xpath && key != .css) then
      .ok (some query)
    else .error (.conflictingStrategy
      (query.strategy.display ++ " cannot be combined with other selectors (" ++
        criteria.display ++ ")"))
  match (criteria.get? .xpath).bind Value.literal?, (criteria.get? .css).bind Value.literal? with
  | none, none => .ok none
  | some _, some _ => .error (.conflictingStrategy
      ("xpath and css cannot be combined (" ++ criteria.display ++ ")"))
  | some text, none => check (.xpath text)
  | none, some text => check (.css text)

/-- The query that selects exactly by criteria without patterns or position. -/
def exactQuery (kind : ElementKind) (preferCss : Bool) (criteria : Criteria) :
    Except Fault Query :=
  if criteria.contains .index || criteria.hasPattern then
    .error (.unbuildable criteria.display)
  else .ok <|
    match if preferCss then criteria.css? else none with
    | some query => .css query.render
    | none => .xpath (criteria.path kind).render

/-- Without a preference for CSS, the query is the path. -/
theorem exactQuery_false (kind : ElementKind) {criteria : Criteria}
    (noIndex : criteria.contains .index = false) (noPattern : criteria.hasPattern = false) :
    criteria.exactQuery kind false = .ok (.xpath (criteria.path kind).render) := by
  rw [exactQuery, noIndex, noPattern]
  rfl

/-- The plan for criteria without a position. -/
def plan (kind : ElementKind) (preferCss : Bool) (criteria : Criteria) : Except Fault Plan :=
  if criteria.contains .index then .error (.unbuildable criteria.display)
  else
    match criteria.givenQuery? with
    | .error fault => .error fault
    | .ok (some query) => .ok (.exact query)
    | .ok none =>
        if criteria.hasPattern then .ok .filtered
        else (criteria.exactQuery kind preferCss).map .exact

end Criteria

end ElementSearch
