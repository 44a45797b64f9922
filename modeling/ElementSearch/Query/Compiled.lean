/-
# Compiled selectors

What a selector comes to before any page is asked: the position that it asks for, and
either one exact query or a broad query with the patterns that its answers are checked
by. Labels that stand in elements of their own are only looked for during a search, so
here a pattern for one is a pattern like any other.
-/

import ElementSearch.Query.LiteralEdges
import ElementSearch.Query.Plan
import ElementSearch.Selector.Normalize

namespace ElementSearch

/-- The queries that a selector is compiled to. -/
inductive CompiledQuery
  /-- One query selects exactly the matches. -/
  | exact (query : Query)
  /-- The answers of `narrowed`, which asks for what `base` does and for what the patterns imply,
  have to be checked by the patterns. -/
  | filtered (base narrowed : Query) (patterns : List (Key × Pattern))

/-- A selector without the names that its caller chose. -/
structure CompiledSelector where
  query : CompiledQuery
  position : Option Int64

namespace Criteria

/-- Compile criteria without a position. -/
def compile (kind : ElementKind) (preferCss : Bool) (criteria : Criteria) :
    Except Fault CompiledQuery := do
  match ← criteria.plan kind preferCss with
  | .exact query => return .exact query
  | .filtered =>
      let base ← criteria.withoutPatterns.exactQuery kind preferCss
      return .filtered base (base.narrow criteria.patterns) criteria.patterns

end Criteria

namespace Selector

/-- Compile a selector. -/
def compile (kind : ElementKind) (preferCss : Bool) (selector : Selector) :
    Except Fault CompiledSelector := do
  let criteria ← selector.normalize kind
  return ⟨← criteria.withoutIndex.compile kind preferCss, criteria.index?⟩

end Selector

end ElementSearch
