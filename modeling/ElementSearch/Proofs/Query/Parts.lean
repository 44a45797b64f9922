/-
# The parts of criteria

A search takes criteria apart: the position is taken out, and, where the answers of a query have to
be filtered, so are the patterns. What is left is what a query is written for. Nothing gets lost on
the way and nothing is changed: every criterion is in one part and in no other, and the parts keep
the order of the criteria. Where the caller gave a query, no pattern is taken out, and it stays
among what is left; no query could be written for that, and none is, since the search goes by the
query that was given or refuses it.
-/

import Mathlib.Data.List.Basic
import ElementSearch.Proofs.Query.GivenQuery
import ElementSearch.Proofs.Search.Filter
import ElementSearch.Proofs.Selector.Filing
import ElementSearch.Query.Compiled

namespace ElementSearch

namespace OrderedMap

variable {κ ν : Type} [DecidableEq κ]

/-- One key has one entry, if it has any. -/
theorem filter_key_eq (map : OrderedMap κ ν) (key : κ) :
    map.entries.filter (·.1 = key) = ((map.get? key).map (key, ·)).toList := by
  obtain ⟨entries, distinct⟩ := map
  unfold get?
  induction entries with
  | nil => rfl
  | cons entry rest ih =>
      rw [List.map_cons, List.nodup_cons] at distinct
      by_cases same : entry.1 = key
      · subst same
        have others : rest.filter (·.1 = entry.1) = [] := by
          rw [List.filter_eq_nil_iff]
          intro other member again
          rw [decide_eq_true_eq] at again
          exact distinct.1 (again ▸ List.mem_map_of_mem member)
        simp [others]
      · simpa [same] using ih distinct.2

end OrderedMap

namespace Criteria

variable {criteria : Criteria}

/-- What a search makes of criteria before it asks a page. -/
structure Parts where
  position : Option Int64
  patterns : List (Key × Pattern)
  /-- What is left, for which a query is written. -/
  residue : Criteria

namespace Parts

/-- The criteria that the position was. -/
def positionEntries (parts : Parts) : List (Key × Value) :=
  parts.position.toList.map fun position => (.index, .index position)

/-- The criteria that the patterns were. -/
def patternEntries (parts : Parts) : List (Key × Value) :=
  parts.patterns.map fun entry => (entry.1, .pattern entry.2)

/-- All that is in one of the parts, as it was among the criteria. -/
def entries (parts : Parts) : List (Key × Value) :=
  parts.positionEntries ++ parts.patternEntries ++ parts.residue.entries

/-- The parts are the criteria: nothing is lost, added or changed, no key is in two parts or twice
in one, and the patterns and what is left keep their order. -/
structure Divide (parts : Parts) (criteria : Criteria) : Prop where
  complete : parts.entries.Perm criteria.entries
  apart : (parts.entries.map Prod.fst).Nodup
  patterns : parts.patternEntries.Sublist criteria.entries
  residue : parts.residue.entries.Sublist criteria.entries

end Parts

/-- The parts that a search takes the criteria into: the patterns are taken out where the plan is to
filter by them. -/
def parts (kind : ElementKind) (preferCss : Bool) (criteria : Criteria) : Parts :=
  match criteria.withoutIndex.plan kind preferCss with
  | .ok .filtered =>
      ⟨criteria.index?, criteria.withoutIndex.patterns, criteria.withoutIndex.withoutPatterns⟩
  | _ => ⟨criteria.index?, [], criteria.withoutIndex⟩

/-! ## Taking out -/

/-- The patterns are the criteria that are patterns. -/
theorem map_patterns (criteria : Criteria) :
    criteria.patterns.map (fun entry => (entry.1, Value.pattern entry.2)) =
      criteria.entries.filter (·.2.isPattern) := by
  rw [patterns, List.map_filterMap, ← List.filterMap_eq_filter]
  refine List.filterMap_congr fun entry _ => ?_
  obtain ⟨key, value⟩ := entry
  cases value with
  | _ => rfl

theorem entries_withoutIndex (criteria : Criteria) :
    criteria.withoutIndex.entries = criteria.entries.filter (·.1 ≠ .index) := rfl

theorem entries_withoutPatterns (criteria : Criteria) :
    criteria.withoutPatterns.entries = criteria.entries.filter (!·.2.isPattern) := rfl

/-- The position is the criterion under the index, where that has one. -/
theorem map_index? (normal : criteria.IsNormal) :
    criteria.index?.toList.map (fun position => (Key.index, Value.index position)) =
      criteria.entries.filter (·.1 = .index) := by
  rw [OrderedMap.filter_key_eq, index?]
  cases asked : criteria.get? .index with
  | none => rfl
  | some value =>
      obtain ⟨position, rfl⟩ := (normal.positions _ _ asked).1 rfl
      rfl

theorem perm_withoutIndex (normal : criteria.IsNormal) :
    (criteria.index?.toList.map (fun position => (Key.index, Value.index position)) ++
      criteria.withoutIndex.entries).Perm criteria.entries := by
  rw [map_index? normal, entries_withoutIndex]
  simpa using List.filter_append_perm (·.1 = Key.index) criteria.entries

theorem perm_withoutPatterns (criteria : Criteria) :
    (criteria.patterns.map (fun entry => (entry.1, Value.pattern entry.2)) ++
      criteria.withoutPatterns.entries).Perm criteria.entries := by
  rw [map_patterns, entries_withoutPatterns]
  exact List.filter_append_perm (·.2.isPattern) criteria.entries

/-! ## Where patterns are taken out -/

section Plan

variable {kind : ElementKind} {preferCss : Bool}

theorem parts_of_filtered (planned : criteria.withoutIndex.plan kind preferCss = .ok .filtered) :
    criteria.parts kind preferCss =
      ⟨criteria.index?, criteria.withoutIndex.patterns,
        criteria.withoutIndex.withoutPatterns⟩ := by
  rw [parts, planned]

theorem parts_of_not_filtered
    (other : criteria.withoutIndex.plan kind preferCss ≠ .ok .filtered) :
    criteria.parts kind preferCss = ⟨criteria.index?, [], criteria.withoutIndex⟩ := by
  unfold parts
  split
  · next planned => exact absurd planned other
  · rfl

theorem position_parts : (criteria.parts kind preferCss).position = criteria.index? := by
  unfold parts
  split
  · rfl
  · rfl

/-- Criteria are filtered by their patterns, if they have some, unless the caller gave a query. -/
theorem plan_eq_filtered_iff
    (plain : ∀ key value, key = .xpath ∨ key = .css → criteria.get? key = some value →
      ∃ text, value = .literal text)
    (unplaced : criteria.contains .index = false) :
    criteria.plan kind preferCss = .ok .filtered ↔
      criteria.hasPattern = true ∧ criteria.contains .xpath = false ∧
        criteria.contains .css = false := by
  constructor
  · intro planned
    rw [plan, unplaced, if_neg Bool.false_ne_true] at planned
    split at planned
    · cases planned
    · cases planned
    · next ungiven =>
        rw [givenQuery?_eq_ok_none_iff, bind_literal?_eq_none_iff plain (.inl rfl),
          bind_literal?_eq_none_iff plain (.inr rfl)] at ungiven
        split at planned
        · next patterned => exact ⟨patterned, ungiven⟩
        · cases built : criteria.exactQuery kind preferCss with
          | error fault =>
              rw [built] at planned
              cases planned
          | ok query =>
              rw [built] at planned
              cases planned
  · rintro ⟨patterned, pathless, cssless⟩
    exact plan_of_pattern kind preferCss patterned pathless cssless unplaced

theorem get?_of_withoutIndex {key : Key} {value : Value}
    (asked : criteria.withoutIndex.get? key = some value) : criteria.get? key = some value := by
  rw [withoutIndex, OrderedMap.erase, OrderedMap.get?_filter, Option.filter_eq_some_iff] at asked
  exact asked.1

theorem contains_withoutIndex {key : Key} (other : key ≠ .index) :
    criteria.withoutIndex.contains key = criteria.contains key := by
  rw [OrderedMap.contains_eq_isSome_get?, OrderedMap.contains_eq_isSome_get?,
    get?_withoutIndex other]

/-- The queries that the caller gave stay where the position is taken out. -/
theorem HasQuery.of_withoutIndex {query : Query} (has : criteria.withoutIndex.HasQuery query) :
    criteria.HasQuery query := by
  cases has with
  | xpath asked cssless =>
      rw [contains_withoutIndex (by decide)] at cssless
      exact .xpath (get?_of_withoutIndex asked) cssless
  | css asked pathless =>
      rw [contains_withoutIndex (by decide)] at pathless
      exact .css (get?_of_withoutIndex asked) pathless

/-- Where the caller gave a query, it is the plan, or it is in conflict with something. -/
theorem plan_of_given
    (plain : ∀ key value, key = .xpath ∨ key = .css → criteria.get? key = some value →
      ∃ text, value = .literal text)
    (unplaced : criteria.contains .index = false)
    (given : criteria.contains .xpath = true ∨ criteria.contains .css = true) :
    (∃ query, criteria.HasQuery query ∧ criteria.plan kind preferCss = .ok (.exact query)) ∨
      ∃ reason, criteria.plan kind preferCss = .error (.conflictingStrategy reason) := by
  have settled := settled_givenQuery? plain
  rw [plan, unplaced, if_neg Bool.false_ne_true]
  generalize criteria.givenQuery? = outcome at settled ⊢
  cases settled with
  | absent pathless cssless =>
      rw [pathless, cssless] at given
      simp at given
  | taken has _ => exact .inl ⟨_, has, rfl⟩
  | refused _ _ reason => exact .inr ⟨reason, rfl⟩
  | both _ _ reason => exact .inr ⟨reason, rfl⟩

/-- A position is no pattern. -/
theorem hasPattern_withoutIndex (normal : criteria.IsNormal) :
    criteria.withoutIndex.hasPattern = criteria.hasPattern := by
  rw [← Bool.not_inj_iff, Bool.eq_iff_iff, Bool.not_eq_true', Bool.not_eq_true',
    hasPattern_eq_false_iff, hasPattern_eq_false_iff]
  constructor
  · intro plain key value asked
    by_cases placed : key = .index
    · obtain ⟨position, rfl⟩ := (normal.positions key value asked).1 placed
      rfl
    · exact plain key value ((get?_withoutIndex placed).trans asked)
  · intro plain key value asked
    exact plain key value (get?_of_withoutIndex asked)

theorem plan_withoutIndex_eq_filtered_iff (normal : criteria.IsNormal) :
    criteria.withoutIndex.plan kind preferCss = .ok .filtered ↔
      criteria.hasPattern = true ∧ criteria.contains .xpath = false ∧
        criteria.contains .css = false := by
  have plain (key : Key) (value : Value) (query : key = .xpath ∨ key = .css)
      (asked : criteria.withoutIndex.get? key = some value) : ∃ text, value = .literal text :=
    normal.queries key value query (get?_of_withoutIndex asked)
  rw [plan_eq_filtered_iff plain (contains_index_withoutIndex criteria),
    hasPattern_withoutIndex normal, contains_withoutIndex (by decide),
    contains_withoutIndex (by decide)]

end Plan

/-! ## The parts of normal criteria -/

section Normal

variable {kind : ElementKind} {preferCss : Bool} {parts : Parts}

theorem Parts.divide_of_complete (complete : parts.entries.Perm criteria.entries)
    (patterns : parts.patternEntries.Sublist criteria.entries)
    (residue : parts.residue.entries.Sublist criteria.entries) : parts.Divide criteria :=
  ⟨complete, (complete.map Prod.fst).nodup_iff.2 criteria.distinct, patterns, residue⟩

/-- The parts are the criteria, whether patterns are taken out or not. -/
theorem divide_parts (normal : criteria.IsNormal) :
    (criteria.parts kind preferCss).Divide criteria := by
  have kept : criteria.withoutIndex.entries.Sublist criteria.entries := List.filter_sublist
  by_cases planned : criteria.withoutIndex.plan kind preferCss = .ok .filtered
  · rw [parts_of_filtered planned]
    apply Parts.divide_of_complete
    · rw [Parts.entries, List.append_assoc]
      exact ((perm_withoutPatterns criteria.withoutIndex).append_left _).trans
        (perm_withoutIndex normal)
    · rw [Parts.patternEntries, map_patterns]
      exact List.filter_sublist.trans kept
    · exact List.filter_sublist.trans kept
  · rw [parts_of_not_filtered planned]
    apply Parts.divide_of_complete
    · rw [Parts.entries, List.append_assoc]
      exact perm_withoutIndex normal
    · exact List.nil_sublist _
    · exact kept

theorem contains_index_residue_parts :
    (criteria.parts kind preferCss).residue.contains .index = false := by
  have unplaced := contains_index_withoutIndex criteria
  by_cases planned : criteria.withoutIndex.plan kind preferCss = .ok .filtered
  · rw [parts_of_filtered planned]
    rw [OrderedMap.contains_eq_false_iff] at unplaced ⊢
    rw [get?_withoutPatterns, unplaced]
    rfl
  · rw [parts_of_not_filtered planned]
    exact unplaced

/-- Patterns stay among what is left where the caller gave a query, and only there. -/
theorem hasPattern_residue_parts_iff (normal : criteria.IsNormal) :
    (criteria.parts kind preferCss).residue.hasPattern = true ↔
      criteria.hasPattern = true ∧
        (criteria.contains .xpath = true ∨ criteria.contains .css = true) := by
  by_cases planned : criteria.withoutIndex.plan kind preferCss = .ok .filtered
  · obtain ⟨-, pathless, cssless⟩ := (plan_withoutIndex_eq_filtered_iff normal).1 planned
    rw [parts_of_filtered planned, hasPattern_withoutPatterns, pathless, cssless]
    simp
  · have unfiltered := mt (plan_withoutIndex_eq_filtered_iff normal).2 planned
    rw [parts_of_not_filtered planned, hasPattern_withoutIndex normal]
    refine ⟨fun patterned => ⟨patterned, ?_⟩, And.left⟩
    by_contra neither
    rw [not_or, Bool.not_eq_true, Bool.not_eq_true] at neither
    exact unfiltered ⟨patterned, neither⟩

/-- Beside a query that the caller gave no pattern is taken out; the search goes by that query or
refuses what stands beside it. -/
theorem parts_of_given (normal : criteria.IsNormal)
    (given : criteria.contains .xpath = true ∨ criteria.contains .css = true) :
    (criteria.parts kind preferCss).patterns = [] ∧
      (criteria.parts kind preferCss).residue = criteria.withoutIndex ∧
      ((∃ query, criteria.HasQuery query ∧
          criteria.withoutIndex.plan kind preferCss = .ok (.exact query)) ∨
        ∃ reason, criteria.withoutIndex.plan kind preferCss =
          .error (.conflictingStrategy reason)) := by
  have unfiltered : criteria.withoutIndex.plan kind preferCss ≠ .ok .filtered := by
    rw [Ne, plan_withoutIndex_eq_filtered_iff normal]
    rintro ⟨-, pathless, cssless⟩
    rw [pathless, cssless] at given
    simp at given
  have plain (key : Key) (value : Value) (query : key = .xpath ∨ key = .css)
      (asked : criteria.withoutIndex.get? key = some value) : ∃ text, value = .literal text :=
    normal.queries key value query (get?_of_withoutIndex asked)
  have left : criteria.withoutIndex.contains .xpath = true ∨
      criteria.withoutIndex.contains .css = true := by
    rwa [contains_withoutIndex (by decide), contains_withoutIndex (by decide)]
  rw [parts_of_not_filtered unfiltered]
  refine ⟨rfl, rfl, ?_⟩
  obtain ⟨query, has, planned⟩ | refused :=
    plan_of_given plain (contains_index_withoutIndex criteria) left
  · exact .inl ⟨query, has.of_withoutIndex, planned⟩
  · exact .inr refused

/-- What is compiled to a filtered query was planned to be filtered, with a query for what is left
without the patterns. -/
theorem plan_of_compile_eq_filtered {base narrowed : Query} {patterns : List (Key × Pattern)}
    (compiled : criteria.compile kind preferCss = .ok (.filtered base narrowed patterns)) :
    criteria.plan kind preferCss = .ok .filtered ∧
      criteria.withoutPatterns.exactQuery kind preferCss = .ok base ∧
      patterns = criteria.patterns := by
  unfold compile at compiled
  cases planned : criteria.plan kind preferCss with
  | error fault =>
      rw [planned] at compiled
      cases compiled
  | ok plan =>
      rw [planned] at compiled
      cases plan with
      | exact query => cases compiled
      | filtered =>
          refine ⟨rfl, ?_⟩
          cases built : criteria.withoutPatterns.exactQuery kind preferCss with
          | error fault =>
              simp only [built] at compiled
              cases compiled
          | ok found =>
              simp only [built] at compiled
              cases compiled
              exact ⟨rfl, rfl⟩

end Normal

end Criteria

namespace Selector

variable {kind : ElementKind} {preferCss : Bool} {selector : Selector} {criteria : Criteria}
  {compiled : CompiledSelector}

/-- The position is set aside while the other criteria are compiled. -/
theorem compile_eq (normalized : selector.normalize kind = .ok criteria) :
    selector.compile kind preferCss =
      (criteria.withoutIndex.compile kind preferCss).map fun query => ⟨query, criteria.index?⟩ := by
  rw [compile, normalized]
  cases compiled : criteria.withoutIndex.compile kind preferCss with
  | error fault => simp [compiled, bind, Except.bind, Except.map]
  | ok query => simp [compiled, bind, Except.bind, Except.map, pure, Except.pure]

/-- A selector is compiled from the parts of its criteria. -/
theorem parts_of_compile (normalized : selector.normalize kind = .ok criteria)
    (succeeded : selector.compile kind preferCss = .ok compiled) :
    compiled.position = (criteria.parts kind preferCss).position ∧
      ∀ base narrowed patterns, compiled.query = .filtered base narrowed patterns →
        patterns = (criteria.parts kind preferCss).patterns ∧
          (criteria.parts kind preferCss).residue.exactQuery kind preferCss = .ok base := by
  rw [compile_eq normalized] at succeeded
  cases queried : criteria.withoutIndex.compile kind preferCss with
  | error fault =>
      rw [queried] at succeeded
      cases succeeded
  | ok query =>
      rw [queried] at succeeded
      cases succeeded
      refine ⟨Criteria.position_parts.symm, ?_⟩
      rintro base narrowed patterns rfl
      obtain ⟨planned, built, rfl⟩ := Criteria.plan_of_compile_eq_filtered queried
      rw [Criteria.parts_of_filtered planned]
      exact ⟨rfl, built⟩

/-- The parts of the criteria of a selector are the criteria: each is in one part, once and as it
was, and in the order of the criteria. Patterns are taken out exactly where there are some and the
caller gave no query; only beside such a query they stay among what is left. There nothing but the
position is taken out, and the plan is the query that was given, unless that is refused for what
stands beside it. Otherwise what is left has no pattern and no position, and a query is written for
it. What the selector is compiled to is made of these parts. -/
theorem parts_of_normalize (kind : ElementKind) (preferCss : Bool)
    (normalized : selector.normalize kind = .ok criteria) :
    let parts := criteria.parts kind preferCss
    parts.Divide criteria ∧
      (criteria.withoutIndex.plan kind preferCss = .ok .filtered ↔
        criteria.hasPattern = true ∧ criteria.contains .xpath = false ∧
          criteria.contains .css = false) ∧
      parts.residue.contains .index = false ∧
      (parts.residue.hasPattern = true ↔ criteria.hasPattern = true ∧
        (criteria.contains .xpath = true ∨ criteria.contains .css = true)) ∧
      (criteria.contains .xpath = true ∨ criteria.contains .css = true →
        parts.patterns = [] ∧ parts.residue = criteria.withoutIndex ∧
          ((∃ query, criteria.HasQuery query ∧
              criteria.withoutIndex.plan kind preferCss = .ok (.exact query)) ∨
            ∃ reason, criteria.withoutIndex.plan kind preferCss =
              .error (.conflictingStrategy reason))) ∧
      (parts.residue.hasPattern = false →
        ∃ query, parts.residue.exactQuery kind preferCss = .ok query) ∧
      ∀ compiled, selector.compile kind preferCss = .ok compiled →
        compiled.position = parts.position ∧
          ∀ base narrowed patterns, compiled.query = .filtered base narrowed patterns →
            patterns = parts.patterns ∧ parts.residue.exactQuery kind preferCss = .ok base := by
  have normal := (Criteria.isFiled_of_normalize normalized).isNormal
  exact ⟨Criteria.divide_parts normal, Criteria.plan_withoutIndex_eq_filtered_iff normal,
    Criteria.contains_index_residue_parts, Criteria.hasPattern_residue_parts_iff normal,
    Criteria.parts_of_given normal,
    Criteria.exists_exactQuery kind preferCss Criteria.contains_index_residue_parts,
    fun compiled => parts_of_compile normalized⟩

/-- A pattern that is found at the beginning of a text. -/
def initialPattern : Pattern := (Pattern.ofSource? "^d" false).get (by decide +kernel)

/-- Of the criteria for the last of some buttons, the position and both patterns are taken out, and
the tag is left. -/
theorem parts_of_normalize_button :
    ∃ (selector : Selector) (criteria : Criteria), selector.entries =
        [("text", .pattern initialPattern), ("tag_name", .literal "button"),
          ("class", .pattern initialPattern), ("index", .index (-1))] ∧
      selector.normalize .generic = .ok criteria ∧
      (criteria.parts .generic false).Divide criteria ∧
      (criteria.parts .generic false).position = some (-1) ∧
      (criteria.parts .generic false).patterns =
        [(.text, initialPattern), (.className, initialPattern)] ∧
      (criteria.parts .generic false).residue.entries = [(.tagName, .literal "button")] ∧
      ∃ query, (criteria.parts .generic false).residue.exactQuery .generic false = .ok query := by
  let selector : Selector := ⟨[("text", .pattern initialPattern), ("tag_name", .literal "button"),
    ("class", .pattern initialPattern), ("index", .index (-1))], by decide⟩
  let criteria : Criteria := ⟨[(.text, .pattern initialPattern), (.tagName, .literal "button"),
    (.className, .pattern initialPattern), (.index, .index (-1))], by decide⟩
  have normalized : selector.normalize .generic = .ok criteria := rfl
  obtain ⟨divide, -, -, -, -, queried, -⟩ := parts_of_normalize .generic false normalized
  exact ⟨selector, criteria, rfl, normalized, divide, rfl, rfl, rfl, queried rfl⟩

/-- Beside a path that the caller gave, a pattern is taken neither out nor into account: it stays
among what is left, and no query is written for that. -/
theorem exists_pattern_beside_path :
    ∃ (selector : Selector) (criteria : Criteria), selector.entries =
        [("xpath", .literal "//div"), ("tag_name", .pattern initialPattern)] ∧
      selector.normalize .generic = .ok criteria ∧
      criteria.withoutIndex.plan .generic false = .ok (.exact (.xpath "//div")) ∧
      (criteria.parts .generic false).patterns = [] ∧
      (criteria.parts .generic false).residue.hasPattern = true ∧
      (criteria.parts .generic false).residue.exactQuery .generic false =
        .error (.unbuildable criteria.display) := by
  let selector : Selector :=
    ⟨[("xpath", .literal "//div"), ("tag_name", .pattern initialPattern)], by decide⟩
  let criteria : Criteria :=
    ⟨[(.xpath, .literal "//div"), (.tagName, .pattern initialPattern)], by decide⟩
  exact ⟨selector, criteria, rfl, rfl, rfl, rfl, rfl, rfl⟩

end Selector

end ElementSearch
