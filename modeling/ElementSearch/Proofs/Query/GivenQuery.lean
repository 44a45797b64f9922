/-
# Queries that the caller has

A caller may write a query in XPath or in CSS, and then hardly anything may stand beside it: nothing
at all, a tag, or the tag of an input with a type. The rule is one for a set of keys, while they
are looked at in the order in which they were added. The order decides nothing: the same criteria
in another order come to the same query, or are in conflict as well.
-/

import Mathlib.Data.Set.Insert
import ElementSearch.Proofs.Query.Preference
import ElementSearch.Proofs.Selector.Order

namespace ElementSearch

theorem Key.isAttribute_type_iff {key : Key} : key.isAttribute "type" = true ↔ key = .type := by
  cases key with
  | attr name free => simp [isAttribute, Key.type]
  | _ => simp [isAttribute, Key.type]

namespace Criteria

variable {criteria other : Criteria}

/-! ## What may stand beside a query -/

/-- The keys of the criteria but for those of queries. -/
def companions (criteria : Criteria) : Set Key :=
  {key | criteria.contains key = true ∧ key ≠ .xpath ∧ key ≠ .css}

/-- What may stand beside a query: nothing, a tag, or the tag of an input with a type. -/
def AllowsQuery (criteria : Criteria) : Prop :=
  criteria.companions = ∅ ∨ criteria.companions = {.tagName} ∨
    criteria.companions = {.tagName, .type} ∧ criteria.get? .tagName = some (.literal "input")

/-- The keys of the criteria but for those of queries, in order. -/
def companionKeys (criteria : Criteria) : List Key :=
  criteria.keys.filter fun key => key != .xpath && key != .css

theorem mem_companionKeys_iff {key : Key} :
    key ∈ criteria.companionKeys ↔ key ∈ criteria.companions := by
  rw [companionKeys, List.mem_filter, ← OrderedMap.contains_iff_mem_keys]
  simp [companions]

theorem nodup_companionKeys (criteria : Criteria) : criteria.companionKeys.Nodup :=
  List.Nodup.filter _ criteria.distinct

/-- The companions are these keys if they are listed in some order. -/
theorem companions_eq_iff {keys : List Key} (distinct : keys.Nodup) :
    criteria.companions = {key | key ∈ keys} ↔ criteria.companionKeys.Perm keys := by
  rw [List.perm_ext_iff_of_nodup criteria.nodup_companionKeys distinct, Set.ext_iff]
  simp only [mem_companionKeys_iff, Set.mem_ofPred_eq]

/-- Two keys are looked at in both orders. -/
theorem perm_pair_iff {first second : Key} : [first, second].Perm [.tagName, .type] ↔
    first = .tagName ∧ second = .type ∨ first = .type ∧ second = .tagName := by
  constructor
  · intro perm
    have listed := perm.subset (a := first) (by simp)
    rcases List.mem_cons.1 listed with rfl | later
    · exact .inl ⟨rfl, List.singleton_perm_singleton.1 (perm.cons_inv)⟩
    · obtain rfl := List.mem_singleton.1 later
      have turned := perm.trans (List.Perm.swap Key.type Key.tagName [])
      exact .inr ⟨rfl, List.singleton_perm_singleton.1 turned.cons_inv⟩
  · rintro (⟨rfl, rfl⟩ | ⟨rfl, rfl⟩)
    · exact .refl _
    · exact .swap _ _ []

theorem mayAccompany_iff (criteria : Criteria) (keys : List Key) :
    criteria.mayAccompany keys = true ↔ keys.Perm [] ∨ keys.Perm [.tagName] ∨
      keys.Perm [.tagName, .type] ∧ criteria.get? .tagName = some (.literal "input") := by
  match keys with
  | [] => simp [mayAccompany]
  | [key] =>
      rw [mayAccompany, beq_iff_eq, List.singleton_perm_singleton]
      simp
  | [first, second] =>
      have input : ((criteria.get? .tagName).bind Value.literal? == some "input") = true ↔
          criteria.get? .tagName = some (.literal "input") := by
        rw [beq_iff_eq, Option.bind_eq_some_iff]
        simp [Value.literal?_eq_some_iff]
      rw [mayAccompany, Bool.and_eq_true, input, Bool.or_eq_true, Bool.and_eq_true,
        Bool.and_eq_true, Key.isAttribute_type_iff, Key.isAttribute_type_iff, beq_iff_eq,
        beq_iff_eq, perm_pair_iff, and_comm]
      simp
  | first :: second :: third :: rest =>
      have long {keys : List Key} (short : keys.length ≤ 2) :
          ¬ (first :: second :: third :: rest).Perm keys := by
        intro perm
        have same := perm.length_eq
        simp only [List.length_cons] at same
        omega
      refine iff_of_false Bool.false_ne_true ?_
      rintro (perm | perm | ⟨perm, _⟩)
      · exact long (by decide) perm
      · exact long (by decide) perm
      · exact long (by decide) perm

/-- The keys beside a query are looked at as a set. -/
theorem mayAccompany_companionKeys_iff :
    criteria.mayAccompany criteria.companionKeys = true ↔ criteria.AllowsQuery := by
  have none : criteria.companions = ∅ ↔ criteria.companionKeys.Perm [] := by
    rw [← companions_eq_iff List.nodup_nil]
    simp
  have tag : criteria.companions = {.tagName} ↔ criteria.companionKeys.Perm [.tagName] := by
    rw [← companions_eq_iff (List.nodup_singleton _)]
    simp
  have pair : criteria.companions = {.tagName, .type} ↔
      criteria.companionKeys.Perm [.tagName, .type] := by
    rw [← companions_eq_iff (by decide)]
    simp [Set.insert_def]
  rw [mayAccompany_iff, AllowsQuery, none, tag, pair]

/-! ## What comes of a query -/

/-- The criteria have this query and none in the other language. -/
inductive HasQuery (criteria : Criteria) : Query → Prop
  | xpath {text : String} (asked : criteria.get? .xpath = some (.literal text))
      (cssless : criteria.contains .css = false) : HasQuery criteria (.xpath text)
  | css {text : String} (asked : criteria.get? .css = some (.literal text))
      (pathless : criteria.contains .xpath = false) : HasQuery criteria (.css text)

theorem HasQuery.not_absent {query : Query} (has : criteria.HasQuery query) :
    ¬ (criteria.contains .xpath = false ∧ criteria.contains .css = false) := by
  rintro ⟨pathless, cssless⟩
  cases has with
  | xpath asked _ => exact get?_ne_some_of_absent pathless _ asked
  | css asked _ => exact get?_ne_some_of_absent cssless _ asked

theorem HasQuery.not_both {query : Query} (has : criteria.HasQuery query) :
    ¬ (criteria.contains .xpath = true ∧ criteria.contains .css = true) := by
  rintro ⟨pathed, styled⟩
  cases has with
  | xpath _ cssless => exact Bool.false_ne_true (cssless.symm.trans styled)
  | css _ pathless => exact Bool.false_ne_true (pathless.symm.trans pathed)

theorem HasQuery.unique {first second : Query} (has : criteria.HasQuery first)
    (hasToo : criteria.HasQuery second) : first = second := by
  cases has with
  | xpath asked cssless =>
      cases hasToo with
      | xpath askedToo _ =>
          cases asked.symm.trans askedToo
          rfl
      | css askedToo _ => exact absurd askedToo (get?_ne_some_of_absent cssless _)
  | css asked pathless =>
      cases hasToo with
      | xpath askedToo _ => exact absurd askedToo (get?_ne_some_of_absent pathless _)
      | css askedToo _ =>
          cases asked.symm.trans askedToo
          rfl

/-- What can come of the queries that the criteria have. -/
inductive Settled (criteria : Criteria) : Except Fault (Option Query) → Prop
  | absent (pathless : criteria.contains .xpath = false)
      (cssless : criteria.contains .css = false) : Settled criteria (.ok none)
  | taken {query : Query} (has : criteria.HasQuery query) (allowed : criteria.AllowsQuery) :
      Settled criteria (.ok (some query))
  /-- Something stands beside the query that it does not allow. -/
  | refused {query : Query} (has : criteria.HasQuery query) (crowded : ¬ criteria.AllowsQuery)
      (reason : String) : Settled criteria (.error (.conflictingStrategy reason))
  /-- Two queries are given. -/
  | both (pathed : criteria.contains .xpath = true) (styled : criteria.contains .css = true)
      (reason : String) : Settled criteria (.error (.conflictingStrategy reason))

theorem settled_of_hasQuery {query : Query} (has : criteria.HasQuery query) :
    criteria.Settled criteria.givenQuery? := by
  have evaluated : criteria.givenQuery? =
      if criteria.mayAccompany criteria.companionKeys then .ok (some query)
      else .error (.conflictingStrategy
        (query.strategy.display ++ " cannot be combined with other selectors (" ++
          criteria.display ++ ")")) := by
    cases has with
    | xpath asked cssless =>
        rw [givenQuery?, asked, OrderedMap.contains_eq_false_iff.1 cssless]
        rfl
    | css asked pathless =>
        rw [givenQuery?, asked, OrderedMap.contains_eq_false_iff.1 pathless]
        rfl
  rw [evaluated]
  split
  · next allowed => exact .taken has (mayAccompany_companionKeys_iff.1 allowed)
  · next crowded => exact .refused has (mt mayAccompany_companionKeys_iff.2 crowded) _

section Given

variable (plain : ∀ key value, key = .xpath ∨ key = .css → criteria.get? key = some value →
  ∃ text, value = .literal text)

include plain

theorem exists_literal_of_contains {key : Key} (query : key = .xpath ∨ key = .css)
    (present : criteria.contains key = true) :
    ∃ text, criteria.get? key = some (.literal text) := by
  rw [OrderedMap.contains_eq_isSome_get?, Option.isSome_iff_exists] at present
  obtain ⟨value, asked⟩ := present
  obtain ⟨text, rfl⟩ := plain key value query asked
  exact ⟨text, asked⟩

/-- How many queries there are decides what can come of them. -/
theorem settled_givenQuery? : criteria.Settled criteria.givenQuery? := by
  cases pathed : criteria.contains .xpath with
  | false =>
      cases styled : criteria.contains .css with
      | false =>
          have none : criteria.givenQuery? = .ok none := by
            rw [givenQuery?_eq_ok_none_iff, bind_literal?_eq_none_iff plain (.inl rfl),
              bind_literal?_eq_none_iff plain (.inr rfl)]
            exact ⟨pathed, styled⟩
          rw [none]
          exact .absent pathed styled
      | true =>
          obtain ⟨text, asked⟩ := exists_literal_of_contains plain (.inr rfl) styled
          exact settled_of_hasQuery (.css asked pathed)
  | true =>
      obtain ⟨path, asked⟩ := exists_literal_of_contains plain (.inl rfl) pathed
      cases styled : criteria.contains .css with
      | false => exact settled_of_hasQuery (.xpath asked styled)
      | true =>
          obtain ⟨text, askedToo⟩ := exists_literal_of_contains plain (.inr rfl) styled
          rw [givenQuery?, asked, askedToo]
          exact .both pathed styled _

end Given

namespace Settled

variable {outcome : Except Fault (Option Query)} (settled : criteria.Settled outcome)

include settled

theorem eq_none_iff : outcome = .ok none ↔
    criteria.contains .xpath = false ∧ criteria.contains .css = false := by
  cases settled with
  | absent pathless cssless => exact iff_of_true rfl ⟨pathless, cssless⟩
  | taken has _ => exact iff_of_false nofun has.not_absent
  | refused has _ _ => exact iff_of_false nofun has.not_absent
  | both pathed _ _ =>
      refine iff_of_false nofun fun absent => ?_
      exact Bool.false_ne_true (absent.1.symm.trans pathed)

theorem eq_some_iff {query : Query} :
    outcome = .ok (some query) ↔ criteria.HasQuery query ∧ criteria.AllowsQuery := by
  cases settled with
  | absent pathless cssless =>
      exact iff_of_false nofun fun given => given.1.not_absent ⟨pathless, cssless⟩
  | taken has allowed =>
      constructor
      · rintro ⟨⟩
        exact ⟨has, allowed⟩
      · rintro ⟨given, _⟩
        rw [has.unique given]
  | refused has crowded _ => exact iff_of_false nofun fun given => crowded given.2
  | both pathed styled _ => exact iff_of_false nofun fun given => given.1.not_both ⟨pathed, styled⟩

theorem exists_eq_conflict_iff : (∃ reason, outcome = .error (.conflictingStrategy reason)) ↔
    criteria.contains .xpath = true ∧ criteria.contains .css = true ∨
      (∃ query, criteria.HasQuery query) ∧ ¬ criteria.AllowsQuery := by
  cases settled with
  | absent pathless cssless =>
      refine iff_of_false nofun ?_
      rintro (⟨pathed, _⟩ | ⟨⟨query, has⟩, _⟩)
      · exact Bool.false_ne_true (pathless.symm.trans pathed)
      · exact has.not_absent ⟨pathless, cssless⟩
  | taken has allowed =>
      refine iff_of_false nofun ?_
      rintro (both | ⟨_, crowded⟩)
      · exact has.not_both both
      · exact crowded allowed
  | refused has crowded reason => exact iff_of_true ⟨reason, rfl⟩ (.inr ⟨⟨_, has⟩, crowded⟩)
  | both pathed styled reason => exact iff_of_true ⟨reason, rfl⟩ (.inl ⟨pathed, styled⟩)

end Settled

/-! ## The order of the criteria -/

/-- Two outcomes that are the same but for the wording of a conflict. -/
inductive GivenAlike : Except Fault (Option Query) → Except Fault (Option Query) → Prop
  | given (query : Option Query) : GivenAlike (.ok query) (.ok query)
  | conflict (first second : String) :
      GivenAlike (.error (.conflictingStrategy first)) (.error (.conflictingStrategy second))

/-- What comes of the same queries is the same, but for the wording of a conflict. -/
theorem Settled.alike {first second : Except Fault (Option Query)}
    (settled : criteria.Settled first) (again : criteria.Settled second) :
    GivenAlike first second := by
  cases settled with
  | absent pathless cssless =>
      rw [again.eq_none_iff.2 ⟨pathless, cssless⟩]
      exact .given none
  | taken has allowed =>
      rw [again.eq_some_iff.2 ⟨has, allowed⟩]
      exact .given _
  | refused has crowded reason =>
      obtain ⟨other, rfl⟩ := again.exists_eq_conflict_iff.2 (.inr ⟨⟨_, has⟩, crowded⟩)
      exact .conflict reason other
  | both pathed styled reason =>
      obtain ⟨other, rfl⟩ := again.exists_eq_conflict_iff.2 (.inl ⟨pathed, styled⟩)
      exact .conflict reason other

section Order

variable (same : ∀ key, criteria.get? key = other.get? key)

include same

theorem contains_congr (key : Key) : criteria.contains key = other.contains key := by
  rw [OrderedMap.contains_eq_isSome_get?, OrderedMap.contains_eq_isSome_get?, same]

theorem allowsQuery_congr : criteria.AllowsQuery ↔ other.AllowsQuery := by
  have companions : criteria.companions = other.companions := by
    unfold companions
    simp only [contains_congr same]
  rw [AllowsQuery, AllowsQuery, companions, same]

theorem HasQuery.congr {query : Query} (has : criteria.HasQuery query) : other.HasQuery query := by
  cases has with
  | xpath asked cssless =>
      exact .xpath ((same .xpath).symm.trans asked) ((contains_congr same .css).symm.trans cssless)
  | css asked pathless =>
      exact .css ((same .css).symm.trans asked) ((contains_congr same .xpath).symm.trans pathless)

/-- Only the values of the keys decide. -/
theorem Settled.congr {outcome : Except Fault (Option Query)} (settled : criteria.Settled outcome) :
    other.Settled outcome := by
  cases settled with
  | absent pathless cssless =>
      rw [contains_congr same] at pathless cssless
      exact .absent pathless cssless
  | taken has allowed => exact .taken (has.congr same) ((allowsQuery_congr same).1 allowed)
  | refused has crowded reason =>
      exact .refused (has.congr same) (mt (allowsQuery_congr same).2 crowded) reason
  | both pathed styled reason =>
      rw [contains_congr same] at pathed styled
      exact .both pathed styled reason

end Order

/-- There is no given query exactly if the criteria have none; the query is in conflict exactly if
there is another in the other language or something beside it that it does not allow; otherwise
it is taken as it was given. The order of the criteria changes at most the wording of a conflict. -/
theorem givenQuery?_eq_iff
    (plain : ∀ key value, key = .xpath ∨ key = .css → criteria.get? key = some value →
      ∃ text, value = .literal text) :
    (criteria.givenQuery? = .ok none ↔
      criteria.contains .xpath = false ∧ criteria.contains .css = false) ∧
    ((∃ reason, criteria.givenQuery? = .error (.conflictingStrategy reason)) ↔
      criteria.contains .xpath = true ∧ criteria.contains .css = true ∨
        (∃ query, criteria.HasQuery query) ∧ ¬ criteria.AllowsQuery) ∧
    (∀ query, criteria.givenQuery? = .ok (some query) ↔
      criteria.HasQuery query ∧ criteria.AllowsQuery) ∧
    ∀ other : Criteria, other.entries.Perm criteria.entries →
      GivenAlike criteria.givenQuery? other.givenQuery? := by
  have settled := settled_givenQuery? plain
  refine ⟨settled.eq_none_iff, settled.exists_eq_conflict_iff, fun _ => settled.eq_some_iff, ?_⟩
  intro other perm
  have same : ∀ key, other.get? key = criteria.get? key :=
    OrderedMap.sameAs_iff_get?.1 (OrderedMap.sameAs_iff_perm.2 perm)
  have plainToo : ∀ key value, key = .xpath ∨ key = .css → other.get? key = some value →
      ∃ text, value = .literal text := by
    intro key value query asked
    exact plain key value query ((same key).symm.trans asked)
  exact settled.alike ((settled_givenQuery? plainToo).congr same)

/-- The type of an input may stand beside its path wherever it was added, and a class may not. -/
theorem givenQuery?_eq_iff_input :
    ∃ radios turned classed : Criteria,
      radios.entries =
        [(.xpath, .literal "//input"), (.tagName, .literal "input"), (.type, .literal "radio")] ∧
      turned.entries =
        [(.type, .literal "radio"), (.xpath, .literal "//input"), (.tagName, .literal "input")] ∧
      radios.AllowsQuery ∧ radios.givenQuery? = .ok (some (.xpath "//input")) ∧
      GivenAlike radios.givenQuery? turned.givenQuery? ∧
      classed.entries = [(.xpath, .literal "//div"), (.className, .literal "y")] ∧
      ¬ classed.AllowsQuery ∧
      ∃ reason, classed.givenQuery? = .error (.conflictingStrategy reason) := by
  let radios : Criteria := ⟨[(.xpath, .literal "//input"), (.tagName, .literal "input"),
    (.type, .literal "radio")], by decide⟩
  let turned : Criteria := ⟨[(.type, .literal "radio"), (.xpath, .literal "//input"),
    (.tagName, .literal "input")], by decide⟩
  let classed : Criteria := ⟨[(.xpath, .literal "//div"), (.className, .literal "y")], by decide⟩
  have plain {criteria : Criteria} {path : String}
      (pathed : criteria.get? .xpath = some (.literal path))
      (cssless : criteria.contains .css = false) (key : Key) (value : Value)
      (query : key = .xpath ∨ key = .css) (asked : criteria.get? key = some value) :
      ∃ text, value = .literal text := by
    rcases query with rfl | rfl
    · exact ⟨path, Option.some.inj (asked.symm.trans pathed)⟩
    · exact absurd asked (get?_ne_some_of_absent cssless value)
  have allowed : radios.AllowsQuery := mayAccompany_companionKeys_iff.1 (by decide)
  have crowded : ¬ classed.AllowsQuery := mt mayAccompany_companionKeys_iff.2 (by decide)
  obtain ⟨-, -, taken, alike⟩ := givenQuery?_eq_iff (@plain radios _ rfl rfl)
  obtain ⟨-, conflict, -, -⟩ := givenQuery?_eq_iff (@plain classed _ rfl rfl)
  exact ⟨radios, turned, classed, rfl, rfl, allowed, (taken _).2 ⟨.xpath rfl rfl, allowed⟩,
    alike turned (by decide), rfl, crowded, conflict.2 (.inr ⟨⟨_, .xpath rfl rfl⟩, crowded⟩)⟩

end Criteria

end ElementSearch
