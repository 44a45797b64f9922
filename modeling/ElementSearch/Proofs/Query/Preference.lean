/-
# What preferring CSS changes

A preference for CSS is heeded where a query has to be written and CSS can say what the criteria
ask for. It changes nothing else: what is refused, what is filtered, and which query the caller
gave do not depend on it. So two runs, with the preference and without it, differ at most in the
language of a query that was written.
-/

import Mathlib.Tactic.ByContra
import ElementSearch.Proofs.Query.Languages

namespace ElementSearch

namespace Criteria

variable {criteria : Criteria}

/-! ## What CSS cannot say -/

/-- The criteria ask for something that has no place in a query in CSS. -/
inductive NeedsXPath (criteria : Criteria) : Prop
  | text (asked : criteria.contains .text = true)
  | label (asked : criteria.contains .label = true)
  /-- A tag, a class or an attribute is to be something else than one text. -/
  | value {key : Key} {value : Value}
      (placed : key = .tagName ∨ key = .className ∨ key.isReserved = false)
      (asked : criteria.get? key = some value) (other : ∀ text, value ≠ .literal text)
  /-- A class cannot be written behind a dot. -/
  | token {token : String} (asked : criteria.get? .className = some (.literal token))
      (unwritable : Css.isToken token = false)
  /-- The type of an input is asked for. Its case does not matter, and CSS would look at it. -/
  | inputType (tag : criteria.get? .tagName = some (.literal "input"))
      (type : criteria.contains .type = true)

theorem any_isAttribute_type : criteria.keys.any (·.isAttribute "type") = criteria.contains .type := by
  rw [Bool.eq_iff_iff, OrderedMap.contains_iff_mem_keys, List.any_eq_true]
  constructor
  · rintro ⟨key, member, same⟩
    cases key with
    | attr name free =>
        obtain rfl := beq_iff_eq.1 same
        exact member
    | _ => cases same
  · exact fun member => ⟨.type, member, rfl⟩

theorem exists_literalOrAbsent? {key : Key}
    (plain : ∀ value, criteria.get? key = some value → ∃ text, value = .literal text) :
    ∃ found, criteria.literalOrAbsent? key = some found := by
  unfold literalOrAbsent?
  cases asked : criteria.get? key with
  | none => exact ⟨none, rfl⟩
  | some value =>
      obtain ⟨text, rfl⟩ := plain value asked
      exact ⟨some text, rfl⟩

theorem exists_attributeTests? {entries : List (Key × Value)}
    (plain : ∀ entry ∈ entries, entry.1.isReserved = false → ∃ text, entry.2 = .literal text) :
    ∃ tests, attributeTests? entries = some tests := by
  induction entries with
  | nil => exact ⟨[], rfl⟩
  | cons entry rest ih =>
      obtain ⟨first, others⟩ := List.forall_mem_cons.1 plain
      obtain ⟨tests, compiled⟩ := ih others
      obtain ⟨key, value⟩ := entry
      cases key with
      | attr name free =>
          obtain ⟨text, rfl⟩ := first rfl
          rw [attributeTests?, compiled]
          split
          · exact ⟨tests, rfl⟩
          · exact ⟨_, rfl⟩
      | _ => exact ⟨tests, compiled⟩

theorem contains_type_of_css? {query : Css.Query} (compiled : criteria.css? = some query)
    (tag : criteria.get? .tagName = some (.literal "input")) : criteria.contains .type = false := by
  have tagged : criteria.literalOrAbsent? .tagName = some (some "input") := by
    rw [literalOrAbsent?, tag]
    rfl
  rw [← any_isAttribute_type]
  unfold css? at compiled
  split at compiled
  · cases compiled
  · obtain ⟨found, same, compiled⟩ := Option.bind_eq_some_iff.1 compiled
    obtain rfl := Option.some.inj (tagged.symm.trans same)
    split at compiled
    · cases compiled
    · next untyped => simpa using untyped

theorem not_needsXPath_of_css? {query : Css.Query} (compiled : criteria.css? = some query) :
    ¬ criteria.NeedsXPath := by
  have said := saidBy_of_css? compiled
  rintro (asked | asked | ⟨placed, asked, other⟩ | ⟨asked, unwritable⟩ | ⟨tag, type⟩)
  · exact Bool.false_ne_true (said.text.symm.trans asked)
  · exact Bool.false_ne_true (said.label.symm.trans asked)
  · obtain ⟨text, literal⟩ := said.literal placed asked
    exact other text literal
  · have writable := (all_iff_of_literalOrAbsent? said.token Css.isToken).1 said.plain _ asked
    exact Bool.false_ne_true (unwritable.symm.trans writable)
  · exact Bool.false_ne_true ((contains_type_of_css? compiled tag).symm.trans type)

theorem exists_css? (unplaced : criteria.contains .index = false)
    (sayable : ¬ criteria.NeedsXPath) : ∃ query, criteria.css? = some query := by
  have plain (key : Key) (placed : key = .tagName ∨ key = .className ∨ key.isReserved = false)
      (value : Value) (asked : criteria.get? key = some value) : ∃ text, value = .literal text := by
    by_contra other
    exact sayable (.value placed asked (not_exists.1 other))
  obtain ⟨tag, tagged⟩ := exists_literalOrAbsent? (plain .tagName (.inl rfl))
  obtain ⟨token, classed⟩ := exists_literalOrAbsent? (plain .className (.inr (.inl rfl)))
  obtain ⟨target, targeted⟩ := exists_literalOrAbsent? (plain .href (.inr (.inr rfl)))
  obtain ⟨tests, tested⟩ := exists_attributeTests? fun entry member named =>
    plain entry.1 (.inr (.inr named)) entry.2 (OrderedMap.get?_eq_some_iff.2 member)
  have unlabelled : ¬ (criteria.contains .text || criteria.contains .label ||
      criteria.contains .index) = true := by
    rw [unplaced, Bool.or_false, Bool.or_eq_true]
    exact fun asked => sayable (asked.elim .text .label)
  have untyped : ¬ (tag == some "input" && criteria.keys.any (·.isAttribute "type")) = true := by
    rw [any_isAttribute_type, Bool.and_eq_true, beq_iff_eq]
    rintro ⟨rfl, type⟩
    exact sayable (.inputType (get?_of_literalOrAbsent? tagged) type)
  have writable : token.all Css.isToken = true := by
    rw [all_iff_of_literalOrAbsent? classed]
    intro text asked
    by_contra unwritable
    exact sayable (.token asked (Bool.not_eq_true _ ▸ unwritable))
  rw [css?, if_neg unlabelled, tagged, Option.bind_eq_bind, Option.bind_some, if_neg untyped, classed,
    Option.bind_some, if_pos writable, targeted, Option.bind_some, tested]
  exact ⟨_, rfl⟩

/-- CSS can say what the criteria ask for, but for what it has no place for. -/
theorem css?_eq_none_iff (unplaced : criteria.contains .index = false) :
    criteria.css? = none ↔ criteria.NeedsXPath := by
  cases compiled : criteria.css? with
  | none =>
      refine iff_of_true rfl ?_
      by_contra sayable
      obtain ⟨query, said⟩ := exists_css? unplaced sayable
      rw [compiled] at said
      cases said
  | some query => exact iff_of_false nofun (not_needsXPath_of_css? compiled)

/-! ## With the preference and without it -/

/-- Two queries for the criteria, the first with a preference for CSS: both are refused, both are the
path because the criteria need it, or the first is in CSS and the second the path. -/
inductive QueriedAlike (kind : ElementKind) (criteria : Criteria) :
    Except Fault Query → Except Fault Query → Prop
  | refused (unbuildable : criteria.contains .index = true ∨ criteria.hasPattern = true) :
      QueriedAlike kind criteria (.error (.unbuildable criteria.display))
        (.error (.unbuildable criteria.display))
  | path (needed : criteria.NeedsXPath) :
      QueriedAlike kind criteria (.ok (.xpath (criteria.path kind).render))
        (.ok (.xpath (criteria.path kind).render))
  | css (sayable : ¬ criteria.NeedsXPath) {query : Css.Query}
      (compiled : criteria.css? = some query) :
      QueriedAlike kind criteria (.ok (.css query.render)) (.ok (.xpath (criteria.path kind).render))

/-- Two plans for the criteria, the first with a preference for CSS: the same fault, the same query
that the caller gave, patterns to check in both, or two queries that are written alike. -/
inductive PlannedAlike (kind : ElementKind) (criteria : Criteria) :
    Except Fault Plan → Except Fault Plan → Prop
  | refused (fault : Fault) : PlannedAlike kind criteria (.error fault) (.error fault)
  | given (supplied : criteria.contains .xpath = true ∨ criteria.contains .css = true)
      {query : Query} (settled : criteria.givenQuery? = .ok (some query)) :
      PlannedAlike kind criteria (.ok (.exact query)) (.ok (.exact query))
  | filtered (patterned : criteria.hasPattern = true) :
      PlannedAlike kind criteria (.ok .filtered) (.ok .filtered)
  | written (pathless : criteria.contains .xpath = false) (cssless : criteria.contains .css = false)
      {preferred plain : Query} (alike : criteria.QueriedAlike kind (.ok preferred) (.ok plain)) :
      PlannedAlike kind criteria (.ok (.exact preferred)) (.ok (.exact plain))

theorem exactQuery_alike (kind : ElementKind) (criteria : Criteria) :
    criteria.QueriedAlike kind (criteria.exactQuery kind true) (criteria.exactQuery kind false) := by
  by_cases unbuildable : (criteria.contains .index || criteria.hasPattern) = true
  · rw [exactQuery, if_pos unbuildable, exactQuery, if_pos unbuildable]
    exact .refused (Bool.or_eq_true _ _ ▸ unbuildable)
  · have buildable := unbuildable
    rw [Bool.or_eq_true, not_or, Bool.not_eq_true, Bool.not_eq_true] at buildable
    rw [exactQuery_false kind buildable.1 buildable.2, exactQuery, if_neg unbuildable, if_pos rfl]
    cases compiled : criteria.css? with
    | none => exact .path ((css?_eq_none_iff buildable.1).1 compiled)
    | some query => exact .css (not_needsXPath_of_css? compiled) compiled

/-- No query was given if there is none in either language. -/
theorem givenQuery?_eq_ok_none_iff : criteria.givenQuery? = .ok none ↔
    (criteria.get? .xpath).bind Value.literal? = none ∧
      (criteria.get? .css).bind Value.literal? = none := by
  have checked {allowed : Bool} {query : Query} {fault : Fault} :
      (if allowed then .ok (some query) else .error fault : Except Fault (Option Query)) ≠
        .ok none := by
    intro same
    split at same <;> cases same
  unfold givenQuery?
  cases (criteria.get? .xpath).bind Value.literal? with
  | none =>
      cases (criteria.get? .css).bind Value.literal? with
      | none => exact iff_of_true rfl ⟨rfl, rfl⟩
      | some text => exact iff_of_false checked nofun
  | some path =>
      cases (criteria.get? .css).bind Value.literal? with
      | none => exact iff_of_false checked nofun
      | some text => exact iff_of_false nofun nofun

section Given

variable (plain : ∀ key value, key = .xpath ∨ key = .css → criteria.get? key = some value →
  ∃ text, value = .literal text)

include plain

theorem bind_literal?_eq_none_iff {key : Key} (given : key = .xpath ∨ key = .css) :
    (criteria.get? key).bind Value.literal? = none ↔ criteria.contains key = false := by
  rw [OrderedMap.contains_eq_isSome_get?]
  cases asked : criteria.get? key with
  | none => exact iff_of_true rfl rfl
  | some value =>
      obtain ⟨text, rfl⟩ := plain key value given asked
      exact iff_of_false nofun nofun

/-- A preference for CSS changes no fault, no query that was given and nothing about patterns. Of a
query that is written it changes the language, wherever the criteria do not need XPath, and it
changes nothing where they do. -/
theorem planned_and_queried_alike (kind : ElementKind) :
    criteria.PlannedAlike kind (criteria.plan kind true) (criteria.plan kind false) ∧
      criteria.QueriedAlike kind (criteria.exactQuery kind true)
        (criteria.exactQuery kind false) := by
  refine ⟨?_, exactQuery_alike kind criteria⟩
  by_cases placed : criteria.contains .index = true
  · rw [plan, if_pos placed, plan, if_pos placed]
    exact .refused _
  · rw [plan, if_neg placed, plan, if_neg placed]
    cases settled : criteria.givenQuery? with
    | error fault => exact .refused fault
    | ok given =>
        have absent : criteria.givenQuery? = .ok none ↔ _ := givenQuery?_eq_ok_none_iff
        rw [settled, bind_literal?_eq_none_iff plain (.inl rfl),
          bind_literal?_eq_none_iff plain (.inr rfl)] at absent
        cases given with
        | some query =>
            refine .given ?_ settled
            by_contra missing
            rw [not_or, Bool.not_eq_true, Bool.not_eq_true, ← absent] at missing
            cases missing
        | none =>
            obtain ⟨pathless, cssless⟩ := absent.1 rfl
            by_cases patterned : criteria.hasPattern = true
            · dsimp only
              rw [if_pos patterned, if_pos patterned]
              exact .filtered patterned
            · dsimp only
              rw [if_neg patterned, if_neg patterned]
              have alike := exactQuery_alike kind criteria
              generalize criteria.exactQuery kind true = preferred at alike ⊢
              generalize criteria.exactQuery kind false = unpreferred at alike ⊢
              cases alike with
              | refused unbuildable => exact .refused _
              | path needed => exact .written pathless cssless (.path needed)
              | css sayable compiled => exact .written pathless cssless (.css sayable compiled)

end Given

/-- Links with a class are asked for in either language, a class that is no token only in XPath, and
a query beside a tag stays as it was given. -/
theorem planned_and_queried_alike_links :
    ∃ links digit given : Criteria,
      links.entries = [(.tagName, .literal "a"), (.className, .literal "nav")] ∧
      links.PlannedAlike .generic (.ok (.exact (.css "a.nav")))
        (.ok (.exact (.xpath ".//a[contains(concat(' ', @class, ' '), ' nav ')]"))) ∧
      digit.entries = [(.className, .literal "1st")] ∧
      digit.QueriedAlike .generic
        (.ok (.xpath ".//*[contains(concat(' ', @class, ' '), ' 1st ')]"))
        (.ok (.xpath ".//*[contains(concat(' ', @class, ' '), ' 1st ')]")) ∧
      given.entries = [(.tagName, .literal "a"), (.xpath, .literal "//nav/a")] ∧
      given.PlannedAlike .generic (.ok (.exact (.xpath "//nav/a")))
        (.ok (.exact (.xpath "//nav/a"))) := by
  let links : Criteria := ⟨[(.tagName, .literal "a"), (.className, .literal "nav")], by decide⟩
  let digit : Criteria := ⟨[(.className, .literal "1st")], by decide⟩
  let given : Criteria := ⟨[(.tagName, .literal "a"), (.xpath, .literal "//nav/a")], by decide⟩
  have unasked {criteria : Criteria} (pathless : criteria.contains .xpath = false)
      (cssless : criteria.contains .css = false) (key : Key) (value : Value)
      (named : key = .xpath ∨ key = .css) (asked : criteria.get? key = some value) :
      ∃ text, value = .literal text := by
    rcases named with rfl | rfl
    · exact absurd asked (get?_ne_some_of_absent pathless value)
    · exact absurd asked (get?_ne_some_of_absent cssless value)
  have path (key : Key) (value : Value) (named : key = .xpath ∨ key = .css)
      (asked : given.get? key = some value) : ∃ text, value = .literal text := by
    rcases named with rfl | rfl
    · exact ⟨"//nav/a", (Option.some.inj asked).symm⟩
    · cases asked
  exact ⟨links, digit, given, rfl, (planned_and_queried_alike (unasked rfl rfl) .generic).1, rfl,
    (planned_and_queried_alike (unasked rfl rfl) .generic).2, rfl,
    (planned_and_queried_alike path .generic).1⟩

end Criteria

end ElementSearch
