/-
# Patterns that are checked twice

A pattern for the tag or the type of an element is checked when the candidates are filtered, and
once more on a single result. The tag is lowered both times. The type is filtered as it stands,
and lowered where it is checked again, while the pattern is not; so a pattern that looks for a
capital letter in a type can match at first and not the second time. Where the lowered type
still matches, the second check keeps what the filter let pass, and this is the only way in
which it can fail.
-/

import ElementSearch.Proofs.Query.TypeCriterion

namespace ElementSearch

/-- A pattern for the type is compared with the attribute as it stands. -/
theorem Element.meets_type_iff {element : Element} {asked : Pattern} :
    element.meets .type asked = true ↔
      ∃ type, element.attribute? "type" = some type ∧ asked.matchesIn type = true := by
  have value : element.value? .type = element.attribute? "type" := by
    show element.attribute? Key.type.htmlName = _
    rw [Key.htmlName_type]
  rw [meets, value, Option.any_eq_true]

namespace Selector

/-- The tag and the type that the selector asks for, where it does, are patterns among these. -/
def AsksAmong (selector : Selector) (patterns : List (Key × Pattern)) : Prop :=
  ∀ key, key = .tagName ∨ key = .type → ∀ value, selector.get? key.name = some value →
    ∃ asked, value = .pattern asked ∧ (key, asked) ∈ patterns

/-- The pattern for the type still matches once the type is in lower case, where the element is an
input. -/
def StaysMatched (selector : Selector) (element : Element) : Prop :=
  ∀ asked type, selector.get? "type" = some (.pattern asked) →
    Text.sameAsciiLetters element.tag "input" = true →
    element.attribute? "type" = some type → asked.matchesIn (Text.lowercase type) = true

variable {selector : Selector} {element : Element} {patterns : List (Key × Pattern)}

/-- The tag is lowered in both checks, so only the type can make a difference. -/
theorem suits_iff_staysMatched (among : selector.AsksAmong patterns)
    (met : ∀ entry ∈ patterns, element.meets entry.1 entry.2 = true) :
    selector.Suits element ↔ selector.StaysMatched element := by
  constructor
  · intro suits asked type sought input present
    obtain ⟨actual, same, matched⟩ := suits.type (.pattern asked) sought input
    obtain rfl : type = actual := Option.some.inj (present.symm.trans same)
    exact matched
  · intro stays
    refine ⟨fun value sought => ?_, fun value sought input => ?_⟩
    · obtain ⟨asked, rfl, listed⟩ := among .tagName (.inl rfl) value sought
      exact met _ listed
    · obtain ⟨asked, rfl, listed⟩ := among .type (.inr rfl) value sought
      obtain ⟨type, present, _⟩ := Element.meets_type_iff.1 (met _ listed)
      exact ⟨type, present, stays asked type sought input present⟩

/-- A pattern that matches a type in lower case matches it in lower case. -/
theorem staysMatched_of_lowercase (among : selector.AsksAmong patterns)
    (met : ∀ entry ∈ patterns, element.meets entry.1 entry.2 = true)
    (lower : Text.sameAsciiLetters element.tag "input" = true →
      ∀ type, element.attribute? "type" = some type → Text.lowercase type = type) :
    selector.StaysMatched element := by
  intro asked type sought input present
  obtain ⟨own, same, listed⟩ := among .type (.inr rfl) _ sought
  cases same
  obtain ⟨actual, read, matched⟩ := Element.meets_type_iff.1 (met _ listed)
  obtain rfl : type = actual := Option.some.inj (present.symm.trans read)
  rw [lower input type present]
  exact matched

end Selector

namespace Document

variable {document : Document} {selector : Selector} {node : Nat}
  {patterns : List (Key × Pattern)}

/-- The check of a single result reads an element only if the filter has read it. -/
theorem fits_of_meetsPatterns (among : selector.AsksAmong patterns)
    (passed : document.reader.meetsPatterns patterns node = .ok true) :
    document.reader.fits selector node =
      .ok (selector.tagSuits (document.tree.element node) &&
        selector.typeSuits (document.tree.element node)) := by
  have fresh {key : Key} (checked : key = .tagName ∨ key = .type) {value : Value}
      (sought : selector.get? key.name = some value) :
      document.stale.contains node = false := by
    obtain ⟨asked, _, listed⟩ := among key checked value sought
    exact fresh_of_meetsPattern (meetsPattern_of_meetsPatterns passed _ listed)
  cases tag : selector.get? "tag_name" with
  | some value => exact fits_of_fresh (fresh (.inl rfl) tag) selector
  | none =>
      cases type : selector.get? "type" with
      | some value => exact fits_of_fresh (fresh (.inr rfl) type) selector
      | none =>
          unfold ElementReader.fits ElementReader.tagFits ElementReader.typeFits
          rw [Selector.tagSuits, Selector.typeSuits, tag, type]
          rfl

/-- An element that meets the patterns is kept by the check of a single result exactly if its type
stays matched. -/
theorem fits_iff_staysMatched (among : selector.AsksAmong patterns)
    (passed : document.reader.meetsPatterns patterns node = .ok true) :
    (document.reader.fits selector node = .ok true ↔
        selector.StaysMatched (document.tree.element node)) ∧
      (document.reader.fits selector node = .ok false ↔
        ¬ selector.StaysMatched (document.tree.element node)) := by
  have met := meets_of_meetsPatterns passed
  rw [fits_of_meetsPatterns among passed, ← Selector.suits_iff_staysMatched among met,
    Selector.suits_iff, Bool.not_eq_true, Except.ok.injEq, Except.ok.injEq]
  exact ⟨Iff.rfl, Iff.rfl⟩

/-! ## Searches -/

section Searches

variable {root : Option Nat} {kind : ElementKind} {preferCss : Bool} {criteria : Criteria}
  {found : List Nat}

theorem settle_of_fits {passes : Bool} (checked : document.reader.fits selector node = .ok passes) :
    document.settle selector (some node) = .ok (if passes then some node else none) := by
  rw [settle, checked]
  cases passes with
  | true => rfl
  | false => rfl

/-- What a scan of the elements that a lookup is answered with gives has passed its test. -/
theorem passed_of_scan {answered : Except Fault (List Nat)} {test : Nat → Except Fault Bool}
    (scanned : answered >>= allThat test = .ok found) : ∀ node ∈ found, test node = .ok true := by
  cases answered with
  | error fault => cases scanned
  | ok candidates => exact passed_of_mem_allThat scanned

/-- The criteria have the tag and the type of their selector. -/
theorem get?_of_checked (normalized : selector.normalize kind = .ok criteria) {key : Key}
    (checked : key = .tagName ∨ key = .type) : criteria.get? key = selector.get? key.name := by
  apply Selector.get?_of_normalize normalized
  obtain rfl | rfl := checked
  · decide
  · decide

/-- Neither a position nor a query is asked for by a pattern. -/
theorem contains_of_patterned (normalized : selector.normalize kind = .ok criteria)
    (patterned : ∀ entry ∈ selector.entries, entry.2.isPattern = true) {key : Key}
    (literal : key = .index ∨ key = .xpath ∨ key = .css) : criteria.contains key = false := by
  have single : key.name ∉ aliasedNames := by
    obtain rfl | rfl | rfl := literal
    all_goals decide
  rw [OrderedMap.contains_eq_false_iff, Option.eq_none_iff_forall_ne_some]
  intro value sought
  rw [Selector.get?_of_normalize normalized single] at sought
  have listed := OrderedMap.get?_eq_some_iff.1 sought
  have checked := Selector.checkCriterion_of_fileAll normalized _ listed
  rw [(ofName_canonicalName_eq_iff single).2 rfl] at checked
  have sort := patterned _ listed
  -- These keys take a number or a literal, so a pattern is refused before it is filed.
  cases value with
  | pattern asked =>
      obtain rfl | rfl | rfl := literal
      all_goals cases checked
  | _ => cases sort

/-- The patterns for the tag and the type are among those that are checked on candidates. -/
theorem asksAmong_checkedPatterns (normalized : selector.normalize kind = .ok criteria)
    (patterned : ∀ entry ∈ selector.entries, entry.2.isPattern = true) :
    selector.AsksAmong (criteria.checkedPatterns kind) := by
  intro key checked value sought
  have sort := patterned _ (OrderedMap.get?_eq_some_iff.1 sought)
  cases value with
  | pattern asked =>
      have other : key ≠ .label := by
        obtain rfl | rfl := checked
        all_goals decide
      rw [← get?_of_checked normalized checked] at sought
      have listed := Criteria.mem_patterns_iff.2 sought
      refine ⟨asked, rfl, ?_⟩
      unfold Criteria.checkedPatterns
      split
      · exact listed
      · exact List.mem_filter.2 ⟨listed, bne_iff_ne.2 other⟩
  | _ => cases sort

/-- A lone pattern is checked on the tag if it is one for the tag, and none for the type is
lone. -/
theorem asksAmong_lone {name : String} {asked : Pattern}
    (alone : selector.entries = [(name, .pattern asked)]) :
    selector.AsksAmong [(Selector.loneKey name, asked)] := by
  intro key checked value sought
  have listed := OrderedMap.get?_eq_some_iff.1 sought
  rw [alone, List.mem_singleton] at listed
  cases listed
  have own : Selector.loneKey key.name = key := by
    obtain rfl | rfl := checked
    all_goals decide
  rw [own]
  exact ⟨asked, rfl, List.mem_singleton_self _⟩

/-- Without patterns nothing is asked of the tag and the type. -/
theorem asksAmong_nil (normalized : selector.normalize kind = .ok criteria)
    (patterned : ∀ entry ∈ selector.entries, entry.2.isPattern = true)
    (patternless : criteria.hasPattern = false) : selector.AsksAmong [] := by
  intro key checked value sought
  obtain ⟨asked, rfl, listed⟩ := asksAmong_checkedPatterns normalized patterned key checked value
    sought
  rw [← get?_of_checked normalized checked] at sought
  cases Criteria.hasPattern_eq_false_iff.1 patternless key _ sought

/-- What a search for all matches of patterns gives has passed the check of those for the tag and
the type. -/
theorem exists_passed_of_findAll (normalized : selector.normalize kind = .ok criteria)
    (patterned : ∀ entry ∈ selector.entries, entry.2.isPattern = true)
    (all : document.outcome ((finder root kind preferCss).findAll selector) = .ok found) :
    ∃ patterns, selector.AsksAmong patterns ∧
      ∀ node ∈ found, document.reader.meetsPatterns patterns node = .ok true := by
  have unplaced := contains_of_patterned normalized patterned (.inl rfl)
  cases several : selector.lone? with
  | some criterion =>
      obtain ⟨name, value, alone, _, sort⟩ := Selector.exists_entry_of_lone? several
      cases criterion with
      | literal strategy text =>
          cases sort
          have literal := patterned (name, .literal text) (alone ▸ List.mem_singleton_self _)
          cases literal
      | pattern key asked =>
          obtain ⟨rfl, rfl⟩ := sort
          refine ⟨_, asksAmong_lone alone, fun node member => ?_⟩
          have scanned := (scans_of_lone several normalized unplaced).result_eq.symm.trans all
          rw [ElementReader.meetsPatterns, passed_of_scan scanned node member]
          rfl
  | none =>
      cases patterns : criteria.hasPattern with
      -- An exact query filters nothing, and then nothing is asked of the tag and the type either.
      | false => exact ⟨[], asksAmong_nil normalized patterned patterns, fun _ _ => rfl⟩
      | true =>
          have planned := Criteria.plan_of_pattern kind preferCss patterns
            (contains_of_patterned normalized patterned (.inr (.inl rfl)))
            (contains_of_patterned normalized patterned (.inr (.inr rfl))) unplaced
          refine ⟨_, asksAmong_checkedPatterns normalized patterned, ?_⟩
          obtain ⟨_, target, _, nowhere, somewhere⟩ :=
            scans_of_planned several normalized unplaced planned all
          by_cases missing : target = some .nowhere
          · rw [(nowhere missing).1]
            exact List.forall_mem_nil _
          · obtain ⟨strategy, value, scans⟩ := somewhere missing
            exact passed_of_scan (scans.result_eq.symm.trans all)

/-- A search for one match of patterns gives the first of all matches if its type stays matched, and
none if it does not. -/
theorem find_of_patterned
    (patterned : ∀ entry ∈ selector.entries, entry.2.isPattern = true) {rest : List Nat}
    (all : document.outcome ((finder root kind preferCss).findAll selector) =
      .ok (node :: rest)) :
    (selector.StaysMatched (document.tree.element node) →
        document.outcome ((finder root kind preferCss).find selector) = .ok (some node)) ∧
      (¬ selector.StaysMatched (document.tree.element node) →
        document.outcome ((finder root kind preferCss).find selector) = .ok none) := by
  cases normalized : selector.normalize kind with
  | error fault =>
      rw [(outcome_of_invalid document root preferCss normalized).2] at all
      cases all
  | ok criteria =>
      have unplaced := contains_of_patterned normalized patterned (.inl rfl)
      have other : ¬ selector.IsIdentifiedTag := by
        rintro ⟨_, ⟨id, identified⟩, _⟩
        cases patterned _ (OrderedMap.get?_eq_some_iff.1 identified)
      obtain ⟨patterns, among, passed⟩ := exists_passed_of_findAll normalized patterned all
      obtain ⟨kept, dropped⟩ := fits_iff_staysMatched among (passed node (List.mem_cons_self ..))
      obtain ⟨one, every, _, _, yieldsOne, yieldsAll, agrees⟩ :=
        refines_locate document root kind preferCss unplaced other
      have succeeded := (outcome_findAll normalized unplaced yieldsAll).symm.trans all
      rw [outcome_find normalized yieldsOne, absorb_settle_of_agrees agrees succeeded,
        List.head?_cons]
      constructor
      · intro stays
        rw [settle_of_fits (kept.2 stays)]
        rfl
      · intro differs
        rw [settle_of_fits (dropped.2 differs)]
        rfl

end Searches

/-- The check of a single result keeps an element that meets the patterns for its tag and its type
exactly if its type stays matched in lower case, as every type in lower case does. So a search
for one match of patterns gives the first of all matches under that condition, and otherwise
none. -/
theorem recheck_of_patterns (document : Document) (selector : Selector) :
    (∀ patterns node, selector.AsksAmong patterns →
      document.reader.meetsPatterns patterns node = .ok true →
        (document.reader.fits selector node = .ok true ↔
          selector.StaysMatched (document.tree.element node)) ∧
        (document.reader.fits selector node = .ok false ↔
          ¬ selector.StaysMatched (document.tree.element node)) ∧
        ((Text.sameAsciiLetters (document.tree.element node).tag "input" = true →
            ∀ type, (document.tree.element node).attribute? "type" = some type →
              Text.lowercase type = type) →
          selector.StaysMatched (document.tree.element node))) ∧
      ((∀ entry ∈ selector.entries, entry.2.isPattern = true) →
        ∀ root kind preferCss node rest,
          document.outcome ((finder root kind preferCss).findAll selector) = .ok (node :: rest) →
            (selector.StaysMatched (document.tree.element node) →
              document.outcome ((finder root kind preferCss).find selector) = .ok (some node)) ∧
            (¬ selector.StaysMatched (document.tree.element node) →
              document.outcome ((finder root kind preferCss).find selector) = .ok none)) := by
  constructor
  · intro patterns node among passed
    obtain ⟨kept, dropped⟩ := fits_iff_staysMatched among passed
    refine ⟨kept, dropped, fun lower => ?_⟩
    exact Selector.staysMatched_of_lowercase among (meets_of_meetsPatterns passed) lower
  · intro patterned root kind preferCss node rest all
    exact find_of_patterned patterned all

/-- Selectors that ask for a type that a pattern matches. -/
def matchingType (asked : Pattern) : Selector := ⟨[("type", .pattern asked)], by simp⟩

theorem asksAmong_matchingType (asked : Pattern) :
    (matchingType asked).AsksAmong [(.type, asked)] := by
  intro key checked value sought
  obtain rfl | rfl := checked
  · cases sought
  · cases sought
    exact ⟨asked, rfl, List.mem_singleton_self _⟩

/-- A pattern that is found in a type in lower case. -/
def radioPattern : Pattern := (Pattern.ofSource? "radio" false).get (by decide +kernel)

/-- A pattern that is found in a type in capital letters only. -/
def capitalPattern : Pattern := (Pattern.ofSource? "RADIO" false).get (by decide +kernel)

/-- A type in lower case is matched by the filter and once more, and found. -/
theorem recheck_of_patterns_radio :
    (onlyInput [("type", "radio")]).reader.meetsPatterns [(.type, radioPattern)] 1 = .ok true ∧
      (onlyInput [("type", "radio")]).reader.fits (matchingType radioPattern) 1 = .ok true ∧
      (onlyInput [("type", "radio")]).outcome
        ((finder none .generic false).findAll (matchingType radioPattern)) = .ok [1] ∧
      (onlyInput [("type", "radio")]).outcome
        ((finder none .generic false).find (matchingType radioPattern)) = .ok (some 1) := by
  have passed : (onlyInput [("type", "radio")]).reader.meetsPatterns [(.type, radioPattern)] 1 =
    .ok true := rfl
  have all : (onlyInput [("type", "radio")]).outcome
    ((finder none .generic false).findAll (matchingType radioPattern)) = .ok [1] := rfl
  have both := recheck_of_patterns (onlyInput [("type", "radio")]) (matchingType radioPattern)
  obtain ⟨kept, _, lower⟩ := both.1 _ 1 (asksAmong_matchingType radioPattern) passed
  have stays : (matchingType radioPattern).StaysMatched
      ((onlyInput [("type", "radio")]).tree.element 1) := by
    apply lower
    intro _ type present
    cases present
    decide +kernel
  have patterned : ∀ entry ∈ (matchingType radioPattern).entries, entry.2.isPattern = true := by
    decide
  exact ⟨passed, kept.2 stays, all, (both.2 patterned none .generic false 1 [] all).1 stays⟩

/-- A pattern in capital letters matches a type in capital letters when the candidates are filtered,
and not when it is checked again: of the one match there is, none is found. -/
theorem exists_recheck_drops :
    (onlyInput [("type", "RADIO")]).reader.meetsPatterns [(.type, capitalPattern)] 1 = .ok true ∧
      (onlyInput [("type", "RADIO")]).reader.fits (matchingType capitalPattern) 1 = .ok false ∧
      (onlyInput [("type", "RADIO")]).outcome
        ((finder none .generic false).findAll (matchingType capitalPattern)) = .ok [1] ∧
      (onlyInput [("type", "RADIO")]).outcome
        ((finder none .generic false).find (matchingType capitalPattern)) = .ok none :=
  ⟨rfl, rfl, rfl, rfl⟩

end Document

end ElementSearch
