/-
# What a label adds to a search

A label that stands in an element of its own is looked for before the element that it belongs
to, and what it says is filed with the other criteria: an identifier to ask for, or an element
to look in. Nothing else is lost on the way, and whatever the query selects has the identifier
that the label points at. An identifier that the caller asks for is filed under the same key,
though; the one of the label takes its place, and so the caller's stays in the query only where
the two are the same.
-/

import ElementSearch.Proofs.Query.Languages
import ElementSearch.Proofs.Search.Candidates
import ElementSearch.Proofs.Search.SingleMatch

namespace ElementSearch

namespace Criteria

variable {criteria : Criteria}

/-! ## What the query asks for -/

/-- Every criterion but patterns and the position is still there, with its own value. -/
def Keeps (residue criteria : Criteria) : Prop :=
  ∀ key value, criteria.get? key = some value → value.isPattern = false → key ≠ .index →
    residue.get? key = some value

theorem get?_residue_identified {η : Type} (criteria : Criteria) (id : String) :
    (criteria.residue (some (.identified id : LabelTarget η))).get? .id = some (.literal id) := by
  rw [residue, OrderedMap.get?_insert, if_pos rfl]

/-- What a label adds takes nothing away, unless it is an identifier and another is asked for. -/
theorem residue_keeps_iff {η : Type} {target : LabelTarget η} :
    (criteria.withoutIndex.residue (some target)).Keeps criteria ↔
      ∀ id, target = .identified id → ∀ value, criteria.get? .id = some value →
        value.isPattern = false → value = .literal id := by
  constructor
  · rintro kept id rfl value asked plain
    have same := kept .id value asked plain (by decide)
    rw [get?_residue_identified] at same
    exact (Option.some.inj same).symm
  · intro agrees key value asked plain other
    by_cases named : key = .id
    · subst named
      cases target with
      | identified id =>
          rw [get?_residue_identified, agrees id rfl value asked plain]
      | _ =>
          show criteria.withoutIndex.withoutPatterns.get? .id = some value
          rw [get?_withoutPatterns, get?_withoutIndex other, asked]
          simp [plain]
    · rw [get?_residue_of_ne _ named, get?_withoutIndex other, asked]
      simp [plain]

/-- The element is selected by the query for the criteria, in the language that it is in. -/
def QuerySelects (kind : ElementKind) (preferCss : Bool) (criteria : Criteria)
    (labelled : String → Bool) (element : Element) : Prop :=
  match if preferCss then criteria.css? else none with
  | some query => query.selects element = true
  | none => (criteria.path kind).selects labelled element = true

/-- In both languages an attribute is asked for as it is, but for a target and a type. -/
theorem attribute?_of_querySelects {kind : ElementKind} {preferCss : Bool}
    {labelled : String → Bool} {element : Element} {name : String}
    {free : reservedNames.contains name = false} {text : String} (target : name ≠ "href")
    (type : name ≠ "type") (asked : criteria.get? (.attr name free) = some (.literal text))
    (selected : criteria.QuerySelects kind preferCss labelled element) :
    element.attribute? (Key.attr name free).htmlName = some text := by
  unfold QuerySelects at selected
  split at selected
  · next query compiled =>
      have said : criteria.css? = some query := by
        cases preferCss with
        | true => exact compiled
        | false => cases compiled
      have met := (selects_css_iff (saidBy_of_css? said)).1 selected
      exact met.1.attributes name free text target type asked
  · have conditions := (Bool.and_eq_true_iff.1 selected).2
    apply (holds_conditionFor_attr labelled kind free target type text).1
    apply List.all_eq_true.1 conditions
    exact List.mem_map_of_mem (List.mem_filter.2 ⟨OrderedMap.get?_eq_some_iff.1 asked, rfl⟩)

theorem identifier_of_querySelects {kind : ElementKind} {preferCss : Bool}
    {labelled : String → Bool} {element : Element} {id : String}
    (asked : criteria.get? .id = some (.literal id))
    (selected : criteria.QuerySelects kind preferCss labelled element) :
    element.attribute? "id" = some id := by
  have spelled : Key.id.htmlName = "id" := by decide
  rw [← spelled]
  exact attribute?_of_querySelects (by decide) (by decide) asked selected

end Criteria

namespace Document

/-! ## Searches by a label -/

section Labelled

variable {document : Document} {root : Option Nat} {kind : ElementKind} {preferCss : Bool}
  {selector : Selector} {criteria : Criteria} {label : Pattern} {pointed : LabelTarget Nat}

/-- A selector with a pattern for its label is searched for by its criteria. -/
theorem locate_of_label (root : Option Nat) (preferCss : Bool)
    (normalized : selector.normalize kind = .ok criteria)
    (asked : criteria.get? .label = some (.pattern label)) :
    (finder root kind preferCss).locate selector criteria =
        (finder root kind preferCss).firstPlanned criteria ∧
      (finder root kind preferCss).locateAll selector criteria =
        (finder root kind preferCss).allPlanned criteria := by
  have present : Key.label.name ∈ selector.keys :=
    Selector.mem_keys_of_normalize normalized (by decide) asked
  have several : selector.lone? = none := Selector.lone?_of_present present rfl
  rw [Finder.locate, Finder.locateAll, several,
    Selector.identifier?_of_present present (by decide) (by decide)]
  exact ⟨rfl, rfl⟩

theorem resolvedLabel_withoutIndex (foreign : kind.hasNativeLabel = false)
    (asked : criteria.get? .label = some (.pattern label))
    (resolved : document.labelTarget root label = .ok pointed) :
    document.resolvedLabel root kind criteria.withoutIndex = .ok (some pointed) := by
  rw [resolvedLabel, foreign, Criteria.get?_withoutIndex (by decide), asked]
  dsimp only
  rw [resolved]
  rfl

/-- A search by a label that was found sends two lookups: one for labels, and one for what is left
of the criteria, narrowed by the other patterns. What is left has the identifier that the label
points at, and it keeps all other criteria; an identifier that was asked for is kept exactly if
it is the same one. What is selected has the identifier that the label points at, and where the
criteria are kept also that which was asked for. -/
theorem sends_residue_of_label (document : Document) (root : Option Nat) (preferCss : Bool)
    {kind : ElementKind} {selector : Selector} {criteria : Criteria} {label : Pattern}
    {pointed : LabelTarget Nat} (foreign : kind.hasNativeLabel = false)
    (normalized : selector.normalize kind = .ok criteria)
    (asked : criteria.get? .label = some (.pattern label))
    (linkless : (finder root kind preferCss).refuseLinks criteria = .ok ())
    (planned : criteria.withoutIndex.plan kind preferCss = .ok .filtered)
    (resolved : document.labelTarget root label = .ok pointed) (there : pointed ≠ .nowhere) :
    let residue := criteria.withoutIndex.residue (some pointed)
    (∃ base query, residue.exactQuery kind preferCss = .ok base ∧
      query = base.narrow (criteria.withoutIndex.checkedPatterns kind) ∧
      document.Sends ((finder root kind preferCss).find selector)
        [(.tagName, "label"), (query.strategy, query.text)] ∧
      (criteria.contains .index = false →
        document.Sends ((finder root kind preferCss).findAll selector)
          [(.tagName, "label"), (query.strategy, query.text)])) ∧
    (residue.Keeps criteria ↔ ∀ id, pointed = .identified id →
      ∀ value, criteria.get? .id = some value → value.isPattern = false →
        value = .literal id) ∧
    (∀ id, pointed = .identified id → residue.get? .id = some (.literal id) ∧
      ∀ labelled element, residue.QuerySelects kind preferCss labelled element →
        element.attribute? "id" = some id) ∧
    (residue.Keeps criteria → ∀ id, criteria.get? .id = some (.literal id) →
      ∀ labelled element, residue.QuerySelects kind preferCss labelled element →
        element.attribute? "id" = some id) := by
  intro residue
  refine ⟨?_, Criteria.residue_keeps_iff, ?_, ?_⟩
  · obtain ⟨one, all⟩ := locate_of_label root preferCss normalized asked
    have pointedAt := resolvedLabel_withoutIndex foreign asked resolved
    obtain ⟨base, built, gathered⟩ := yields_candidates preferCss
      (Criteria.contains_index_withoutIndex criteria) pointedAt
      (fun nowhere => there (Option.some.inj nowhere))
    have recordedBelow := recorded_of_fresh (not_stale_of_labelTarget resolved)
    dsimp only at gathered
    rw [recordedBelow] at gathered
    refine ⟨base, _, built, rfl, ?_, ?_⟩
    · obtain ⟨result, located⟩ := exists_yields_firstPlanned linkless planned gathered
      rw [← one] at located
      exact (yields_find normalized located).sends
    · intro unplaced
      have kept : criteria.withoutIndex = criteria := OrderedMap.erase_of_absent unplaced
      rw [kept] at gathered planned ⊢
      have located := yields_allPlanned linkless planned gathered
      rw [← all] at located
      exact (yields_findAll normalized unplaced located).sends
  · rintro id rfl
    have identified := Criteria.get?_residue_identified (η := Nat) criteria.withoutIndex id
    exact ⟨identified, fun labelled element => Criteria.identifier_of_querySelects identified⟩
  · intro kept id identified labelled element
    exact Criteria.identifier_of_querySelects (kept .id _ identified rfl (by decide))

end Labelled

/-! ## Two inputs and a label -/

/-- A pattern that is found in the word. -/
def emailPattern : Pattern := (Pattern.ofSource? "Email" false).get (by decide +kernel)

/-- A page with two inputs and a label for the second, which can be asked for by its identifier. -/
def labelledInputs : Document where
  tree := ⟨[⟨0, "label", [("for", "b")], "Email"⟩, ⟨0, "input", [("id", "a")], ""⟩,
    ⟨0, "input", [("id", "b")], ""⟩], by decide⟩
  stubs := OrderedMap.empty.insert (.xpath, ".//*[@id = 'b']") [3]
  stale := []
  calls := []

/-- An identifier is kept that is the one which the label points at. -/
theorem sends_residue_of_label_email :
    ∃ selector criteria, selector.normalize .generic = .ok criteria ∧
      criteria.get? .id = some (.literal "b") ∧
      criteria.get? .label = some (.pattern emailPattern) ∧
      labelledInputs.labelTarget none emailPattern = .ok (.identified "b") ∧
      labelledInputs.Sends ((finder none .generic false).find selector)
        [(.tagName, "label"), (.xpath, ".//input[@id = 'b']")] ∧
      (criteria.withoutIndex.residue (some (.identified "b" : LabelTarget Nat))).Keeps
        criteria := by
  let selector : Selector :=
    ⟨[("tag_name", .literal "input"), ("id", .literal "b"), ("label", .pattern emailPattern)],
      by decide⟩
  let criteria : Criteria :=
    ⟨[(.tagName, .literal "input"), (.id, .literal "b"), (.label, .pattern emailPattern)],
      by decide⟩
  have normalized : selector.normalize .generic = .ok criteria := rfl
  have resolved : labelledInputs.labelTarget none emailPattern = .ok (.identified "b") := rfl
  obtain ⟨⟨base, query, built, narrowed, sent, _⟩, kept, _⟩ :=
    sends_residue_of_label labelledInputs none false rfl normalized rfl rfl rfl resolved
      (by decide)
  obtain rfl : Query.xpath ".//input[@id = 'b']" = base := Except.ok.inj built
  subst narrowed
  refine ⟨selector, criteria, normalized, rfl, rfl, resolved, sent, kept.2 ?_⟩
  rintro id same value asked _
  cases same
  exact (Option.some.inj asked).symm

/-- An element is found whose identifier is not the one that was asked for, since a label points
at it. -/
theorem exists_findAll_another_identifier :
    ∃ selector criteria, selector.normalize .generic = .ok criteria ∧
      criteria.get? .id = some (.literal "a") ∧
      labelledInputs.labelTarget none emailPattern = .ok (.identified "b") ∧
      ¬ (criteria.withoutIndex.residue (some (.identified "b" : LabelTarget Nat))).Keeps
        criteria ∧
      labelledInputs.Sends ((finder none .generic false).findAll selector)
        [(.tagName, "label"), (.xpath, ".//*[@id = 'b']")] ∧
      labelledInputs.outcome ((finder none .generic false).findAll selector) = .ok [3] ∧
      (labelledInputs.tree.element 3).attribute? "id" = some "b" := by
  let selector : Selector :=
    ⟨[("id", .literal "a"), ("label", .pattern emailPattern)], by decide⟩
  let criteria : Criteria := ⟨[(.id, .literal "a"), (.label, .pattern emailPattern)], by decide⟩
  refine ⟨selector, criteria, rfl, rfl, rfl, ?_, rfl, rfl, by decide⟩
  intro kept
  have same := kept .id (.literal "a") rfl rfl (by decide)
  exact absurd same (by decide)

end Document

end ElementSearch
