/-
# How often a page is asked

A search takes one lookup at most, and one more only where a label that stands in an element of
its own has to be looked for first and is there. An identifier is looked for by the strategy of
its own exactly where a search for one match asks for nothing else but perhaps a tag, and then
that is the only lookup. All that a search changes of a document is the record of its lookups,
and a reference that knows its element does not even ask.
-/

import ElementSearch.Proofs.Search.Checks
import ElementSearch.Proofs.Search.Labels
import ElementSearch.Search.Collection

namespace ElementSearch

/-! ## Labels that are sought -/

/-- The selector is searched for by patterns, and one of them is for a label that is no attribute
of the elements searched for. -/
def Finder.SeeksLabel {σ η : Type} (finder : Finder σ η) (selector : Selector) (label : Pattern) :
    Prop :=
  ∃ criteria, selector.normalize finder.kind = .ok criteria ∧
    criteria.get? .label = some (.pattern label) ∧ finder.kind.hasNativeLabel = false ∧
    finder.choosePlan criteria = .ok .filtered

namespace Document

section Sought

variable {root : Option Nat} {kind : ElementKind} {preferCss : Bool} {selector : Selector}
  {criteria : Criteria} {label : Pattern}

/-- No selector that seeks a label goes to the page as it is. -/
theorem several_of_seeksLabel (seeks : (finder root kind preferCss).SeeksLabel selector label) :
    selector.identifier? = none ∧ selector.lone? = none := by
  obtain ⟨criteria, normalized, asked, _⟩ := seeks
  have present : Key.label.name ∈ selector.keys :=
    Selector.mem_keys_of_normalize normalized (by decide) asked
  exact ⟨Selector.identifier?_of_present present (by decide) (by decide),
    Selector.lone?_of_present present rfl⟩

theorem seeksLabel_iff {plan : Plan} (normalized : selector.normalize kind = .ok criteria)
    (chosen : (finder root kind preferCss).choosePlan criteria = .ok plan) :
    (finder root kind preferCss).SeeksLabel selector label ↔
      (finder root kind preferCss).soughtLabel? criteria.withoutIndex plan = some label := by
  have labelled : criteria.withoutIndex.get? .label = criteria.get? .label :=
    Criteria.get?_withoutIndex (by decide)
  constructor
  · rintro ⟨own, same, asked, foreign, filtered⟩
    obtain rfl : criteria = own := Except.ok.inj (normalized.symm.trans same)
    obtain rfl : plan = .filtered := Except.ok.inj (chosen.symm.trans filtered)
    exact labelPattern?_eq_some_iff.2 ⟨foreign, labelled.trans asked⟩
  · intro sought
    cases plan with
    | exact query => cases sought
    | filtered =>
        obtain ⟨foreign, asked⟩ := labelPattern?_eq_some_iff.1 sought
        exact ⟨criteria, normalized, labelled.symm.trans asked, foreign, chosen⟩

end Sought

/-! ## Lookups of one search -/

/-- The lookups are as few as a search for the selector takes. -/
structure Bounded (document : Document) (finder : Finder Document Nat) (selector : Selector)
    (calls : Calls) : Prop where
  few : calls.length ≤ 2
  /-- There is one at most where no label is sought. -/
  single : (∀ label, ¬ finder.SeeksLabel selector label) → calls.length ≤ 1
  /-- A label that is sought is looked for first, and nothing is looked up after it unless there
  is one. -/
  label_first : ∀ label, finder.SeeksLabel selector label → ∀ first rest, calls = first :: rest →
    first = (.tagName, "label") ∧ (rest ≠ [] → document.HasLabel finder.root label)

/-- An identifier is looked for by its strategy where the selector asks for it and for nothing
else but perhaps a tag, and then nothing else is looked up. -/
structure LooksForIdentifier (selector : Selector) (calls : Calls) : Prop where
  only : ∀ id, selector.AsksForIdentifier id → calls <+: [(.id, id)]
  asked : ∀ id, (.id, id) ∈ calls → selector.AsksForIdentifier id

section Bounds

variable {document : Document} {root : Option Nat} {kind : ElementKind} {preferCss : Bool}
  {selector : Selector} {criteria : Criteria} {calls : Calls}

theorem Bounded.nil {finder : Finder Document Nat} : document.Bounded finder selector [] where
  few := Nat.zero_le _
  single _ := Nat.zero_le _
  label_first := by
    intro label _ first rest same
    cases same

theorem Bounded.of_one {finder : Finder Document Nat} {lookup : Strategy × String}
    (unsought : ∀ label, ¬ finder.SeeksLabel selector label) (looked : calls <+: [lookup]) :
    document.Bounded finder selector calls where
  few := Nat.le_succ_of_le looked.length_le
  single _ := looked.length_le
  label_first label seeks := absurd seeks (unsought label)

theorem Bounded.of_looked {finder : Finder Document Nat} {label? : Option Pattern}
    (sought : ∀ label, finder.SeeksLabel selector label ↔ label? = some label)
    (looked : document.Looked finder.root label? calls) :
    document.Bounded finder selector calls := by
  cases looked with
  | nothing => exact .nil
  | query query written =>
      refine .of_one (fun label seeks => ?_) List.prefix_rfl
      cases (sought label).1 seeks
  | label label =>
      refine ⟨Nat.le_succ 1, fun _ => Nat.le_refl 1, ?_⟩
      intro other _ first rest same
      cases same
      exact ⟨rfl, fun more => absurd rfl more⟩
  | labelled label query written matched =>
      refine ⟨Nat.le_refl 2, fun unsought => absurd ((sought label).2 rfl) (unsought label), ?_⟩
      intro other seeks first rest same
      cases same
      cases (sought other).1 seeks
      exact ⟨rfl, fun _ => matched⟩

theorem LooksForIdentifier.nil : LooksForIdentifier selector [] where
  only _ _ := List.nil_prefix
  asked := by
    intro id member
    cases member

theorem LooksForIdentifier.of_identified {id : String} (asked : selector.identifier? = some id)
    (looked : calls <+: [(.id, id)]) : LooksForIdentifier selector calls where
  only other asks := by
    rw [Selector.identifier?_eq_some_iff.2 asks] at asked
    cases asked
    exact looked
  asked other member := by
    have same := List.mem_singleton.1 (looked.subset member)
    cases same
    exact Selector.identifier?_eq_some_iff.1 asked

/-- No other search looks for an identifier. -/
theorem LooksForIdentifier.of_other (unasked : selector.identifier? = none)
    (other : ∀ call ∈ calls, call.1 ≠ .id) : LooksForIdentifier selector calls where
  only id asks := by
    rw [Selector.identifier?_eq_some_iff.2 asks] at unasked
    cases unasked
  asked id member := absurd rfl (other _ member)

theorem strategy_of_looked {label? : Option Pattern} (looked : document.Looked root label? calls) :
    ∀ call ∈ calls, call.1 ≠ .id := by
  intro call member
  cases looked with
  | nothing => cases member
  | query query written =>
      cases List.mem_singleton.1 member
      exact written
  | label label =>
      cases List.mem_singleton.1 member
      exact Strategy.noConfusion
  | labelled label query written matched =>
      rcases List.mem_cons.1 member with rfl | later
      · exact Strategy.noConfusion
      · cases List.mem_singleton.1 later
        exact written

/-- A lone identifier is not left to the searches for lone criteria. -/
theorem strategy_of_lone {criterion : LoneCriterion} (unasked : selector.identifier? = none)
    (lone : selector.lone? = some criterion) : criterion.lookup.1 ≠ .id := by
  cases criterion with
  | pattern key asked => exact Strategy.noConfusion
  | literal strategy text =>
      rintro rfl
      obtain ⟨name, alone, answered⟩ := Selector.exists_name_of_lone_literal lone
      obtain rfl := Strategy.eq_of_forName?_id answered
      rw [Selector.identifier?, OrderedMap.get?, OrderedMap.contains, OrderedMap.size, alone]
        at unasked
      cases unasked

/-! ## Whole searches -/

/-- A search for one match that is not refused asks the page as little as its selector takes. -/
theorem asks_find_of_check (document : Document)
    (passed : (finder root kind preferCss).check selector = .ok ()) :
    Asks document ((finder root kind preferCss).find selector) fun calls =>
      document.Bounded (finder root kind preferCss) selector calls ∧
        LooksForIdentifier selector calls := by
  obtain ⟨criteria, normalized, plans⟩ := (finder root kind preferCss).check_eq_ok_iff.1 passed
  apply asks_find document normalized
  unfold Finder.locate
  cases asked : selector.identifier? with
  | some id =>
      apply (asks_firstIdentified document root kind preferCss selector id).mono
      intro calls looked
      refine ⟨.of_one (fun label seeks => ?_) looked, .of_identified asked looked⟩
      rw [(several_of_seeksLabel seeks).1] at asked
      cases asked
  | none =>
      cases lone : selector.lone? with
      | some criterion =>
          apply (asks_firstLone document root kind preferCss criterion).mono
          intro calls looked
          refine ⟨.of_one (fun label seeks => ?_) looked, .of_other asked fun call member => ?_⟩
          · rw [(several_of_seeksLabel seeks).2] at lone
            cases lone
          · rw [List.mem_singleton.1 (looked.subset member)]
            exact strategy_of_lone asked lone
      | none =>
          obtain ⟨plan, chosen⟩ := plans lone
          obtain ⟨linkless, planned⟩ := (finder root kind preferCss).choosePlan_eq_ok_iff.1 chosen
          apply (asks_firstPlanned document linkless planned).mono
          intro calls looked
          exact ⟨.of_looked (fun label => seeksLabel_iff normalized chosen) looked,
            .of_other asked (strategy_of_looked looked)⟩

/-- A search for all matches that is not refused asks the page as little as its selector takes. -/
theorem asks_findAll_of_checkAll (document : Document)
    (passed : (finder root kind preferCss).checkAll selector = .ok ()) :
    Asks document ((finder root kind preferCss).findAll selector)
      (document.Bounded (finder root kind preferCss) selector) := by
  obtain ⟨absent, checked⟩ := (finder root kind preferCss).checkAll_eq_ok_iff.1 passed
  obtain ⟨criteria, normalized, plans⟩ := (finder root kind preferCss).check_eq_ok_iff.1 checked
  have unplaced := Selector.contains_index_of_normalize absent normalized
  have kept : criteria.withoutIndex = criteria := OrderedMap.erase_of_absent unplaced
  apply asks_findAll document normalized unplaced
  unfold Finder.locateAll
  cases lone : selector.lone? with
  | some criterion =>
      apply (asks_allLone document root kind preferCss criterion).mono
      intro calls looked
      refine .of_one (fun label seeks => ?_) looked
      rw [(several_of_seeksLabel seeks).2] at lone
      cases lone
  | none =>
      obtain ⟨plan, chosen⟩ := plans lone
      obtain ⟨linkless, planned⟩ := (finder root kind preferCss).choosePlan_eq_ok_iff.1 chosen
      rw [kept] at planned
      apply (asks_allPlanned document linkless planned unplaced).mono
      intro calls looked
      refine .of_looked (fun label => ?_) looked
      have sought : (finder root kind preferCss).SeeksLabel selector label ↔
          (finder root kind preferCss).soughtLabel? criteria.withoutIndex plan = some label :=
        seeksLabel_iff normalized chosen
      rwa [kept] at sought

end Bounds

/-- Of the document, only the record changes. -/
theorem Asks.exists_calls {α : Type} {document : Document} {work : Work Document α}
    {form : Calls → Prop} (asks : Asks document work form) :
    ∃ calls, (work.run document).2 = { document with calls := document.calls ++ calls } ∧
      form calls := by
  obtain ⟨result, calls, yields, _, formed⟩ := asks
  have ran := yields document.calls
  exact ⟨calls, congrArg Prod.snd ran, formed⟩

/-- A refusal changes nothing at all. -/
theorem exists_calls_of_throw {α : Type} (document : Document) {work : Work Document α}
    {fault : Fault} (refused : work = throw fault) {form : Calls → Prop} (formed : form []) :
    ∃ calls, (work.run document).2 = { document with calls := document.calls ++ calls } ∧
      form calls := by
  refine ⟨[], ?_, formed⟩
  rw [refused, List.append_nil]
  rfl

/-- A search changes nothing of a document but the record of its lookups, to which it adds two at
most: one, unless a label is sought, which then is looked for first and has to be there for the
other lookup to be made. A search for one match looks for an identifier by its strategy exactly
where the selector asks for it and for nothing else but perhaps a tag, and then for nothing else.
A reference that knows its element asks nothing of any document. -/
theorem exists_bounded_calls (document : Document) (root : Option Nat) (kind : ElementKind)
    (preferCss : Bool) (selector : Selector) :
    let finder := finder root kind preferCss
    (∃ calls, ((finder.find selector).run document).2 =
        { document with calls := document.calls ++ calls } ∧
      document.Bounded finder selector calls ∧ LooksForIdentifier selector calls) ∧
    (∃ calls, ((finder.findAll selector).run document).2 =
        { document with calls := document.calls ++ calls } ∧
      document.Bounded finder selector calls) ∧
    ∀ (reference : Reference Nat) (node : Nat), reference.element = some node →
      ∀ later : Document,
        (reference.locate finder).run later = (.ok (some node), later) ∧
        (reference.exists? finder).run later = (.ok true, later) ∧
        (reference.demand finder).run later = (.ok node, later) := by
  intro finder
  refine ⟨?_, ?_, ?_⟩
  · cases checked : finder.check selector with
    | error fault =>
        exact exists_calls_of_throw document (finder.find_of_check_error checked)
          ⟨.nil, .nil⟩
    | ok _ => exact (asks_find_of_check document checked).exists_calls
  · cases checked : finder.checkAll selector with
    | error fault =>
        exact exists_calls_of_throw document (finder.findAll_of_checkAll_error checked) .nil
    | ok _ => exact (asks_findAll_of_checkAll document checked).exists_calls
  · intro reference node known later
    have located : reference.locate finder = pure (some node) := by
      rw [Reference.locate, known]
    rw [Reference.exists?, Reference.demand, located]
    exact ⟨rfl, rfl, rfl⟩

/-- A label that is there takes a lookup of its own; an identifier beside a tag takes one lookup,
and an element that is known none, even once it is stale. -/
theorem exists_bounded_calls_email :
    ∃ labelled identified : Selector,
      (finder none .generic false).SeeksLabel labelled emailPattern ∧
      labelledInputs.Sends ((finder none .generic false).findAll labelled)
        [(.tagName, "label"), (.xpath, ".//*[@id = 'b']")] ∧
      labelledInputs.HasLabel none emailPattern ∧
      identified.AsksForIdentifier "a" ∧
      (∃ calls, ((finder none .generic false).find identified |>.run labelledInputs).2 =
        { labelledInputs with calls } ∧ calls <+: [(.id, "a")]) ∧
      ((⟨labelled, some 3⟩ : Reference Nat).demand (finder none .generic false)).run
        (labelledInputs.makeStale 3) = (.ok 3, labelledInputs.makeStale 3) := by
  let labelled : Selector := ⟨[("label", .pattern emailPattern)], by decide⟩
  let identified : Selector := ⟨[("tag_name", .oneOf []), ("id", .literal "a")], by decide⟩
  have seeks : (finder none .generic false).SeeksLabel labelled emailPattern :=
    ⟨⟨[(.label, .pattern emailPattern)], by decide⟩, rfl, rfl, rfl, rfl⟩
  have sent : labelledInputs.Sends ((finder none .generic false).findAll labelled)
      [(.tagName, "label"), (.xpath, ".//*[@id = 'b']")] := rfl
  have asks : identified.AsksForIdentifier "a" := ⟨rfl, by decide⟩
  have bounds := exists_bounded_calls labelledInputs none .generic false
  obtain ⟨calls, ran, bounded⟩ := (bounds labelled).2.1
  obtain rfl : calls = [(.tagName, "label"), (.xpath, ".//*[@id = 'b']")] :=
    (congrArg Document.calls ran).symm.trans sent
  have there := (bounded.label_first emailPattern seeks _ _ rfl).2 (List.cons_ne_nil _ _)
  obtain ⟨found, looked, _, identifiers⟩ := (bounds identified).1
  exact ⟨labelled, identified, seeks, sent, there, asks,
    ⟨found, looked, identifiers.only "a" asks⟩,
    ((bounds labelled).2.2 ⟨labelled, some 3⟩ 3 rfl (labelledInputs.makeStale 3)).2.2⟩

end Document

end ElementSearch
