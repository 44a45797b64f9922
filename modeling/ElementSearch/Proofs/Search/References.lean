/-
# What references may fail with

A collection that was looked up hands out references by position, also where it has no match
for one; such a reference is looked up when it is used. By then the page may be another, and
the search may fail by what it meets there. It does not fail by its selector, which was good
enough for the collection and is only added a position to, with one exception: a criterion
about links stands alone, and beside a position it is refused on every page.
-/

import ElementSearch.Proofs.Search.Lookups
import ElementSearch.Search.Collection

namespace ElementSearch

/-! ## Faults of the page -/

/-- The result fails only by what was met on the page, if it fails. -/
def FailsByPage {α : Type} (result : Except Fault α) : Prop :=
  ∀ fault, result = .error fault → fault.isSelectorFault = false

namespace FailsByPage

variable {α β : Type} {result : Except Fault α}

theorem ok (value : α) : FailsByPage (.ok value) := by
  intro fault failed
  cases failed

theorem error {fault : Fault} (page : fault.isSelectorFault = false) :
    FailsByPage (.error fault : Except Fault α) := by
  intro other failed
  rw [← Except.error.inj failed]
  exact page

theorem bind {next : α → Except Fault β} (first : FailsByPage result)
    (later : ∀ value, FailsByPage (next value)) : FailsByPage (result >>= next) := by
  cases result with
  | error fault => exact error (first fault rfl)
  | ok value => exact later value

end FailsByPage

/-- No fault that a page gives lies in the selector. -/
theorem FailsByPageFault.failsByPage {α : Type} {result : Except Fault α}
    (page : FailsByPageFault result) : FailsByPage result := by
  intro fault failed
  have given := page fault failed
  cases fault with
  | noSuchElement lookup => rfl
  | staleElement detail => rfl
  | pageFailed detail => rfl
  | _ => cases given

/-! ## Plans for lone criteria -/

namespace Criteria

variable {criteria : Criteria} {key : Key} {value : Value}

/-- A query that the caller gave is not in conflict with itself. -/
theorem exists_givenQuery_of_alone (alone : criteria.entries = [(key, value)]) :
    ∃ query, criteria.givenQuery? = .ok query := by
  unfold givenQuery? OrderedMap.get? OrderedMap.keys
  rw [alone]
  by_cases path : key = .xpath
  · subst path
    cases literal : value.literal? <;> simp [literal, mayAccompany]
  · by_cases css : key = .css
    · subst css
      cases literal : value.literal? <;> simp [literal, mayAccompany]
    · simp [path, css]

/-- There is a plan unless the query that the caller gave is in conflict. -/
theorem exists_plan_of_given (kind : ElementKind) (preferCss : Bool) {given : Option Query}
    (settled : criteria.givenQuery? = .ok given) (unplaced : criteria.contains .index = false) :
    ∃ plan, criteria.plan kind preferCss = .ok plan := by
  unfold plan
  rw [unplaced, settled]
  cases given with
  | some query => exact ⟨_, rfl⟩
  | none =>
      cases plain : criteria.hasPattern with
      | true => exact ⟨_, rfl⟩
      | false =>
          obtain ⟨query, built⟩ := exists_exactQuery kind preferCss unplaced plain
          rw [built]
          exact ⟨_, rfl⟩

end Criteria

namespace Document

/-! ## What a search for all matches says about its selector -/

section Fetched

variable {document : Document} {root : Option Nat} {kind : ElementKind} {preferCss : Bool}
  {selector : Selector} {criteria : Criteria} {found : List Nat}

/-- Work that succeeds passed the checks that it began with. -/
theorem Yields.of_ofExcept_bind {α β : Type} {result : Except Fault α} {next : α → Work Document β}
    {value : β} {calls : Calls}
    (yields : Yields document (Work.ofExcept result >>= next) (.ok value) calls) :
    ∃ passed, result = .ok passed ∧ Yields document (next passed) (.ok value) calls := by
  cases result with
  | error fault =>
      have failed : Yields document (Work.ofExcept (.error fault) >>= next) (.error fault) [] :=
        (Yields.ofExcept _).bind_error
      have both := failed.result_eq.symm.trans yields.result_eq
      cases both
  | ok passed => exact ⟨passed, rfl, fun before => yields before⟩

theorem determined_locateAll (document : Document) (root : Option Nat) (kind : ElementKind)
    (preferCss : Bool) (selector : Selector) (unplaced : criteria.contains .index = false) :
    Determined document ((finder root kind preferCss).locateAll selector criteria) := by
  unfold Finder.locateAll
  cases selector.lone? with
  | some criterion => exact (refines_firstLone document root kind preferCss criterion).determined
  | none => exact (refines_firstPlanned document root kind preferCss unplaced).determined

/-- A selector is only searched for if it is normalized and asks for no position. -/
theorem exists_yields_of_findAll
    (fetched : document.outcome ((finder root kind preferCss).findAll selector) = .ok found) :
    ∃ criteria, selector.normalize kind = .ok criteria ∧ criteria.contains .index = false ∧
      ∃ calls, Yields document ((finder root kind preferCss).locateAll selector criteria)
        (.ok found) calls := by
  cases normalized : selector.normalize kind with
  | error fault =>
      rw [(outcome_of_invalid document root preferCss normalized).2] at fetched
      cases fetched
  | ok criteria =>
      cases unplaced : criteria.contains .index with
      | true =>
          have refused : Yields document ((finder root kind preferCss).findAll selector)
              (.error .indexForAll) [] := by
            apply (Yields.ofExcept_of_eq normalized).bind_ok
            rw [if_pos unplaced]
            exact .ofExcept (.error .indexForAll)
          have failed := refused.result_eq.symm.trans fetched
          cases failed
      | false =>
          obtain ⟨result, calls, located⟩ :=
            determined_locateAll document root kind preferCss selector unplaced
          obtain rfl : result = .ok found :=
            (outcome_findAll normalized unplaced located).symm.trans fetched
          exact ⟨criteria, rfl, unplaced, calls, located⟩

/-- What was searched for can be planned. -/
theorem exists_plan_of_locateAll (normalized : selector.normalize kind = .ok criteria)
    (unplaced : criteria.contains .index = false) {calls : Calls}
    (located : Yields document ((finder root kind preferCss).locateAll selector criteria)
      (.ok found) calls) :
    ∃ plan, criteria.plan kind preferCss = .ok plan := by
  unfold Finder.locateAll at located
  cases lone : selector.lone? with
  | some criterion =>
      obtain ⟨name, value, alone, _⟩ := Selector.exists_entry_of_lone? lone
      obtain ⟨given, settled⟩ := Criteria.exists_givenQuery_of_alone
        (Selector.entries_of_normalize_alone alone normalized)
      exact Criteria.exists_plan_of_given kind preferCss settled unplaced
  | none =>
      rw [lone] at located
      obtain ⟨_, _, searched⟩ := located.of_ofExcept_bind
      obtain ⟨plan, planned, _⟩ := searched.of_ofExcept_bind
      exact ⟨plan, planned⟩

end Fetched

end Document

/-! ## References -/

/-- The selector asks for links by their text. -/
def Selector.AsksForLink (selector : Selector) : Prop :=
  ∃ name ∈ linkNames, selector.contains name = true

section Links

variable {selector : Selector} {criteria : Criteria} {kind : ElementKind}

theorem contains_of_linkName (normalized : selector.normalize kind = .ok criteria) {key : Key}
    (link : key.name ∈ linkNames) : criteria.contains key = selector.contains key.name := by
  have single : ∀ name ∈ linkNames, name ∉ aliasedNames := by decide
  exact Selector.contains_of_normalize normalized (single _ link)

variable {σ η : Type} (finder : Finder σ η)

theorem Finder.refuseLinks_of_linkless (normalized : selector.normalize kind = .ok criteria)
    (linkless : ¬ selector.AsksForLink) : finder.refuseLinks criteria = .ok () := by
  rw [Finder.refuseLinks_eq_ok_iff]
  intro key member
  rw [List.contains_eq_mem, decide_eq_false_iff_not]
  intro link
  refine linkless ⟨key.name, link, ?_⟩
  rw [← contains_of_linkName normalized link]
  exact OrderedMap.contains_iff_mem_keys.2 member

theorem Finder.refuseLinks_of_asksForLink (normalized : selector.normalize kind = .ok criteria)
    (asks : selector.AsksForLink) :
    ∃ name ∈ linkNames, selector.contains name = true ∧
      finder.refuseLinks criteria = .error (.unsupportedAttribute name finder.kind.tag) := by
  unfold refuseLinks
  cases named : criteria.keys.find? fun key => linkNames.contains key.name with
  | none =>
      obtain ⟨name, link, asked⟩ := asks
      have own := Key.name_ofName name
      rw [← own] at link asked
      rw [← contains_of_linkName normalized link, OrderedMap.contains_iff_mem_keys] at asked
      exact absurd (List.contains_iff_mem.2 link) (List.find?_eq_none.1 named _ asked)
  | some key =>
      have contained := List.find?_some named
      have link := List.contains_iff_mem.1 contained
      refine ⟨key.name, link, ?_, rfl⟩
      rw [← contains_of_linkName normalized link, OrderedMap.contains_iff_mem_keys]
      exact List.mem_of_find?_eq_some named

end Links

namespace Reference

/-- On no document does the reference fail by its selector. -/
def Usable (reference : Reference Nat) (finder : Finder Document Nat) : Prop :=
  ∀ document : Document, FailsByPage (document.outcome (reference.locate finder)) ∧
    FailsByPage (document.outcome (reference.exists? finder)) ∧
    FailsByPage (document.outcome (reference.demand finder))

/-- On every document the reference fails, and always by one fault. -/
def Refused (reference : Reference Nat) (finder : Finder Document Nat) (fault : Fault) : Prop :=
  ∀ document : Document, document.outcome (reference.locate finder) = .error fault ∧
    document.outcome (reference.exists? finder) = .error fault ∧
    document.outcome (reference.demand finder) = .error fault

variable {reference : Reference Nat} {finder : Finder Document Nat}

/-- A reference fails only as its lookup does, or by finding nothing. -/
theorem usable_of_yields
    (looked : ∀ document, ∃ result calls,
      Document.Yields document (reference.locate finder) result calls ∧ FailsByPage result) :
    reference.Usable finder := by
  intro document
  obtain ⟨result, calls, yields, page⟩ := looked document
  have asked := yields.bind fun found => .pure found.isSome
  have demanded : Document.Yields document (reference.demand finder) (result >>= fun found =>
      found.elim (.error (.elementNotFound reference.selector.display)) .ok) calls := by
    apply yields.bind
    intro found
    cases found with
    | some element => exact .pure element
    | none => exact .ofExcept _
  refine ⟨?_, ?_, ?_⟩
  · rw [Document.outcome, yields.result_eq]
    exact page
  · rw [Document.outcome, Reference.exists?, asked.result_eq]
    exact page.bind fun found => .ok _
  · rw [Document.outcome, demanded.result_eq]
    apply page.bind
    intro found
    cases found with
    | some element => exact .ok element
    | none => exact .error rfl

theorem refused_of_yields {fault : Fault}
    (looked : ∀ document, ∃ calls,
      Document.Yields document (reference.locate finder) (.error fault) calls) :
    reference.Refused finder fault := by
  intro document
  obtain ⟨calls, yields⟩ := looked document
  exact ⟨yields.result_eq, yields.bind_error.result_eq, yields.bind_error.result_eq⟩

end Reference

namespace Document

section Placeholders

variable {root : Option Nat} {kind : ElementKind} {preferCss : Bool}
  {selector : Selector} {criteria : Criteria}

theorem normalize_withIndex_of_unplaced (normalized : selector.normalize kind = .ok criteria)
    (unplaced : criteria.contains .index = false) (position : Int64) :
    (selector.withIndex position).normalize kind =
      .ok (criteria.insert .index (.index position)) := by
  have absent : selector.contains "index" = false := by
    have same : criteria.contains .index = selector.contains "index" :=
      Selector.contains_of_normalize normalized (by decide)
    rw [← same]
    exact unplaced
  rw [Selector.normalize_withIndex absent, normalized]
  rfl

/-- A planned search for one position fails only by the page. -/
theorem exists_yields_find_withIndex (normalized : selector.normalize kind = .ok criteria)
    (unplaced : criteria.contains .index = false) {plan : Plan}
    (planned : criteria.plan kind preferCss = .ok plan)
    (linkless : (finder root kind preferCss).refuseLinks criteria = .ok ()) (position : Int64)
    (document : Document) :
    ∃ result calls, Yields document
      ((finder root kind preferCss).find (selector.withIndex position)) result calls ∧
        FailsByPage result := by
  have searched := (asks_allPlanned document linkless planned unplaced).map (pick · position)
  rw [← Finder.locate_withIndex _ selector unplaced] at searched
  have placed := normalize_withIndex_of_unplaced normalized unplaced position
  obtain ⟨result, calls, yields, page, _⟩ := asks_find document placed searched
  exact ⟨result, calls, yields, page.failsByPage⟩

/-- A search for one position is refused as all links are. -/
theorem exists_yields_find_withIndex_of_refused
    (normalized : selector.normalize kind = .ok criteria)
    (unplaced : criteria.contains .index = false) {fault : Fault}
    (refused : (finder root kind preferCss).refuseLinks criteria = .error fault)
    (present : fault.isAbsence = false) (position : Int64) (document : Document) :
    ∃ calls, Yields document
      ((finder root kind preferCss).find (selector.withIndex position)) (.error fault) calls := by
  have searched : Yields document ((finder root kind preferCss).allPlanned criteria)
      (.error fault) [] := by
    rw [Finder.allPlanned, refused]
    exact (Yields.ofExcept _).bind_error
  have located := searched.map (pick · position)
  rw [← Finder.locate_withIndex _ selector unplaced] at located
  have placed := normalize_withIndex_of_unplaced normalized unplaced position
  have found := yields_find placed located
  have kept : Work.absorb (((pick · position) <$> .error fault) >>=
      document.settle (selector.withIndex position)) = .error fault :=
    Work.absorb_of_not_absence present
  rw [kept] at found
  exact ⟨_, found⟩

end Placeholders

/-- A collection that was looked up gives a reference for every position, then and later. A
reference that is located, or whose selector asks for no link, fails on no document by its
selector; one that is not located and asks for a link does so on every document. -/
theorem usable_reference_of_findAll (document : Document) (root : Option Nat) (kind : ElementKind)
    (preferCss : Bool) {selector : Selector} {found : List Nat}
    (fetched : document.outcome ((finder root kind preferCss).findAll selector) = .ok found)
    (position : Int64) :
    let finder := finder root kind preferCss
    let kept : Collection Nat := ⟨selector, some found⟩
    let reference := kept.reference found position
    document.outcome ((Collection.ofSelector selector).referenceAt finder position) =
        .ok (reference, kept) ∧
      (∀ later : Document, later.outcome (kept.referenceAt finder position) =
        .ok (reference, kept)) ∧
      (reference.isLocated = true ∨ ¬ selector.AsksForLink → reference.Usable finder) ∧
      (reference.isLocated = false → selector.AsksForLink →
        ∃ name ∈ linkNames, selector.contains name = true ∧
          reference.Refused finder (.unsupportedAttribute name kind.tag)) := by
  intro finder kept reference
  obtain ⟨criteria, normalized, unplaced, calls, located⟩ := exists_yields_of_findAll fetched
  obtain ⟨plan, planned⟩ := exists_plan_of_locateAll normalized unplaced located
  have searched := yields_findAll normalized unplaced located
  refine ⟨?_, fun later => rfl, ?_, ?_⟩
  · have stored : Yields document ((Collection.ofSelector selector).fetch finder)
        (.ok (found, kept)) calls := searched.bind fun found => .pure _
    have referred : Yields document ((Collection.ofSelector selector).referenceAt finder position)
        (.ok (reference, kept)) calls := stored.bind fun stored => .pure _
    exact referred.result_eq
  · intro allowed
    apply Reference.usable_of_yields
    intro later
    unfold Reference.locate
    cases element : reference.element with
    | some node => exact ⟨_, _, .pure (some node), .ok _⟩
    | none =>
        have linkless : ¬ selector.AsksForLink := by
          rcases allowed with located | linkless
          · rw [Reference.isLocated, element] at located
            cases located
          · exact linkless
        exact exists_yields_find_withIndex normalized unplaced planned
          (finder.refuseLinks_of_linkless normalized linkless) position later
  · intro pending asks
    obtain ⟨name, link, asked, refused⟩ := finder.refuseLinks_of_asksForLink normalized asks
    refine ⟨name, link, asked, Reference.refused_of_yields fun later => ?_⟩
    rw [Reference.isLocated, Option.isSome_eq_false_iff, Option.isNone_iff_eq_none] at pending
    unfold Reference.locate
    rw [pending]
    exact exists_yields_find_withIndex_of_refused normalized unplaced refused rfl position later

/-! ## A page with one link -/

/-- A page with a link. -/
def linkedPage : Document where
  tree := ⟨[⟨0, "a", [("href", "/docs")], "Docs"⟩], by decide⟩
  stubs := .empty
  stale := []
  calls := []

/-- Asked for by its tag, a sixth link can be looked up on every page. -/
theorem usable_reference_of_findAll_tag :
    ∃ (selector : Selector) (reference : Reference Nat),
      linkedPage.outcome ((finder none .generic false).findAll selector) = .ok [1] ∧
      linkedPage.outcome ((Collection.ofSelector selector).referenceAt
        (finder none .generic false) 5) = .ok (reference, ⟨selector, some [1]⟩) ∧
      reference.isLocated = false ∧ reference.Usable (finder none .generic false) := by
  let selector : Selector := ⟨[("tag_name", .literal "a")], by decide⟩
  have fetched : linkedPage.outcome ((finder none .generic false).findAll selector) =
    .ok [1] := rfl
  obtain ⟨referred, _, usable, _⟩ :=
    usable_reference_of_findAll linkedPage none .generic false fetched 5
  refine ⟨selector, _, fetched, referred, rfl, usable (.inr ?_)⟩
  rintro ⟨name, link, asked⟩
  have named : ∀ name ∈ linkNames, selector.contains name = false := by decide
  rw [named name link] at asked
  cases asked

/-- Asked for by its text, a sixth link cannot be looked up: its selector is refused. -/
theorem exists_reference_refused_by_selector :
    ∃ (selector : Selector) (reference : Reference Nat),
      linkedPage.outcome ((Collection.ofSelector selector).referenceAt
        (finder none .generic false) 5) = .ok (reference, ⟨selector, some [1]⟩) ∧
      ∃ fault, fault.isSelectorFault = true ∧
        linkedPage.outcome (reference.locate (finder none .generic false)) = .error fault ∧
        linkedPage.outcome (reference.exists? (finder none .generic false)) = .error fault ∧
        linkedPage.outcome (reference.demand (finder none .generic false)) = .error fault :=
  ⟨⟨[("link_text", .literal "Docs")], by decide⟩, _, rfl,
    .unsupportedAttribute "link_text" "element", rfl, rfl, rfl, rfl⟩

end Document

end ElementSearch
