/-
# Selectors that are refused

A selector is refused before the page is asked anything, and so it is refused alike on every
page: a search that once failed by its selector always does, with the same fault, and leaves
the page as it was. Searches for one match and for all refuse the same selectors, but for a
position, which only a search for one match takes. Whatever else a search fails with is given by
the page; it never fails to build a query, and it never demands an element.
-/

import ElementSearch.Proofs.Search.RoundTrips

namespace ElementSearch

theorem Fault.isPageFault_of_isRefusal {fault : Fault} (refusal : fault.isRefusal = true) :
    fault.isPageFault = false := by
  cases fault with
  | noSuchElement lookup => cases refusal
  | staleElement detail => cases refusal
  | pageFailed detail => cases refusal
  | _ => rfl

namespace Document

section Refused

variable {document : Document} {root : Option Nat} {kind : ElementKind} {preferCss : Bool}
  {selector : Selector} {fault : Fault}

/-- No check looks at the root. -/
theorem check_finder (root below : Option Nat) :
    (finder below kind preferCss).check selector =
      (finder root kind preferCss).check selector := rfl

theorem checkAll_finder (root below : Option Nat) :
    (finder below kind preferCss).checkAll selector =
      (finder root kind preferCss).checkAll selector := by
  unfold Finder.checkAll
  rw [check_finder root below]
  rfl

/-- Work that asks the page fails by a fault of the page. -/
theorem Asks.isPageFault {α : Type} {work : Work Document α} {form : Calls → Prop}
    (asks : Asks document work form) (failed : document.outcome work = .error fault) :
    fault.isPageFault = true := by
  obtain ⟨result, calls, yields, page, _⟩ := asks
  exact page fault (yields.result_eq.symm.trans failed)

theorem outcome_throw {α : Type} {work : Work Document α} {other : Fault}
    (refused : work = throw other) (failed : document.outcome work = .error fault) :
    other = fault := by
  rw [refused] at failed
  exact Except.error.inj failed

/-- A search for one match fails as its check does, or by a fault of the page. -/
theorem check_or_isPageFault_of_find
    (failed : document.outcome ((finder root kind preferCss).find selector) = .error fault) :
    (finder root kind preferCss).check selector = .error fault ∨ fault.isPageFault = true := by
  cases checked : (finder root kind preferCss).check selector with
  | error other =>
      rw [outcome_throw (Finder.find_of_check_error _ checked) failed]
      exact .inl rfl
  | ok _ => exact .inr ((asks_find_of_check document checked).isPageFault failed)

/-- A search for all matches fails as its check does, or by a fault of the page. -/
theorem checkAll_or_isPageFault_of_findAll
    (failed : document.outcome ((finder root kind preferCss).findAll selector) = .error fault) :
    (finder root kind preferCss).checkAll selector = .error fault ∨ fault.isPageFault = true := by
  cases checked : (finder root kind preferCss).checkAll selector with
  | error other =>
      rw [outcome_throw (Finder.findAll_of_checkAll_error _ checked) failed]
      exact .inl rfl
  | ok _ => exact .inr ((asks_findAll_of_checkAll document checked).isPageFault failed)

theorem outcome_find_eq_iff (refusal : fault.isRefusal = true) :
    document.outcome ((finder root kind preferCss).find selector) = .error fault ↔
      (finder root kind preferCss).check selector = .error fault := by
  constructor
  · intro failed
    rcases check_or_isPageFault_of_find failed with checked | page
    · exact checked
    · rw [Fault.isPageFault_of_isRefusal refusal] at page
      cases page
  · intro checked
    rw [Finder.find_of_check_error _ checked]
    rfl

theorem outcome_findAll_eq_iff (refusal : fault.isRefusal = true) :
    document.outcome ((finder root kind preferCss).findAll selector) = .error fault ↔
      (finder root kind preferCss).checkAll selector = .error fault := by
  constructor
  · intro failed
    rcases checkAll_or_isPageFault_of_findAll failed with checked | page
    · exact checked
    · rw [Fault.isPageFault_of_isRefusal refusal] at page
      cases page
  · intro checked
    rw [Finder.findAll_of_checkAll_error _ checked]
    rfl

end Refused

/-- A search that fails by its selector on one document fails by the same fault on every document
and below every root, and does nothing to it. Without a position, searches for one match and for
all refuse the same selectors by the same faults; with one, a search for all always refuses it,
unless the selector cannot even be normalized. No search fails to build its query, and none
demands an element. -/
theorem refused_on_every_page (kind : ElementKind) (preferCss : Bool) (selector : Selector) :
    (∀ (document : Document) root fault, fault.isRefusal = true →
      document.outcome ((finder root kind preferCss).find selector) = .error fault →
      ∀ (other : Document) below,
        ((finder below kind preferCss).find selector).run other = (.error fault, other)) ∧
    (∀ (document : Document) root fault, fault.isRefusal = true →
      document.outcome ((finder root kind preferCss).findAll selector) = .error fault →
      ∀ (other : Document) below,
        ((finder below kind preferCss).findAll selector).run other = (.error fault, other)) ∧
    (selector.contains "index" = false →
      ∀ (document other : Document) root below fault, fault.isRefusal = true →
        (document.outcome ((finder root kind preferCss).find selector) = .error fault ↔
          other.outcome ((finder below kind preferCss).findAll selector) = .error fault)) ∧
    (∀ criteria, selector.normalize kind = .ok criteria → selector.contains "index" = true →
      ∀ (document : Document) root, ((finder root kind preferCss).findAll selector).run document =
        (.error .indexForAll, document)) ∧
    ∀ (document : Document) root fault,
      document.outcome ((finder root kind preferCss).find selector) = .error fault ∨
        document.outcome ((finder root kind preferCss).findAll selector) = .error fault →
      (∀ shown, fault ≠ .unbuildable shown) ∧ ∀ shown, fault ≠ .elementNotFound shown := by
  refine ⟨?_, ?_, ?_, ?_, ?_⟩
  · intro document root fault refusal failed other below
    rw [outcome_find_eq_iff refusal, ← check_finder root below] at failed
    rw [Finder.find_of_check_error _ failed]
    rfl
  · intro document root fault refusal failed other below
    rw [outcome_findAll_eq_iff refusal, ← checkAll_finder root below] at failed
    rw [Finder.findAll_of_checkAll_error _ failed]
    rfl
  · intro absent document other root below fault refusal
    rw [outcome_find_eq_iff refusal, outcome_findAll_eq_iff refusal,
      Finder.checkAll_of_absent _ absent, check_finder root below]
  · intro criteria normalized present document root
    rw [Finder.findAll_of_checkAll_error _ (Finder.checkAll_of_present _ normalized present)]
    rfl
  · intro document root fault failed
    have sorted : fault.isRefusal = true ∨ fault.isPageFault = true := by
      rcases failed with failed | failed
      · exact (check_or_isPageFault_of_find failed).imp_left (Finder.isRefusal_of_check _)
      · exact (checkAll_or_isPageFault_of_findAll failed).imp_left (Finder.isRefusal_of_checkAll _)
    constructor
    · rintro shown rfl
      rcases sorted with refusal | page
      · cases refusal
      · cases page
    · rintro shown rfl
      rcases sorted with refusal | page
      · cases refusal
      · cases page

/-- A link beside another criterion is refused on every page, whether one match is asked for or
all, and a position where all are. -/
theorem refused_on_every_page_link :
    ∃ (selector placed : Selector) (fault : Fault), fault.isRefusal = true ∧
      linkedPage.outcome ((finder none .generic false).find selector) = .error fault ∧
      (∀ (other : Document) below, ((finder below .generic false).find selector).run other =
        (.error fault, other)) ∧
      (∀ (other : Document) below, ((finder below .generic false).findAll selector).run other =
        (.error fault, other)) ∧
      (∀ (other : Document) below, ((finder below .generic false).findAll placed).run other =
        (.error .indexForAll, other)) ∧
      ∀ shown, fault ≠ .unbuildable shown := by
  let selector : Selector := ⟨[("id", .literal "docs"), ("link", .literal "Docs")], by decide⟩
  let placed : Selector := ⟨[("tag_name", .literal "a"), ("index", .index (-1))], by decide⟩
  let fault : Fault := .unsupportedAttribute "link" "element"
  have one : linkedPage.outcome ((finder none .generic false).find selector) = .error fault := rfl
  obtain ⟨alike, alikeAll, both, _, sorts⟩ := refused_on_every_page .generic false selector
  have all := (both rfl linkedPage linkedPage none none fault rfl).1 one
  obtain ⟨_, _, _, positions, _⟩ := refused_on_every_page .generic false placed
  exact ⟨selector, placed, fault, rfl, one, alike linkedPage none fault rfl one,
    alikeAll linkedPage none fault rfl all, positions _ rfl rfl,
    (sorts linkedPage none fault (.inl one)).1⟩

end Document

end ElementSearch
