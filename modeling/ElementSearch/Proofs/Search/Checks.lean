/-
# How selectors are checked

Before the page is asked anything, a selector is normalized, and if it does not go to the page as
it is, its criteria are planned. A selector that does not pass is refused: the search comes to
the fault of the check and does nothing else, whatever the page. Which selectors are refused
is the same for a search for one match and for all, but for a position, which is refused where
all matches are asked for.
-/

import ElementSearch.Proofs.Search.References

namespace ElementSearch

/-- Whether the fault refuses a selector. -/
def Fault.isRefusal : Fault → Bool
  | .invalidValue _ _ | .unsupportedAttribute _ _ | .conflictingStrategy _ | .indexForAll => true
  | _ => false

/-! ## Faults of the checks -/

section Faults

variable {kind : ElementKind} {preferCss : Bool} {criteria : Criteria} {fault : Fault}

theorem isRefusal_of_checkCriterion {key : Key} {value : Value}
    (failed : checkCriterion kind key value = .error fault) : fault.isRefusal = true := by
  unfold checkCriterion at failed
  split at failed
  · cases failed
    rfl
  · split at failed
    · split at failed
      · cases failed
      · cases failed
        rfl
    · cases failed

theorem isRefusal_of_fileAll {done : Criteria} {entries : List (String × Value)}
    (failed : Selector.fileAll kind done entries = .error fault) : fault.isRefusal = true := by
  induction entries generalizing done with
  | nil => cases failed
  | cons entry rest ih =>
      simp only [Selector.fileAll] at failed
      split at failed
      · next checked =>
          cases failed
          exact isRefusal_of_checkCriterion checked
      · exact ih failed

theorem isRefusal_of_refuseLinks {σ η : Type} {finder : Finder σ η}
    (failed : finder.refuseLinks criteria = .error fault) : fault.isRefusal = true := by
  unfold Finder.refuseLinks at failed
  split at failed
  · cases failed
    rfl
  · cases failed

theorem isRefusal_of_givenQuery? (failed : criteria.givenQuery? = .error fault) :
    fault.isRefusal = true := by
  unfold Criteria.givenQuery? at failed
  dsimp only at failed
  split at failed
  · cases failed
  · cases failed
    rfl
  · split at failed
    · cases failed
    · cases failed
      rfl
  · split at failed
    · cases failed
    · cases failed
      rfl

/-- Criteria without a position are only refused for the query that the caller gave. -/
theorem isRefusal_of_plan (unplaced : criteria.contains .index = false)
    (failed : criteria.plan kind preferCss = .error fault) : fault.isRefusal = true := by
  cases settled : criteria.givenQuery? with
  | ok given =>
      obtain ⟨plan, planned⟩ := Criteria.exists_plan_of_given kind preferCss settled unplaced
      rw [planned] at failed
      cases failed
  | error conflict =>
      rw [Criteria.plan, unplaced, settled] at failed
      obtain rfl : conflict = fault := Except.error.inj failed
      exact isRefusal_of_givenQuery? settled

end Faults

/-! ## Identifiers -/

namespace Selector

variable {selector : Selector} {id : String}

/-- The selector asks for this identifier, and for nothing else but perhaps a tag. -/
def AsksForIdentifier (selector : Selector) (id : String) : Prop :=
  selector.get? "id" = some (.literal id) ∧ ∀ name ∈ selector.keys, name = "id" ∨ name = "tag_name"

theorem AsksForIdentifier.size_eq (asks : selector.AsksForIdentifier id) :
    selector.size = if selector.contains "tag_name" then 2 else 1 := by
  have identified := mem_keys_of_get? asks.1
  rw [← OrderedMap.length_keys]
  cases tagged : selector.contains "tag_name" with
  | true =>
      have both : ["id", "tag_name"] ⊆ selector.keys :=
        List.cons_subset.2 ⟨identified, List.cons_subset.2
          ⟨OrderedMap.contains_iff_mem_keys.1 tagged, List.nil_subset _⟩⟩
      have least := List.Nodup.length_le_of_subset (by decide) both
      have most : selector.keys.length ≤ ["id", "tag_name"].length :=
        List.Nodup.length_le_of_subset selector.distinct fun name member => by
          simpa using asks.2 name member
      exact Nat.le_antisymm most least
  | false =>
      have least := List.length_pos_of_mem identified
      have most : selector.keys.length ≤ ["id"].length :=
        List.Nodup.length_le_of_subset selector.distinct fun name member => by
          rcases asks.2 name member with rfl | rfl
          · exact List.mem_singleton_self _
          · rw [OrderedMap.contains_iff_mem_keys.2 member] at tagged
            cases tagged
      exact Nat.le_antisymm most least

/-- An identifier is looked for first exactly where nothing but a tag stands beside it. -/
theorem identifier?_eq_some_iff :
    selector.identifier? = some id ↔ selector.AsksForIdentifier id := by
  constructor
  · intro asked
    refine ⟨(identifier?_eq_some asked).1, fun name member => ?_⟩
    apply Classical.byContradiction
    intro other
    obtain ⟨unidentified, untagged⟩ := not_or.1 other
    rw [identifier?_of_present member untagged unidentified] at asked
    cases asked
  · intro asks
    rw [identifier?, asks.1, Option.filter_eq_some_iff]
    exact ⟨rfl, beq_iff_eq.2 asks.size_eq⟩

end Selector

theorem Criteria.givenQuery?_of_absent {criteria : Criteria}
    (pathless : criteria.get? .xpath = none) (cssless : criteria.get? .css = none) :
    criteria.givenQuery? = .ok none := by
  rw [givenQuery?, pathless, cssless]
  rfl

/-! ## Checks -/

namespace Finder

variable {σ η : Type} (finder : Finder σ η) {selector : Selector} {criteria : Criteria}
  {fault : Fault}

/-- How criteria are searched for, or why they are refused. -/
def choosePlan (criteria : Criteria) : Except Fault Plan := do
  finder.refuseLinks criteria
  criteria.withoutIndex.plan finder.kind finder.preferCss

/-- Why a selector is refused, if it is. No plan is needed for a lone criterion, which goes to the
page as it is. -/
def check (selector : Selector) : Except Fault Unit := do
  let criteria ← selector.normalize finder.kind
  match selector.lone? with
  | some _ => return ()
  | none =>
      let _ ← finder.choosePlan criteria
      return ()

/-- Why a selector is refused where all matches are asked for, if it is. -/
def checkAll (selector : Selector) : Except Fault Unit := do
  let criteria ← selector.normalize finder.kind
  if criteria.contains .index then throw .indexForAll
  else finder.check selector

theorem choosePlan_eq_ok_iff {plan : Plan} :
    finder.choosePlan criteria = .ok plan ↔ finder.refuseLinks criteria = .ok () ∧
      criteria.withoutIndex.plan finder.kind finder.preferCss = .ok plan := by
  unfold choosePlan
  cases finder.refuseLinks criteria with
  | error fault =>
      constructor
      · intro chosen
        cases chosen
      · rintro ⟨linkless, _⟩
        cases linkless
  | ok _ => exact ⟨fun planned => ⟨rfl, planned⟩, And.right⟩

/-- There is a plan for an identifier beside which there is at most a tag. -/
theorem exists_choosePlan_of_identifier?
    (normalized : selector.normalize finder.kind = .ok criteria) {id : String}
    (asked : selector.identifier? = some id) : ∃ plan, finder.choosePlan criteria = .ok plan := by
  have only := (Selector.identifier?_eq_some_iff.1 asked).2
  have unasked {key : Key} (single : key.name ∉ aliasedNames)
      (other : ¬ (key.name = "id" ∨ key.name = "tag_name")) : criteria.get? key = none := by
    rw [Option.eq_none_iff_forall_ne_some]
    intro value present
    exact other (only _ (Selector.mem_keys_of_normalize normalized single present))
  have linkless : finder.refuseLinks criteria = .ok () := by
    apply finder.refuseLinks_of_linkless normalized
    rintro ⟨name, link, present⟩
    have free : ∀ name ∈ linkNames, ¬ (name = "id" ∨ name = "tag_name") := by decide
    exact free name link (only name (OrderedMap.contains_iff_mem_keys.1 present))
  have settled : criteria.withoutIndex.givenQuery? = .ok none := by
    apply Criteria.givenQuery?_of_absent
    · rw [Criteria.get?_withoutIndex (by decide)]
      exact unasked (by decide) (by decide)
    · rw [Criteria.get?_withoutIndex (by decide)]
      exact unasked (by decide) (by decide)
  obtain ⟨plan, planned⟩ := Criteria.exists_plan_of_given finder.kind finder.preferCss settled
    (Criteria.contains_index_withoutIndex criteria)
  exact ⟨plan, finder.choosePlan_eq_ok_iff.2 ⟨linkless, planned⟩⟩

/-! ## Refusals -/

theorem isRefusal_of_choosePlan (failed : finder.choosePlan criteria = .error fault) :
    fault.isRefusal = true := by
  unfold choosePlan at failed
  cases linkless : finder.refuseLinks criteria with
  | error other =>
      rw [linkless] at failed
      obtain rfl : other = fault := Except.error.inj failed
      exact isRefusal_of_refuseLinks linkless
  | ok _ =>
      rw [linkless] at failed
      exact isRefusal_of_plan (Criteria.contains_index_withoutIndex criteria) failed

/-- A selector is refused because it cannot be normalized, or because it needs a plan and there is
none for its criteria. -/
theorem check_eq_error_iff :
    finder.check selector = .error fault ↔ selector.normalize finder.kind = .error fault ∨
      ∃ criteria, selector.normalize finder.kind = .ok criteria ∧ selector.lone? = none ∧
        finder.choosePlan criteria = .error fault := by
  unfold check
  cases selector.normalize finder.kind with
  | error other => simp [bind, Except.bind]
  | ok criteria =>
      cases selector.lone? with
      | some criterion => simp [bind, Except.bind, pure, Except.pure]
      | none =>
          cases chosen : finder.choosePlan criteria with
          | error other => simp [bind, Except.bind, chosen]
          | ok plan => simp [bind, Except.bind, pure, Except.pure, chosen]

/-- A selector that is not refused can be normalized, and if it needs a plan there is one for its
criteria. -/
theorem check_eq_ok_iff :
    finder.check selector = .ok () ↔ ∃ criteria, selector.normalize finder.kind = .ok criteria ∧
      (selector.lone? = none → ∃ plan, finder.choosePlan criteria = .ok plan) := by
  unfold check
  cases selector.normalize finder.kind with
  | error other => simp [bind, Except.bind]
  | ok criteria =>
      cases selector.lone? with
      | some criterion => simp [bind, Except.bind, pure, Except.pure]
      | none =>
          cases chosen : finder.choosePlan criteria with
          | error other => simp [bind, Except.bind, chosen]
          | ok plan => simp [bind, Except.bind, pure, Except.pure, chosen]

theorem isRefusal_of_check (refused : finder.check selector = .error fault) :
    fault.isRefusal = true := by
  rcases finder.check_eq_error_iff.1 refused with invalid | ⟨criteria, _, _, failed⟩
  · exact isRefusal_of_fileAll invalid
  · exact finder.isRefusal_of_choosePlan failed

end Finder

namespace Work

variable {σ α β : Type} {fault : Fault}

theorem ofExcept_ok_bind (value : α) (next : α → Work σ β) :
    Work.ofExcept (.ok value) >>= next = next value := rfl

theorem throw_bind (next : α → Work σ β) : (throw fault : Work σ α) >>= next = throw fault := rfl

theorem absent_throw (present : fault.isAbsence = false) :
    Work.absent (throw fault : Work σ (Option α)) = throw fault := by
  show (ExceptT.mk do
    if fault.isAbsence then pure (.ok none) else pure (.error fault) : Work σ (Option α)) = _
  rw [present]
  rfl

end Work

namespace Finder

variable {σ η : Type} (finder : Finder σ η) {selector : Selector} {criteria : Criteria}
  {fault : Fault}

theorem isAbsence_of_isRefusal (refusal : fault.isRefusal = true) : fault.isAbsence = false := by
  cases fault with
  | noSuchElement lookup => cases refusal
  | staleElement detail => cases refusal
  | _ => rfl

theorem firstPlanned_of_choosePlan_error (failed : finder.choosePlan criteria = .error fault) :
    finder.firstPlanned criteria = throw fault := by
  unfold choosePlan at failed
  unfold firstPlanned
  cases linkless : finder.refuseLinks criteria with
  | error other =>
      rw [linkless] at failed
      rw [← Except.error.inj failed]
      rfl
  | ok _ =>
      rw [linkless] at failed
      have planned : criteria.withoutIndex.plan finder.kind finder.preferCss = .error fault :=
        failed
      rw [Work.ofExcept_ok_bind]
      dsimp only
      rw [planned]
      rfl

theorem allPlanned_of_choosePlan_error (unplaced : criteria.contains .index = false)
    (failed : finder.choosePlan criteria = .error fault) :
    finder.allPlanned criteria = throw fault := by
  have kept : criteria.withoutIndex = criteria := OrderedMap.erase_of_absent unplaced
  unfold choosePlan at failed
  unfold allPlanned
  cases linkless : finder.refuseLinks criteria with
  | error other =>
      rw [linkless] at failed
      rw [← Except.error.inj failed]
      rfl
  | ok _ =>
      rw [linkless, kept] at failed
      have planned : criteria.plan finder.kind finder.preferCss = .error fault := failed
      rw [Work.ofExcept_ok_bind, planned]
      rfl

/-- On every page, the search for one match fails as its check does, and does nothing else. -/
theorem find_of_check_error (refused : finder.check selector = .error fault) :
    finder.find selector = throw fault := by
  have present := isAbsence_of_isRefusal (finder.isRefusal_of_check refused)
  unfold find
  rcases finder.check_eq_error_iff.1 refused with invalid | ⟨criteria, normalized, several, failed⟩
  · rw [invalid]
    rfl
  · have unidentified : selector.identifier? = none := by
      rw [Option.eq_none_iff_forall_ne_some]
      intro id asked
      obtain ⟨plan, chosen⟩ := finder.exists_choosePlan_of_identifier? normalized asked
      rw [chosen] at failed
      cases failed
    rw [normalized, Work.ofExcept_ok_bind, locate, unidentified, several]
    dsimp only
    rw [finder.firstPlanned_of_choosePlan_error failed, Work.throw_bind, Work.absent_throw present]

/-- Without a position, both searches check alike. -/
theorem checkAll_of_absent (absent : selector.contains "index" = false) :
    finder.checkAll selector = finder.check selector := by
  unfold checkAll
  cases normalized : selector.normalize finder.kind with
  | error fault => exact (finder.check_eq_error_iff.2 (.inl normalized)).symm
  | ok criteria =>
      show (if criteria.contains .index then throw .indexForAll else finder.check selector) = _
      rw [Selector.contains_index_of_normalize absent normalized]
      rfl

/-- A position is refused where all matches are asked for. -/
theorem checkAll_of_present (normalized : selector.normalize finder.kind = .ok criteria)
    (present : selector.contains "index" = true) :
    finder.checkAll selector = .error .indexForAll := by
  have placed : criteria.contains .index = selector.contains Key.index.name :=
    Selector.contains_of_normalize normalized (by decide)
  rw [checkAll, normalized]
  show (if criteria.contains .index then throw .indexForAll else finder.check selector) = _
  rw [placed]
  exact if_pos present

theorem checkAll_eq_ok_iff :
    finder.checkAll selector = .ok () ↔
      selector.contains "index" = false ∧ finder.check selector = .ok () := by
  cases present : selector.contains "index" with
  | false =>
      rw [finder.checkAll_of_absent present]
      exact ⟨fun passed => ⟨rfl, passed⟩, And.right⟩
  | true =>
      refine ⟨fun passed => ?_, fun passed => absurd passed.1.symm Bool.false_ne_true⟩
      cases normalized : selector.normalize finder.kind with
      | error fault =>
          rw [checkAll, normalized] at passed
          cases passed
      | ok criteria =>
          rw [finder.checkAll_of_present normalized present] at passed
          cases passed

theorem isRefusal_of_checkAll (refused : finder.checkAll selector = .error fault) :
    fault.isRefusal = true := by
  unfold checkAll at refused
  cases normalized : selector.normalize finder.kind with
  | error invalid =>
      rw [normalized] at refused
      rw [← Except.error.inj refused]
      exact isRefusal_of_fileAll normalized
  | ok criteria =>
      rw [normalized] at refused
      change (if criteria.contains .index then throw .indexForAll else finder.check selector) =
        .error fault at refused
      split at refused
      · cases refused
        rfl
      · exact finder.isRefusal_of_check refused

/-- On every page, the search for all matches fails as its check does, and does nothing else. -/
theorem findAll_of_checkAll_error (refused : finder.checkAll selector = .error fault) :
    finder.findAll selector = throw fault := by
  unfold findAll
  cases normalized : selector.normalize finder.kind with
  | error other =>
      rw [checkAll, normalized] at refused
      rw [← Except.error.inj refused]
      rfl
  | ok criteria =>
      rw [Work.ofExcept_ok_bind]
      cases present : selector.contains "index" with
      | true =>
          have placed : criteria.contains .index = selector.contains Key.index.name :=
            Selector.contains_of_normalize normalized (by decide)
          rw [finder.checkAll_of_present normalized present] at refused
          rw [if_pos (placed.trans present), ← Except.error.inj refused]
      | false =>
          rw [finder.checkAll_of_absent present, finder.check_eq_error_iff] at refused
          rcases refused with invalid | ⟨own, same, several, failed⟩
          · rw [normalized] at invalid
            cases invalid
          · obtain rfl : criteria = own := Except.ok.inj (normalized.symm.trans same)
            have unplaced := Selector.contains_index_of_normalize present normalized
            rw [unplaced, if_neg Bool.false_ne_true, several]
            exact finder.allPlanned_of_choosePlan_error unplaced failed

end Finder

end ElementSearch
