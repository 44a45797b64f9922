/-
# What normalizing refuses and what it files

Every criterion is judged by itself, by the sort of its value and by its name, and the first
that is refused says why the selector is. A selector with nothing to refuse is filed: its
criteria are inserted in their order under the keys of their names, so that of two names for
one key the earlier gives the place and the later the value. What comes of it names its keys
as no alias does, and read as a selector again it is filed as it is.
-/

import ElementSearch.Proofs.Selector.Normalize

namespace ElementSearch

/-! ## One criterion -/

/-- The sort of value that a key takes, as faults name it. -/
def Key.sort : Key → String
  | .index => "integer"
  | .xpath | .css => "string"
  | _ => "string, pattern or list"

/-- The value is not of the sort that the key takes: a position is taken by the index and by no
other key, and a query takes only a single text. -/
def Key.IsMisfit (key : Key) (value : Value) : Prop :=
  match key with
  | .index => ∀ position, value ≠ .index position
  | .xpath | .css => ∀ text, value ≠ .literal text
  | _ => ∃ position, value = .index position

/-- The name is no attribute that the kind accepts, nothing that a page looks elements up by, and
not reserved for a key of its own. -/
structure ElementKind.IsUnknown (kind : ElementKind) (name : String) : Prop where
  notReserved : name ∉ reservedNames
  notAccepted : kind.accepts name = false
  notLookedUp : Strategy.forName? name = none

theorem Key.expected?_eq_some_iff {key : Key} {value : Value} {expected : String} :
    key.expected? value = some expected ↔ key.IsMisfit value ∧ key.sort = expected := by
  cases key <;> cases value <;> simp [expected?, IsMisfit, sort]

theorem Key.expected?_eq_none_iff {key : Key} {value : Value} :
    key.expected? value = none ↔ ¬ key.IsMisfit value := by
  rw [Option.eq_none_iff_forall_ne_some]
  simp [expected?_eq_some_iff]

section Check

variable {kind : ElementKind} {key : Key} {value : Value}

theorem checkCriterion_of_misfit (misfit : key.IsMisfit value) :
    checkCriterion kind key value = .error (.invalidValue key.name key.sort) := by
  unfold checkCriterion
  rw [Key.expected?_eq_some_iff.2 ⟨misfit, rfl⟩]

theorem checkCriterion_of_unknown (fits : ¬ key.IsMisfit value)
    (unknown : kind.IsUnknown key.name) :
    checkCriterion kind key value = .error (.unsupportedAttribute key.name kind.tag) := by
  unfold checkCriterion
  rw [Key.expected?_eq_none_iff.2 fits]
  cases key with
  | attr name free =>
      have accepted : kind.accepts name = false := unknown.notAccepted
      have lookedUp : Strategy.forName? name = none := unknown.notLookedUp
      simp only [accepted, lookedUp]
      rfl
  | _ => exact absurd (by decide) unknown.notReserved

theorem checkCriterion_of_known (fits : ¬ key.IsMisfit value)
    (known : ¬ kind.IsUnknown key.name) : checkCriterion kind key value = .ok () := by
  unfold checkCriterion
  rw [Key.expected?_eq_none_iff.2 fits]
  cases key with
  | attr name free =>
      refine if_pos (Decidable.byContradiction fun refused => known ?_)
      simp only [Bool.or_eq_true, not_or, Bool.not_eq_true, Option.isSome_eq_false_iff,
        Option.isNone_iff_eq_none] at refused
      exact ⟨by simpa [Key.name] using free, refused.1, refused.2⟩
  | _ => rfl

end Check

theorem canonicalName_ne (name : String) :
    canonicalName name ≠ "class_name" ∧ canonicalName name ≠ "caption" := by
  unfold canonicalName
  split
  · decide
  · decide
  · next other another => exact ⟨other, another⟩

/-- What an alias stands for is no alias. -/
theorem canonicalName_canonicalName (name : String) :
    canonicalName (canonicalName name) = canonicalName name := by
  obtain ⟨notClass, notText⟩ := canonicalName_ne name
  generalize canonicalName name = canonical at *
  unfold canonicalName
  split
  · exact absurd rfl notClass
  · exact absurd rfl notText
  · rfl

namespace Selector

/-- A criterion that is refused: its value is of the wrong sort, or nobody knows its name. -/
def IsBad (kind : ElementKind) (entry : String × Value) : Prop :=
  (filed entry).1.IsMisfit entry.2 ∨ kind.IsUnknown (canonicalName entry.1)

/-- The fault by which a criterion is refused. The sort of its value counts before its name. -/
inductive Refuses (kind : ElementKind) (entry : String × Value) : Fault → Prop
  | misfit (misfit : (filed entry).1.IsMisfit entry.2) :
      Refuses kind entry (.invalidValue (canonicalName entry.1) (filed entry).1.sort)
  | unknown (fits : ¬ (filed entry).1.IsMisfit entry.2)
      (unknown : kind.IsUnknown (canonicalName entry.1)) :
      Refuses kind entry (.unsupportedAttribute (canonicalName entry.1) kind.tag)

section Entry

variable {kind : ElementKind} {entry : String × Value}

theorem name_filed (entry : String × Value) : (filed entry).1.name = canonicalName entry.1 :=
  Key.name_ofName _

/-- A criterion is filed again by the name of its key as it is. -/
theorem filed_name_filed (entry : String × Value) :
    filed ((filed entry).1.name, (filed entry).2) = filed entry := by
  rw [name_filed]
  exact congrArg (fun name => (Key.ofName name, entry.2)) (canonicalName_canonicalName entry.1)

theorem isBad_name_filed :
    IsBad kind ((filed entry).1.name, (filed entry).2) ↔ IsBad kind entry := by
  rw [IsBad, filed_name_filed, name_filed, canonicalName_canonicalName]
  rfl

theorem isBad_of_refuses {fault : Fault} (refused : Refuses kind entry fault) :
    IsBad kind entry := by
  cases refused with
  | misfit misfit => exact .inl misfit
  | unknown fits unknown => exact .inr unknown

theorem exists_refuses_of_isBad (bad : IsBad kind entry) : ∃ fault, Refuses kind entry fault := by
  by_cases misfit : (filed entry).1.IsMisfit entry.2
  · exact ⟨_, .misfit misfit⟩
  · exact ⟨_, .unknown misfit (bad.resolve_left misfit)⟩

/-- A criterion fails its check by the fault that refuses it. -/
theorem checkCriterion_eq_error_iff {fault : Fault} :
    checkCriterion kind (filed entry).1 entry.2 = .error fault ↔ Refuses kind entry fault := by
  constructor
  · intro failed
    by_cases misfit : (filed entry).1.IsMisfit entry.2
    · rw [checkCriterion_of_misfit misfit, name_filed] at failed
      exact Except.error.inj failed ▸ .misfit misfit
    · by_cases unknown : kind.IsUnknown (filed entry).1.name
      · rw [checkCriterion_of_unknown misfit unknown, name_filed] at failed
        rw [name_filed] at unknown
        exact Except.error.inj failed ▸ .unknown misfit unknown
      · rw [checkCriterion_of_known misfit unknown] at failed
        cases failed
  · rintro (misfit | ⟨fits, unknown⟩)
    · rw [checkCriterion_of_misfit misfit, name_filed]
    · rw [← name_filed] at unknown
      rw [checkCriterion_of_unknown fits unknown, name_filed]

theorem checkCriterion_eq_ok_iff :
    checkCriterion kind (filed entry).1 entry.2 = .ok () ↔ ¬ IsBad kind entry := by
  constructor
  · intro checked bad
    obtain ⟨fault, refused⟩ := exists_refuses_of_isBad bad
    rw [checkCriterion_eq_error_iff.2 refused] at checked
    cases checked
  · intro good
    rw [IsBad, not_or, ← name_filed] at good
    exact checkCriterion_of_known good.1 good.2

end Entry

/-! ## All criteria -/

section All

variable {kind : ElementKind}

/-- The first bad criterion is the one that is refused. -/
theorem fileAll_eq_error_iff {done : Criteria} {entries : List (String × Value)} {fault : Fault} :
    fileAll kind done entries = .error fault ↔
      ∃ before entry after, entries = before ++ entry :: after ∧
        (∀ earlier ∈ before, ¬ IsBad kind earlier) ∧ Refuses kind entry fault := by
  induction entries generalizing done with
  | nil => simp [fileAll]
  | cons first rest ih =>
      cases checked : checkCriterion kind (filed first).1 first.2 with
      | error other =>
          have refused := checkCriterion_eq_error_iff.1 checked
          rw [fileAll_cons_of_error checked]
          constructor
          · intro same
            exact ⟨[], first, rest, rfl, List.forall_mem_nil _, Except.error.inj same ▸ refused⟩
          · rintro ⟨before, entry, after, split, good, refusedToo⟩
            cases before with
            | nil =>
                obtain rfl := (List.cons.inj split).1
                have same := checked.symm.trans (checkCriterion_eq_error_iff.2 refusedToo)
                rw [Except.error.inj same]
            | cons earlier before =>
                obtain rfl := (List.cons.inj split).1
                exact absurd (isBad_of_refuses refused) (good _ List.mem_cons_self)
      | ok _ =>
          have good := checkCriterion_eq_ok_iff.1 checked
          rw [fileAll_cons_of_ok checked, ih]
          constructor
          · rintro ⟨before, entry, after, rfl, others, refused⟩
            exact ⟨first :: before, entry, after, rfl, List.forall_mem_cons.2 ⟨good, others⟩,
              refused⟩
          · rintro ⟨before, entry, after, split, others, refused⟩
            cases before with
            | nil =>
                obtain rfl := (List.cons.inj split).1
                exact absurd (isBad_of_refuses refused) good
            | cons earlier before =>
                exact ⟨before, entry, after, (List.cons.inj split).2,
                  (List.forall_mem_cons.1 others).2, refused⟩

variable {selector : Selector} {criteria : Criteria}

theorem normalize_eq_ok_iff :
    selector.normalize kind = .ok criteria ↔
      (∀ entry ∈ selector.entries, ¬ IsBad kind entry) ∧
        criteria = .ofList (selector.entries.map filed) := by
  simp only [normalize, fileAll_eq_ok_iff, checkCriterion_eq_ok_iff]
  exact and_congr_right' eq_comm

/-- Normalizing fails exactly if some criterion is bad. -/
theorem exists_normalize_eq_error_iff :
    (∃ fault, selector.normalize kind = .error fault) ↔
      ∃ entry ∈ selector.entries, IsBad kind entry := by
  constructor
  · rintro ⟨fault, failed⟩
    obtain ⟨before, entry, after, split, -, refused⟩ := fileAll_eq_error_iff.1 failed
    rw [split]
    exact ⟨entry, by simp, isBad_of_refuses refused⟩
  · rintro ⟨entry, member, bad⟩
    cases result : selector.normalize kind with
    | error fault => exact ⟨fault, rfl⟩
    | ok criteria => exact absurd bad ((normalize_eq_ok_iff.1 result).1 entry member)

end All

end Selector

/-! ## What is filed -/

namespace Criteria

/-- The criteria as a selector that has them under the names of their keys. -/
def named (criteria : Criteria) : Selector where
  entries := criteria.entries.map fun entry => (entry.1.name, entry.2)
  distinct := by
    have names : (criteria.entries.map fun entry => (entry.1.name, entry.2)).map Prod.fst =
        (criteria.entries.map Prod.fst).map Key.name := by
      rw [List.map_map, List.map_map]
      rfl
    rw [names]
    exact List.pairwise_map.2 (criteria.distinct.imp fun apart same =>
      apart (Key.name_injective same))

/-- What every later stage relies on: no key has the name of an alias, a query is a single text,
and a position is asked for under the index and only there. -/
structure IsNormal (criteria : Criteria) : Prop where
  canonical : ∀ key ∈ criteria.keys, key.name ≠ "class_name" ∧ key.name ≠ "caption"
  queries : ∀ key value, key = .xpath ∨ key = .css → criteria.get? key = some value →
    ∃ text, value = .literal text
  positions : ∀ key value, criteria.get? key = some value →
    (key = .index ↔ ∃ position, value = .index position)

/-- Every criterion was filed for an entry that is not bad. -/
def IsFiled (kind : ElementKind) (criteria : Criteria) : Prop :=
  ∀ entry ∈ criteria.entries, ∃ asked, Selector.filed asked = entry ∧ ¬ Selector.IsBad kind asked

variable {kind : ElementKind} {criteria : Criteria}

theorem isFiled_of_normalize {selector : Selector}
    (normalized : selector.normalize kind = .ok criteria) : criteria.IsFiled kind := by
  obtain ⟨good, rfl⟩ := Selector.normalize_eq_ok_iff.1 normalized
  intro entry member
  obtain ⟨asked, listed, same⟩ := List.mem_map.1 (OrderedMap.mem_of_mem_entries_ofList member)
  exact ⟨asked, same, good asked listed⟩

namespace IsFiled

variable (filed : criteria.IsFiled kind)

include filed

theorem fits {key : Key} {value : Value} (asked : criteria.get? key = some value) :
    ¬ key.IsMisfit value := by
  obtain ⟨entry, same, good⟩ := filed (key, value) (OrderedMap.get?_eq_some_iff.1 asked)
  obtain ⟨rfl, rfl⟩ := Prod.mk.inj same
  exact fun misfit => good (.inl misfit)

theorem isNormal : criteria.IsNormal where
  canonical := by
    intro key member
    obtain ⟨entry, listed, rfl⟩ := List.mem_map.1 member
    obtain ⟨asked, rfl, -⟩ := filed entry listed
    rw [Selector.name_filed]
    exact canonicalName_ne asked.1
  queries := by
    intro key value query asked
    have fits := filed.fits asked
    rcases query with rfl | rfl <;> simpa [Key.IsMisfit] using fits
  positions := by
    intro key value asked
    have fits := filed.fits asked
    constructor
    · rintro rfl
      simpa [Key.IsMisfit] using fits
    · rintro ⟨position, rfl⟩
      -- Under every other key a position is a misfit.
      cases key with
      | index => rfl
      | _ => simp [Key.IsMisfit] at fits

/-- Criteria that were filed are filed again as they are. -/
theorem normalize_named : criteria.named.normalize kind = .ok criteria := by
  rw [Selector.normalize_eq_ok_iff]
  constructor
  · intro entry member
    obtain ⟨_, listed, rfl⟩ := List.mem_map.1 member
    obtain ⟨asked, rfl, good⟩ := filed _ listed
    rwa [Selector.isBad_name_filed]
  · have same : criteria.named.entries.map Selector.filed = criteria.entries := by
      rw [named, List.map_map]
      refine (List.map_congr_left fun entry listed => ?_).trans (List.map_id _)
      obtain ⟨asked, rfl, -⟩ := filed entry listed
      exact Selector.filed_name_filed asked
    rw [same, OrderedMap.ofList_entries]

end IsFiled

end Criteria

/-- Normalizing fails exactly if some criterion is bad, and the first that is bad says by which
fault, the sort of its value before its name. Otherwise it inserts the criteria in their order
under the keys of their names. Then no key has the name of an alias, queries are single texts, only
the index has a position, and the criteria, read as a selector again, come out as they are. -/
theorem Selector.normalize_eq_iff (kind : ElementKind) (selector : Selector) :
    ((∃ fault, selector.normalize kind = .error fault) ↔
      ∃ entry ∈ selector.entries, IsBad kind entry) ∧
    (∀ fault, selector.normalize kind = .error fault ↔
      ∃ before entry after, selector.entries = before ++ entry :: after ∧
        (∀ earlier ∈ before, ¬ IsBad kind earlier) ∧ Refuses kind entry fault) ∧
    (∀ criteria, selector.normalize kind = .ok criteria ↔
      (∀ entry ∈ selector.entries, ¬ IsBad kind entry) ∧
        criteria = .ofList (selector.entries.map filed)) ∧
    ∀ criteria, selector.normalize kind = .ok criteria →
      criteria.IsNormal ∧ criteria.named.normalize kind = .ok criteria := by
  refine ⟨exists_normalize_eq_error_iff, fun fault => fileAll_eq_error_iff,
    fun criteria => normalize_eq_ok_iff, fun criteria normalized => ?_⟩
  have filed := Criteria.isFiled_of_normalize normalized
  exact ⟨filed.isNormal, filed.normalize_named⟩

/-- Two names for the class, the later of which gives the value at the place of the earlier, and a
selector with three bad criteria, of which the first is both misfit and unknown. -/
theorem Selector.normalize_eq_iff_twice :
    ∃ (selector bad : Selector) (criteria : Criteria),
      selector.entries = [("class_name", .literal "a"), ("caption", .literal "Save"),
        ("class", .literal "b"), ("index", .index (-1))] ∧
      criteria.entries = [(.className, .literal "b"), (.text, .literal "Save"),
        (.index, .index (-1))] ∧
      selector.normalize (.ofTag "div" []) = .ok criteria ∧ criteria.IsNormal ∧
      criteria.named.normalize (.ofTag "div" []) = .ok criteria ∧
      bad.entries = [("id", .literal "x"), ("href", .index 3), ("xpath", .oneOf []),
        ("for", .literal "x")] ∧
      bad.normalize (.ofTag "div" []) =
        .error (.invalidValue "href" "string, pattern or list") := by
  let selector : Selector := ⟨[("class_name", .literal "a"), ("caption", .literal "Save"),
    ("class", .literal "b"), ("index", .index (-1))], by decide⟩
  let bad : Selector := ⟨[("id", .literal "x"), ("href", .index 3), ("xpath", .oneOf []),
    ("for", .literal "x")], by decide⟩
  let criteria : Criteria := ⟨[(.className, .literal "b"), (.text, .literal "Save"),
    (.index, .index (-1))], by decide⟩
  have normalized : selector.normalize (.ofTag "div" []) = .ok criteria := rfl
  obtain ⟨-, -, -, kept⟩ := normalize_eq_iff (.ofTag "div" []) selector
  obtain ⟨normal, again⟩ := kept criteria normalized
  obtain ⟨-, refused, -, -⟩ := normalize_eq_iff (.ofTag "div" []) bad
  refine ⟨selector, bad, criteria, rfl, rfl, normalized, normal, again, rfl, ?_⟩
  refine (refused _).2 ⟨[("id", .literal "x")], ("href", .index 3), [("xpath", .oneOf []),
    ("for", .literal "x")], rfl, ?_, .misfit ⟨3, rfl⟩⟩
  intro earlier member
  obtain rfl := List.mem_singleton.1 member
  rintro (⟨position, same⟩ | unknown)
  · cases same
  · exact absurd unknown.notAccepted (by decide)

end ElementSearch
