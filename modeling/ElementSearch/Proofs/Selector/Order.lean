/-
# What the order of criteria decides

Selectors with the same criteria are equal, whatever the order. Normalizing fails on both or on
neither, and files the same value under every key that has one name. A class and a text have two
names each, though, and of two criteria for one key the later overrules the earlier. So equal
selectors come to equal criteria exactly if their orders rank these names alike, wherever the
names ask for different things.
-/

import Mathlib.Data.List.Nodup
import Mathlib.Data.List.Perm.Subperm
import ElementSearch.Proofs.Search.Aliases
import ElementSearch.Proofs.Selector.Filing

namespace ElementSearch

namespace OrderedMap

variable {κ ν : Type} [DecidableEq κ] [DecidableEq ν] {first second : OrderedMap κ ν}

omit [DecidableEq κ] [DecidableEq ν] in
theorem nodup_entries (map : OrderedMap κ ν) : map.entries.Nodup := List.Nodup.of_map _ map.distinct

omit [DecidableEq ν] in
theorem get?_eq_none_iff {map : OrderedMap κ ν} {key : κ} :
    map.get? key = none ↔ key ∉ map.keys := by
  rw [← contains_iff_mem_keys, contains_eq_isSome_get?, Option.not_isSome_iff_eq_none]

/-- Maps are the same if they have the same entries in some order. -/
theorem sameAs_iff_perm : first.sameAs second = true ↔ first.entries.Perm second.entries := by
  rw [sameAs, Bool.and_eq_true, decide_eq_true_eq, List.all_eq_true]
  simp only [decide_eq_true_eq, get?_eq_some_iff]
  constructor
  · rintro ⟨size, listed⟩
    have within : first.entries.Subperm second.entries :=
      List.subperm_of_subset first.nodup_entries listed
    exact within.perm_of_length_le (Nat.le_of_eq size.symm)
  · intro perm
    exact ⟨perm.length_eq, fun entry member => perm.mem_iff.1 member⟩

/-- Maps are the same if they give every key the same value. -/
theorem sameAs_iff_get? : first.sameAs second = true ↔ ∀ key, first.get? key = second.get? key := by
  rw [sameAs_iff_perm, List.perm_ext_iff_of_nodup first.nodup_entries second.nodup_entries]
  constructor
  · intro same key
    ext value
    rw [get?_eq_some_iff, get?_eq_some_iff, same]
  · rintro same ⟨key, value⟩
    rw [← get?_eq_some_iff, same, get?_eq_some_iff]

omit [DecidableEq κ] [DecidableEq ν] in
/-- The same entries the other way round. -/
def reverse (map : OrderedMap κ ν) : OrderedMap κ ν where
  entries := map.entries.reverse
  distinct := by
    rw [List.map_reverse]
    exact List.nodup_reverse.2 map.distinct

omit [DecidableEq κ] [DecidableEq ν] in
theorem keys_reverse (map : OrderedMap κ ν) : map.reverse.keys = map.keys.reverse :=
  List.map_reverse

theorem sameAs_reverse (map : OrderedMap κ ν) : map.sameAs map.reverse = true :=
  sameAs_iff_perm.2 (List.reverse_perm _).symm

end OrderedMap

namespace Selector

/-! ## The later of two names -/

/-- A name stands behind another one. -/
def Overrules (selector : Selector) (name other : String) : Prop :=
  [other, name].Sublist selector.keys

instance (selector : Selector) (name other : String) : Decidable (selector.Overrules name other) :=
  inferInstanceAs (Decidable (List.Sublist _ _))

section Overrules

variable {selector : Selector} {name other : String}

theorem overrules_iff : selector.Overrules name other ↔
    ∃ before after, selector.keys = before ++ after ∧ other ∈ before ∧ name ∈ after := by
  rw [Overrules, List.cons_sublist_iff]
  simp only [List.singleton_sublist]

theorem mem_keys_of_overrules (overrules : selector.Overrules name other) :
    name ∈ selector.keys ∧ other ∈ selector.keys :=
  ⟨overrules.subset (by simp), overrules.subset (by simp)⟩

theorem not_overrules_of_overrules (overrules : selector.Overrules name other) :
    ¬ selector.Overrules other name := by
  intro turned
  obtain ⟨before, after, split, early, late⟩ := overrules_iff.1 overrules
  have distinct : selector.keys.Nodup := selector.distinct
  rw [split, List.nodup_append] at distinct
  rw [Overrules, split, List.sublist_append_iff] at turned
  obtain ⟨front, back, pair, inBefore, inAfter⟩ := turned
  cases front with
  | nil =>
      obtain rfl : [name, other] = back := pair
      exact distinct.2.2 other early other (inAfter.subset (by simp)) rfl
  | cons head rest =>
      obtain rfl := (List.cons.inj pair).1
      exact distinct.2.2 name (inBefore.subset List.mem_cons_self) name late rfl

theorem overrules_or (present : name ∈ selector.keys) (presentToo : other ∈ selector.keys)
    (apart : name ≠ other) : selector.Overrules name other ∨ selector.Overrules other name := by
  obtain ⟨before, after, split⟩ := List.append_of_mem present
  rw [split, List.mem_append, List.mem_cons] at presentToo
  rw [overrules_iff, overrules_iff, split]
  rcases presentToo with early | same | late
  · exact .inl ⟨before, name :: after, rfl, early, List.mem_cons_self⟩
  · exact absurd same.symm apart
  · exact .inr ⟨before ++ [name], after, List.append_cons .., by simp, late⟩

theorem overrules_reverse :
    Selector.Overrules selector.reverse name other ↔ selector.Overrules other name := by
  rw [Overrules, OrderedMap.keys_reverse, ← List.reverse_sublist, List.reverse_reverse]
  rfl

end Overrules

/-! ## What is filed under a key with two names -/

section Filed

variable {kind : ElementKind} {selector : Selector} {criteria : Criteria}
  (normalized : selector.normalize kind = .ok criteria)

include normalized

/-- The last criterion for a key is the one that is filed. -/
theorem get?_filed_of_last {before after : List (String × Value)} {entry : String × Value}
    (split : selector.entries = before ++ entry :: after)
    (last : ∀ later ∈ after, (filed later).1 ≠ (filed entry).1) :
    criteria.get? (filed entry).1 = some entry.2 := by
  obtain ⟨-, rfl⟩ := normalize_eq_ok_iff.1 normalized
  have none : (after.map filed).reverse.find? (·.1 = (filed entry).1) = none := by
    rw [List.find?_eq_none]
    intro pair member
    obtain ⟨later, listed, rfl⟩ := List.mem_map.1 (List.mem_reverse.1 member)
    rw [decide_eq_true_eq]
    exact last later listed
  rw [OrderedMap.get?_ofList, split, List.map_append, List.reverse_append, List.map_cons,
    List.reverse_cons, List.find?_append, List.find?_append, none]
  simp [filed]

variable {key : Key} {name other : String}
  (named : ∀ asked, Key.ofName (canonicalName asked) = key ↔ asked = name ∨ asked = other)

include named

/-- A criterion is filed unless the other one for its key stands behind it. -/
theorem get?_of_not_overrules {value : Value} (asked : selector.get? name = some value)
    (notOverruled : ¬ selector.Overrules other name) : criteria.get? key = some value := by
  obtain ⟨before, after, split⟩ := List.append_of_mem (OrderedMap.get?_eq_some_iff.1 asked)
  have own : (filed (name, value)).1 = key := (named name).2 (.inl rfl)
  have keys : selector.keys = (before.map Prod.fst ++ [name]) ++ after.map Prod.fst := by
    rw [OrderedMap.keys, split]
    simp
  rw [← own]
  refine get?_filed_of_last normalized split fun later member same => ?_
  have listed : later.1 ∈ after.map Prod.fst := List.mem_map_of_mem member
  rcases (named later.1).1 (same.trans own) with again | overruling
  · have distinct : selector.keys.Nodup := selector.distinct
    rw [keys, List.nodup_append] at distinct
    exact distinct.2.2 name (by simp) later.1 listed again.symm
  · exact notOverruled (overrules_iff.2 ⟨_, _, keys, by simp, overruling ▸ listed⟩)

omit named in
theorem get?_eq_none_of_absent (absent : ∀ asked ∈ selector.keys,
    Key.ofName (canonicalName asked) ≠ key) : criteria.get? key = none := by
  rw [← Option.not_isSome_iff_eq_none, ← OrderedMap.contains_eq_isSome_get?,
    contains_iff_of_fileAll normalized]
  rintro (present | ⟨entry, member, same⟩)
  · cases present
  · exact absent entry.1 (List.mem_map_of_mem member) same

/-- Of two criteria for a key the later one is filed. -/
theorem get?_of_normalize_pair :
    criteria.get? key = if selector.Overrules name other then selector.get? name
      else (selector.get? other).or (selector.get? name) := by
  have turned (asked : String) :
      Key.ofName (canonicalName asked) = key ↔ asked = other ∨ asked = name :=
    (named asked).trans or_comm
  by_cases overrules : selector.Overrules name other
  · rw [if_pos overrules]
    cases asked : selector.get? name with
    | some value =>
        exact get?_of_not_overrules normalized named asked (not_overrules_of_overrules overrules)
    | none =>
        exact absurd (mem_keys_of_overrules overrules).1 (OrderedMap.get?_eq_none_iff.1 asked)
  · rw [if_neg overrules]
    cases asked : selector.get? other with
    | some value => exact get?_of_not_overrules normalized turned asked overrules
    | none =>
        have absent := OrderedMap.get?_eq_none_iff.1 asked
        cases askedToo : selector.get? name with
        | some value =>
            exact get?_of_not_overrules normalized named askedToo
              fun overruled => absent (mem_keys_of_overrules overruled).1
        | none =>
            have absentToo := OrderedMap.get?_eq_none_iff.1 askedToo
            refine get?_eq_none_of_absent normalized fun asked member same => ?_
            rcases (named asked).1 same with rfl | rfl
            · exact absentToo member
            · exact absent member

end Filed

/-- Two names that a key goes by. -/
theorem ofName_canonicalName_eq_iff_of_mem_aliases {pair : String × String}
    (listed : pair ∈ aliases) (asked : String) :
    Key.ofName (canonicalName asked) = Key.ofName pair.2 ↔ asked = pair.1 ∨ asked = pair.2 := by
  have named : Key.ofName (canonicalName asked) = Key.ofName pair.2 ↔
      canonicalName asked = pair.2 := by
    constructor
    · intro same
      rw [← Key.name_ofName (canonicalName asked), same, Key.name_ofName]
    · intro same
      rw [same]
  rw [named]
  simp only [aliases, List.mem_cons, List.not_mem_nil, or_false] at listed
  rcases listed with rfl | rfl
  · unfold canonicalName
    split <;> simp_all
  · unfold canonicalName
    split <;> simp_all

theorem name_eq_of_unpaired {key : Key} (unpaired : ∀ pair ∈ aliases, key ≠ Key.ofName pair.2)
    (aliased : key.name ∈ aliasedNames) : key.name = "class_name" ∨ key.name = "caption" := by
  have own (name : String) (same : key.name = name) : key = Key.ofName name := by
    rw [← same, Key.ofName_name]
  simp only [aliasedNames, List.mem_cons, List.not_mem_nil, or_false] at aliased
  rcases aliased with same | same | same | same
  · exact absurd (own _ same) (unpaired ("class_name", "class") (by decide))
  · exact .inl same
  · exact absurd (own _ same) (unpaired ("caption", "text") (by decide))
  · exact .inr same

/-! ## Equal selectors -/

/-- Both selectors have an alias and what it stands for in the same order, wherever the two ask for
different things. -/
def RanksAlike (first second : Selector) : Prop :=
  ∀ pair ∈ aliases, first.get? pair.1 ≠ first.get? pair.2 →
    (first.Overrules pair.1 pair.2 ↔ second.Overrules pair.1 pair.2)

instance (first second : Selector) : Decidable (first.RanksAlike second) :=
  inferInstanceAs (Decidable (∀ pair ∈ aliases, _))

/-- An alias asks for the same as the name that it stands for, if both are there. -/
def IsUnequivocal (selector : Selector) : Prop :=
  ∀ pair ∈ aliases, ∀ one other, selector.get? pair.1 = some one →
    selector.get? pair.2 = some other → one = other

section Equal

variable {kind : ElementKind} {first second : Selector} (same : first.sameAs second = true)

include same

theorem exists_error_iff_of_sameAs : (∃ fault, first.normalize kind = .error fault) ↔
    ∃ fault, second.normalize kind = .error fault := by
  rw [exists_normalize_eq_error_iff, exists_normalize_eq_error_iff]
  exact exists_congr fun _ => and_congr_left' (OrderedMap.sameAs_iff_perm.1 same).mem_iff

variable {one other : Criteria} (normalized : first.normalize kind = .ok one)
  (normalizedToo : second.normalize kind = .ok other)

include normalized normalizedToo

/-- Under a key with two names the same is filed if the names are ranked alike, or ask for the
same. -/
theorem get?_eq_get?_iff {pair : String × String} (listed : pair ∈ aliases) :
    one.get? (Key.ofName pair.2) = other.get? (Key.ofName pair.2) ↔
      (first.get? pair.1 ≠ first.get? pair.2 →
        (first.Overrules pair.1 pair.2 ↔ second.Overrules pair.1 pair.2)) := by
  have asked := OrderedMap.sameAs_iff_get?.1 same
  have named := ofName_canonicalName_eq_iff_of_mem_aliases listed
  have present {selector : Selector} (overrules : selector.Overrules pair.1 pair.2) :
      ∃ value, selector.get? pair.2 = some value :=
    Option.ne_none_iff_exists'.1
      (mt OrderedMap.get?_eq_none_iff.1 (not_not_intro (mem_keys_of_overrules overrules).2))
  rw [get?_of_normalize_pair normalized named, get?_of_normalize_pair normalizedToo named,
    ← asked pair.1, ← asked pair.2]
  by_cases early : first.Overrules pair.1 pair.2 <;>
    by_cases late : second.Overrules pair.1 pair.2
  · simp [early, late]
  · obtain ⟨value, found⟩ := present early
    simp [early, late, found]
  · obtain ⟨value, found⟩ := present late
    rw [← asked pair.2] at found
    simp [early, late, found, eq_comm]
  · simp [early, late]

/-- Under every other key the same is filed, whatever the order. -/
theorem get?_eq_get?_of_unpaired {key : Key}
    (unpaired : ∀ pair ∈ aliases, key ≠ Key.ofName pair.2) : one.get? key = other.get? key := by
  by_cases aliased : key.name ∈ aliasedNames
  · have absent (asked : String) : Key.ofName (canonicalName asked) ≠ key := by
      intro filed
      have canonical := canonicalName_ne asked
      rw [← Key.name_ofName (canonicalName asked), filed] at canonical
      exact (name_eq_of_unpaired unpaired aliased).elim canonical.1 canonical.2
    rw [get?_eq_none_of_absent normalized fun asked _ => absent asked,
      get?_eq_none_of_absent normalizedToo fun asked _ => absent asked]
  · rw [get?_of_normalize normalized aliased, get?_of_normalize normalizedToo aliased,
      OrderedMap.sameAs_iff_get?.1 same]

/-- Equal selectors come to equal criteria exactly if they rank names alike. -/
theorem sameAs_iff_ranksAlike : one.sameAs other = true ↔ first.RanksAlike second := by
  rw [OrderedMap.sameAs_iff_get?]
  constructor
  · intro equal pair listed
    exact (get?_eq_get?_iff same normalized normalizedToo listed).1 (equal _)
  · intro ranked key
    by_cases paired : ∃ pair ∈ aliases, key = Key.ofName pair.2
    · obtain ⟨pair, listed, rfl⟩ := paired
      exact (get?_eq_get?_iff same normalized normalizedToo listed).2 (ranked pair listed)
    · simp only [not_exists, not_and] at paired
      exact get?_eq_get?_of_unpaired same normalized normalizedToo paired

end Equal

/-! ## Every order -/

section Every

variable {kind : ElementKind} {first : Selector} {criteria : Criteria}

theorem ranksAlike_of_isUnequivocal (unequivocal : first.IsUnequivocal) {second : Selector}
    (same : first.sameAs second = true) : first.RanksAlike second := by
  intro pair listed apart
  have asked := OrderedMap.sameAs_iff_get?.1 same
  have missing : first.get? pair.1 = none ∨ first.get? pair.2 = none := by
    cases one : first.get? pair.1 with
    | none => exact .inl rfl
    | some value =>
        cases other : first.get? pair.2 with
        | none => exact .inr rfl
        | some valueToo =>
            rw [one, other, unequivocal pair listed value valueToo one other] at apart
            exact absurd rfl apart
  -- Without one of the two names, neither selector has an order of them.
  have unranked {selector : Selector} (alike : ∀ name, first.get? name = selector.get? name) :
      ¬ selector.Overrules pair.1 pair.2 := by
    intro overrules
    obtain ⟨late, early⟩ := mem_keys_of_overrules overrules
    rw [alike, alike, OrderedMap.get?_eq_none_iff, OrderedMap.get?_eq_none_iff] at missing
    exact missing.elim (absurd late) (absurd early)
  exact iff_of_false (unranked fun _ => rfl) (unranked asked)

/-- Turned round, a selector with two names for a key ranks them the other way. -/
theorem isUnequivocal_of_ranksAlike_reverse (ranked : first.RanksAlike (OrderedMap.reverse first)) :
    first.IsUnequivocal := by
  intro pair listed one other asked askedToo
  by_contra differ
  have apart : first.get? pair.1 ≠ first.get? pair.2 := by
    rw [asked, askedToo]
    exact fun same => differ (Option.some.inj same)
  have turned := ranked pair listed apart
  rw [overrules_reverse] at turned
  have names : pair.1 ≠ pair.2 := fun same => apart (congrArg first.get? same)
  have ordered := overrules_or (mem_keys_of_get? asked) (mem_keys_of_get? askedToo) names
  rw [turned, or_self] at ordered
  exact not_overrules_of_overrules ordered (turned.2 ordered)

/-- The criteria are the same in every order exactly if no alias stands beside its name with
another value. -/
theorem isUnequivocal_iff (normalized : first.normalize kind = .ok criteria) :
    first.IsUnequivocal ↔ ∀ second : Selector, first.sameAs second = true →
      ∃ other, second.normalize kind = .ok other ∧ criteria.sameAs other = true := by
  constructor
  · intro unequivocal second same
    have good := (normalize_eq_ok_iff.1 normalized).1
    have normalizedToo := normalize_eq_ok_iff.2
      ⟨fun entry member => good entry ((OrderedMap.sameAs_iff_perm.1 same).mem_iff.2 member), rfl⟩
    exact ⟨_, normalizedToo, (sameAs_iff_ranksAlike same normalized normalizedToo).2
      (ranksAlike_of_isUnequivocal unequivocal same)⟩
  · intro every
    have same := OrderedMap.sameAs_reverse first
    obtain ⟨other, normalizedToo, equal⟩ := every _ same
    exact isUnequivocal_of_ranksAlike_reverse
      ((sameAs_iff_ranksAlike same normalized normalizedToo).1 equal)

end Every

/-- Normalizing equal selectors fails on both or on neither. Where it does not fail, it files the
same under every key that has one name, and the criteria are equal exactly if the selectors rank
the names of the other keys alike. So the criteria are the same in every order exactly if no
alias stands beside its name with another value. -/
theorem normalize_order_iff (kind : ElementKind) (first : Selector) :
    (∀ second : Selector, first.sameAs second = true →
      (∃ fault faultToo, first.normalize kind = .error fault ∧
        second.normalize kind = .error faultToo) ∨
      ∃ one other, first.normalize kind = .ok one ∧ second.normalize kind = .ok other ∧
        (∀ key, (∀ pair ∈ aliases, key ≠ Key.ofName pair.2) → one.get? key = other.get? key) ∧
        (one.sameAs other = true ↔ first.RanksAlike second)) ∧
    ∀ criteria, first.normalize kind = .ok criteria →
      (first.IsUnequivocal ↔ ∀ second : Selector, first.sameAs second = true →
        ∃ other, second.normalize kind = .ok other ∧ criteria.sameAs other = true) := by
  refine ⟨fun second same => ?_, fun criteria => isUnequivocal_iff⟩
  cases normalized : first.normalize kind with
  | error fault =>
      obtain ⟨faultToo, failed⟩ := (exists_error_iff_of_sameAs same).1 ⟨fault, normalized⟩
      exact .inl ⟨fault, faultToo, rfl, failed⟩
  | ok one =>
      cases normalizedToo : second.normalize kind with
      | error fault =>
          obtain ⟨faultToo, failed⟩ := (exists_error_iff_of_sameAs same).2 ⟨fault, normalizedToo⟩
          rw [normalized] at failed
          cases failed
      | ok other =>
          exact .inr ⟨one, other, rfl, rfl,
            fun key => get?_eq_get?_of_unpaired same normalized normalizedToo,
            sameAs_iff_ranksAlike same normalized normalizedToo⟩

/-- A class under two names, a text under one and a tag. Another order that ranks the two names of
the class alike comes to equal criteria, but not every order does. -/
theorem normalize_order_iff_ranked :
    ∃ (first second : Selector) (one other : Criteria),
      first.entries = [("class", .literal "a"), ("tag_name", .literal "p"),
        ("class_name", .literal "b"), ("caption", .literal "Save")] ∧
      second.entries = [("caption", .literal "Save"), ("class", .literal "a"),
        ("class_name", .literal "b"), ("tag_name", .literal "p")] ∧
      first.sameAs second = true ∧ first.RanksAlike second ∧
      first.normalize .generic = .ok one ∧ second.normalize .generic = .ok other ∧
      one.sameAs other = true ∧ ¬ first.IsUnequivocal ∧
      ¬ ∀ third : Selector, first.sameAs third = true →
        ∃ other, third.normalize .generic = .ok other ∧ one.sameAs other = true := by
  let first : Selector := ⟨[("class", .literal "a"), ("tag_name", .literal "p"),
    ("class_name", .literal "b"), ("caption", .literal "Save")], by decide⟩
  let second : Selector := ⟨[("caption", .literal "Save"), ("class", .literal "a"),
    ("class_name", .literal "b"), ("tag_name", .literal "p")], by decide⟩
  have same : first.sameAs second = true := by decide
  have ranked : first.RanksAlike second := by decide
  have equivocal : ¬ first.IsUnequivocal := by
    intro unequivocal
    have equal := unequivocal ("class_name", "class") (by decide) (.literal "b") (.literal "a")
      rfl rfl
    exact absurd (Value.literal.inj equal) (by decide)
  obtain ⟨orders, every⟩ := normalize_order_iff .generic first
  obtain ⟨fault, _, failed, _⟩ | ⟨one, other, normalized, normalizedToo, _, equal⟩ :=
    orders second same
  · cases failed
  · exact ⟨first, second, one, other, rfl, rfl, same, ranked, normalized, normalizedToo,
      equal.2 ranked, equivocal, mt (every one normalized).2 equivocal⟩

/-- The order of two criteria for one key, under its name and under an alias of it, decides which of
them is searched for. -/
def IsDecidedByOrder (name other : String) : Prop :=
  ∃ (first second : Selector) (one two : Criteria),
    first.entries = [(name, .literal "a"), (other, .literal "b")] ∧
    second.entries = [(other, .literal "b"), (name, .literal "a")] ∧
    first.sameAs second = true ∧
    first.normalize .generic = .ok one ∧ second.normalize .generic = .ok two ∧
    one.entries = [(Key.ofName name, .literal "b")] ∧
    two.entries = [(Key.ofName name, .literal "a")] ∧ one.sameAs two = false

/-- Of two classes or two texts, the one that comes last is searched for. -/
theorem exists_order_decides :
    IsDecidedByOrder "class" "class_name" ∧ IsDecidedByOrder "text" "caption" := by
  constructor
  · exact ⟨⟨[("class", .literal "a"), ("class_name", .literal "b")], by decide⟩,
      ⟨[("class_name", .literal "b"), ("class", .literal "a")], by decide⟩,
      ⟨[(.className, .literal "b")], by decide⟩, ⟨[(.className, .literal "a")], by decide⟩,
      rfl, rfl, rfl, rfl, rfl, rfl, rfl, rfl⟩
  · exact ⟨⟨[("text", .literal "a"), ("caption", .literal "b")], by decide⟩,
      ⟨[("caption", .literal "b"), ("text", .literal "a")], by decide⟩,
      ⟨[(.text, .literal "b")], by decide⟩, ⟨[(.text, .literal "a")], by decide⟩,
      rfl, rfl, rfl, rfl, rfl, rfl, rfl, rfl⟩

end Selector

end ElementSearch
