/-
# What normalizing makes of a position

Criteria are filed one after the other, so a position that is added to a selector is added
to its criteria, and taking it out again leaves them as they were.
-/

import ElementSearch.Selector.Normalize

namespace ElementSearch

namespace OrderedMap

variable {κ ν : Type} [DecidableEq κ]

/-- A key that is not there is set behind the others. -/
theorem put_of_notMem {key : κ} {value : ν} {entries : List (κ × ν)}
    (absent : key ∉ entries.map Prod.fst) : put key value entries = entries ++ [(key, value)] := by
  induction entries with
  | nil => rfl
  | cons entry rest ih =>
      rw [List.map_cons, List.mem_cons, not_or] at absent
      rw [put, if_neg (Ne.symm absent.1), ih absent.2]
      rfl

theorem notMem_of_contains_eq_false {map : OrderedMap κ ν} {key : κ}
    (absent : map.contains key = false) : key ∉ map.keys := by
  rw [← contains_iff_mem_keys, absent]
  exact Bool.false_ne_true

theorem entries_insert_of_absent {map : OrderedMap κ ν} {key : κ}
    (absent : map.contains key = false) (value : ν) :
    (map.insert key value).entries = map.entries ++ [(key, value)] :=
  put_of_notMem (notMem_of_contains_eq_false absent)

omit [DecidableEq κ] in
theorem length_keys (map : OrderedMap κ ν) : map.keys.length = map.size := List.length_map _

theorem entries_erase (map : OrderedMap κ ν) (key : κ) :
    (map.erase key).entries = map.entries.filter fun entry => entry.1 ≠ key := rfl

/-- Erasing a key leaves the others alone. -/
theorem get?_erase_of_ne (map : OrderedMap κ ν) {key other : κ} (apart : other ≠ key) :
    (map.erase key).get? other = map.get? other := by
  rw [erase, get?_filter]
  cases map.get? other with
  | none => rfl
  | some value => exact Option.filter_some_pos (decide_eq_true apart)

theorem get?_erase_self (map : OrderedMap κ ν) (key : κ) : (map.erase key).get? key = none := by
  rw [erase, get?_filter]
  cases map.get? key with
  | none => rfl
  | some value => exact Option.filter_some_neg (by simp)

theorem filter_ne_of_absent {map : OrderedMap κ ν} {key : κ} (absent : map.contains key = false) :
    (map.entries.filter fun entry => entry.1 ≠ key) = map.entries := by
  rw [List.filter_eq_self]
  intro entry member
  rw [decide_eq_true_eq]
  rintro rfl
  exact notMem_of_contains_eq_false absent (List.mem_map_of_mem member)

theorem erase_of_absent {map : OrderedMap κ ν} {key : κ} (absent : map.contains key = false) :
    map.erase key = map := by
  ext1
  rw [entries_erase, filter_ne_of_absent absent]

/-- What is set and erased again leaves a map without the key as it was. -/
theorem erase_insert_of_absent {map : OrderedMap κ ν} {key : κ} (absent : map.contains key = false)
    (value : ν) : (map.insert key value).erase key = map := by
  ext1
  rw [entries_erase, entries_insert_of_absent absent, List.filter_append,
    filter_ne_of_absent absent]
  simp

/-- Pairs with new keys are inserted behind the others, in their order. -/
theorem entries_foldl_insert {done : OrderedMap κ ν} {pairs : List (κ × ν)}
    (distinct : ((done.entries ++ pairs).map Prod.fst).Nodup) :
    (pairs.foldl (fun map pair => map.insert pair.1 pair.2) done).entries =
      done.entries ++ pairs := by
  induction pairs generalizing done with
  | nil => exact (List.append_nil _).symm
  | cons pair pairs ih =>
      have absent : pair.1 ∉ done.entries.map Prod.fst := by
        rw [List.map_append, List.nodup_append] at distinct
        exact fun present => distinct.2.2 _ present _ List.mem_cons_self rfl
      have inserted : (done.insert pair.1 pair.2).entries = done.entries ++ [pair] :=
        put_of_notMem absent
      have split : done.entries ++ pair :: pairs = (done.entries ++ [pair]) ++ pairs :=
        List.append_cons ..
      rw [split, ← inserted] at distinct
      rw [List.foldl_cons, ih distinct, inserted, split]

/-- A map is made again from its entries. -/
theorem ofList_entries (map : OrderedMap κ ν) : ofList map.entries = map := by
  have distinct : ((empty.entries ++ map.entries).map Prod.fst).Nodup := map.distinct
  ext1
  exact entries_foldl_insert distinct

/-- Of several pairs for a key, the last gives its value. -/
theorem get?_foldl_insert (done : OrderedMap κ ν) (pairs : List (κ × ν)) (key : κ) :
    (pairs.foldl (fun map pair => map.insert pair.1 pair.2) done).get? key =
      ((pairs.reverse.find? (·.1 = key)).map Prod.snd).or (done.get? key) := by
  induction pairs generalizing done with
  | nil => rfl
  | cons pair pairs ih =>
      rw [List.foldl_cons, ih, get?_insert, List.reverse_cons, List.find?_append]
      by_cases same : pair.1 = key
      · simp [same]
      · simp [same]

theorem get?_ofList (pairs : List (κ × ν)) (key : κ) :
    (ofList pairs).get? key = (pairs.reverse.find? (·.1 = key)).map Prod.snd := by
  rw [ofList, get?_foldl_insert, get?_empty, Option.or_none]

/-- Nothing is in a map but what was inserted. -/
theorem mem_of_mem_entries_ofList {pairs : List (κ × ν)} {entry : κ × ν}
    (member : entry ∈ (ofList pairs).entries) : entry ∈ pairs := by
  obtain ⟨key, value⟩ := entry
  rw [← get?_eq_some_iff, get?_ofList, Option.map_eq_some_iff] at member
  obtain ⟨pair, found, rfl⟩ := member
  have same := List.find?_some found
  rw [decide_eq_true_eq] at same
  subst same
  exact List.mem_reverse.1 (List.mem_of_find?_eq_some found)

end OrderedMap

/-- The names that are aliases or have one. -/
def aliasedNames : List String := ["class", "class_name", "text", "caption"]

/-- Only its own name is resolved to a key whose name is no alias and has none. -/
theorem ofName_canonicalName_eq_iff {key : Key} (single : key.name ∉ aliasedNames)
    {name : String} : Key.ofName (canonicalName name) = key ↔ name = key.name := by
  constructor
  · intro same
    have named : canonicalName name = key.name := by rw [← same, Key.name_ofName]
    rw [← named] at single ⊢
    unfold canonicalName at single ⊢
    split at single
    · exact absurd (by decide) single
    · exact absurd (by decide) single
    · rfl
  · rintro rfl
    have kept : canonicalName key.name = key.name := by
      unfold canonicalName
      split
      · next named =>
          rw [named] at single
          exact absurd (by decide) single
      · next named =>
          rw [named] at single
          exact absurd (by decide) single
      · rfl
    rw [kept, Key.ofName_name]

namespace Selector

variable {kind : ElementKind}

/-- A criterion under the key of its name. -/
def filed (entry : String × Value) : Key × Value :=
  (Key.ofName (canonicalName entry.1), entry.2)

theorem fileAll_append (done : Criteria) (first second : List (String × Value)) :
    fileAll kind done (first ++ second) =
      fileAll kind done first >>= fun done => fileAll kind done second := by
  induction first generalizing done with
  | nil => rfl
  | cons entry rest ih =>
      simp only [List.cons_append, fileAll]
      split
      · rfl
      · exact ih _

theorem fileAll_cons_of_ok {entry : String × Value}
    (checked : checkCriterion kind (filed entry).1 entry.2 = .ok ()) (done : Criteria)
    (rest : List (String × Value)) :
    fileAll kind done (entry :: rest) =
      fileAll kind (done.insert (filed entry).1 (filed entry).2) rest := by
  rw [filed] at checked
  simp only [fileAll, checked]
  rfl

theorem fileAll_cons_of_error {entry : String × Value} {fault : Fault}
    (refused : checkCriterion kind (filed entry).1 entry.2 = .error fault) (done : Criteria)
    (rest : List (String × Value)) : fileAll kind done (entry :: rest) = .error fault := by
  rw [filed] at refused
  simp only [fileAll, refused]

/-- Criteria that pass their checks are inserted one after the other. -/
theorem fileAll_eq_ok_iff {done criteria : Criteria} {entries : List (String × Value)} :
    fileAll kind done entries = .ok criteria ↔
      (∀ entry ∈ entries, checkCriterion kind (filed entry).1 entry.2 = .ok ()) ∧
        (entries.map filed).foldl (fun map pair => map.insert pair.1 pair.2) done = criteria := by
  induction entries generalizing done with
  | nil => simp [fileAll]
  | cons entry rest ih =>
      rw [List.forall_mem_cons, List.map_cons, List.foldl_cons]
      cases checked : checkCriterion kind (filed entry).1 entry.2 with
      | error fault => simp [fileAll_cons_of_error checked]
      | ok _ => simp [fileAll_cons_of_ok checked, ih]

/-- Criteria are filed under the keys of their names, beside those that were there. -/
theorem contains_iff_of_fileAll {done criteria : Criteria} {entries : List (String × Value)}
    (filed : fileAll kind done entries = .ok criteria) (key : Key) :
    criteria.contains key = true ↔ done.contains key = true ∨
      ∃ entry ∈ entries, Key.ofName (canonicalName entry.1) = key := by
  obtain ⟨-, rfl⟩ := fileAll_eq_ok_iff.1 filed
  rw [OrderedMap.contains_eq_isSome_get?, OrderedMap.get?_foldl_insert,
    OrderedMap.contains_eq_isSome_get?, Option.isSome_or, Bool.or_eq_true, or_comm,
    Option.isSome_map, List.find?_isSome]
  simp only [List.mem_reverse, List.mem_map, decide_eq_true_eq]
  refine or_congr_right ⟨?_, ?_⟩
  · rintro ⟨_, ⟨entry, member, rfl⟩, same⟩
    exact ⟨entry, member, same⟩
  · rintro ⟨entry, member, same⟩
    exact ⟨_, ⟨entry, member, rfl⟩, same⟩

/-- The criteria have a key if the selector has its name. -/
theorem contains_of_normalize {selector : Selector} {criteria : Criteria}
    (normalized : selector.normalize kind = .ok criteria) {key : Key}
    (single : key.name ∉ aliasedNames) : criteria.contains key = selector.contains key.name := by
  rw [Bool.eq_iff_iff, contains_iff_of_fileAll normalized]
  simp only [ofName_canonicalName_eq_iff single]
  simp [OrderedMap.contains, OrderedMap.empty]

/-- Criteria are checked before they are filed. -/
theorem checkCriterion_of_fileAll {done criteria : Criteria} {entries : List (String × Value)}
    (filed : fileAll kind done entries = .ok criteria) :
    ∀ entry ∈ entries,
      checkCriterion kind (Key.ofName (canonicalName entry.1)) entry.2 = .ok () :=
  (fileAll_eq_ok_iff.1 filed).1

/-- The last value for a name is filed under its key. -/
theorem get?_of_fileAll {done criteria : Criteria} {entries : List (String × Value)}
    (filed : fileAll kind done entries = .ok criteria) (distinct : (entries.map Prod.fst).Nodup)
    {key : Key} (single : key.name ∉ aliasedNames) :
    criteria.get? key =
      ((entries.find? (·.1 = key.name)).map Prod.snd).or (done.get? key) := by
  induction entries generalizing done with
  | nil =>
      obtain rfl := Except.ok.inj filed
      rfl
  | cons entry rest ih =>
      simp only [fileAll] at filed
      rw [List.map_cons, List.nodup_cons] at distinct
      split at filed
      · cases filed
      · have resolved : Key.ofName (canonicalName entry.1) = key ↔ entry.1 = key.name :=
          ofName_canonicalName_eq_iff single
        rw [ih filed distinct.2, OrderedMap.get?_insert, List.find?_cons]
        by_cases named : entry.1 = key.name
        · have absent : rest.find? (·.1 = key.name) = none := by
            rw [List.find?_eq_none]
            intro other member same
            have again : other.1 = entry.1 := (of_decide_eq_true same).trans named.symm
            exact distinct.1 (again ▸ List.mem_map_of_mem member)
          rw [absent, if_pos (resolved.2 named), decide_eq_true named]
          rfl
        · rw [if_neg (mt resolved.1 named), decide_eq_false named]

/-- The criteria have the value of a key that the selector has for its name. -/
theorem get?_of_normalize {selector : Selector} {criteria : Criteria}
    (normalized : selector.normalize kind = .ok criteria) {key : Key}
    (single : key.name ∉ aliasedNames) : criteria.get? key = selector.get? key.name := by
  rw [get?_of_fileAll normalized selector.distinct single, OrderedMap.get?_empty, Option.or_none]
  rfl

/-- What is filed under a key that has one name is asked for by that name. -/
theorem mem_keys_of_normalize {selector : Selector} {criteria : Criteria}
    (normalized : selector.normalize kind = .ok criteria) {key : Key}
    (single : key.name ∉ aliasedNames) {value : Value} (asked : criteria.get? key = some value) :
    key.name ∈ selector.keys := by
  rw [← OrderedMap.contains_iff_mem_keys, ← contains_of_normalize normalized single,
    OrderedMap.contains_eq_isSome_get?, asked]
  rfl

/-- Criteria ask for a position only if the selector does. -/
theorem contains_index_of_normalize {selector : Selector} {criteria : Criteria}
    (absent : selector.contains "index" = false)
    (normalized : selector.normalize kind = .ok criteria) : criteria.contains .index = false := by
  rw [contains_of_normalize normalized (by decide)]
  exact absent

/-- One criterion is filed alone. -/
theorem entries_of_normalize_alone {selector : Selector} {criteria : Criteria} {name : String}
    {value : Value} (alone : selector.entries = [(name, value)])
    (normalized : selector.normalize kind = .ok criteria) :
    criteria.entries = [(Key.ofName (canonicalName name), value)] := by
  rw [normalize, alone] at normalized
  simp only [fileAll] at normalized
  split at normalized
  · cases normalized
  · rw [← Except.ok.inj normalized]
    rfl

/-- A position is filed behind the other criteria. -/
theorem normalize_withIndex {selector : Selector} (absent : selector.contains "index" = false)
    (position : Int64) :
    (selector.withIndex position).normalize kind =
      (selector.normalize kind).map (·.insert .index (.index position)) := by
  rw [normalize, withIndex, OrderedMap.entries_insert_of_absent absent, fileAll_append, normalize]
  cases fileAll kind .empty selector.entries with
  | error fault => rfl
  | ok criteria => rfl

end Selector

end ElementSearch
