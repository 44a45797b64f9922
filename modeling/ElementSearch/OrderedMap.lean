/-
# Maps in insertion order

A map lists its entries in the order in which their keys were first inserted, and no
key twice. Giving a present key another value keeps its place.
-/

namespace ElementSearch

/-- A finite map whose entries keep the order of insertion. -/
structure OrderedMap (κ ν : Type) where
  entries : List (κ × ν)
  distinct : (entries.map Prod.fst).Nodup

namespace OrderedMap

variable {κ ν : Type}

@[ext] theorem ext {first second : OrderedMap κ ν} (same : first.entries = second.entries) :
    first = second := by
  cases first; cases second; cases same; rfl

instance [DecidableEq κ] [DecidableEq ν] : DecidableEq (OrderedMap κ ν) := fun first second =>
  decidable_of_iff (first.entries = second.entries)
    ⟨OrderedMap.ext, fun same => same ▸ rfl⟩

/-- The map without entries. -/
def empty : OrderedMap κ ν := ⟨[], List.nodup_nil⟩

instance : Inhabited (OrderedMap κ ν) := ⟨empty⟩

/-- The keys, in order. -/
def keys (map : OrderedMap κ ν) : List κ := map.entries.map Prod.fst

/-- The number of entries. -/
def size (map : OrderedMap κ ν) : Nat := map.entries.length

/-- Whether there are no entries. -/
def isEmpty (map : OrderedMap κ ν) : Bool := map.entries.isEmpty

/-- The entries that a test keeps, in their order. -/
def filter (map : OrderedMap κ ν) (keep : κ → ν → Bool) : OrderedMap κ ν where
  entries := map.entries.filter fun entry => keep entry.1 entry.2
  distinct := (List.filter_sublist.map Prod.fst).nodup map.distinct

variable [DecidableEq κ]

/-- The value of a key. -/
def get? (map : OrderedMap κ ν) (key : κ) : Option ν :=
  (map.entries.find? (·.1 = key)).map Prod.snd

/-- Whether a key has a value. -/
def contains (map : OrderedMap κ ν) (key : κ) : Bool := map.entries.any (·.1 = key)

/-- Entries with the value of a key set, at its place or at the end. -/
def put (key : κ) (value : ν) : List (κ × ν) → List (κ × ν)
  | [] => [(key, value)]
  | entry :: rest =>
      if entry.1 = key then (entry.1, value) :: rest else entry :: put key value rest

theorem mem_keys_put {key other : κ} {value : ν} {entries : List (κ × ν)} :
    other ∈ (put key value entries).map Prod.fst ↔
      other = key ∨ other ∈ entries.map Prod.fst := by
  induction entries with
  | nil => simp [put]
  | cons entry rest ih =>
      unfold put
      split
      · next same => subst same; simp
      · next different =>
          simp only [List.map_cons, List.mem_cons, ih]
          constructor
          · rintro (h | h | h) <;> simp [h]
          · rintro (h | h | h) <;> simp [h]

theorem nodup_keys_put {key : κ} {value : ν} {entries : List (κ × ν)}
    (distinct : (entries.map Prod.fst).Nodup) :
    ((put key value entries).map Prod.fst).Nodup := by
  induction entries with
  | nil => simp [put]
  | cons entry rest ih =>
      simp only [List.map_cons, List.nodup_cons] at distinct
      unfold put
      split
      · simpa using distinct
      · next different =>
          simp only [List.map_cons, List.nodup_cons, mem_keys_put, not_or]
          exact ⟨⟨different, distinct.1⟩, ih distinct.2⟩

/-- Set the value of a key. -/
def insert (map : OrderedMap κ ν) (key : κ) (value : ν) : OrderedMap κ ν where
  entries := put key value map.entries
  distinct := nodup_keys_put map.distinct

/-- The map without a key. -/
def erase (map : OrderedMap κ ν) (key : κ) : OrderedMap κ ν :=
  map.filter fun other _ => other ≠ key

/-- Insert pairs from left to right. -/
def ofList (pairs : List (κ × ν)) : OrderedMap κ ν :=
  pairs.foldl (fun map pair => map.insert pair.1 pair.2) empty

/-- Whether two maps give every key the same value, whatever the order of their entries. -/
def sameAs [DecidableEq ν] (first second : OrderedMap κ ν) : Bool :=
  first.size = second.size &&
    first.entries.all fun entry => second.get? entry.1 = some entry.2

theorem find?_put (key : κ) (value : ν) (other : κ) (entries : List (κ × ν)) :
    ((put key value entries).find? (·.1 = other)).map Prod.snd =
      if key = other then some value else (entries.find? (·.1 = other)).map Prod.snd := by
  induction entries with
  | nil => by_cases same : key = other <;> simp [put, same]
  | cons entry rest ih =>
      unfold put
      split
      · next present =>
          subst present
          by_cases same : entry.1 = other <;> simp [same]
      · next absent =>
          by_cases found : entry.1 = other
          · have : key ≠ other := fun same => absent (found.trans same.symm)
            simp [found, this]
          · simp [found, ih]

/-- A key that was set has its value, and every other key keeps its own. -/
theorem get?_insert (map : OrderedMap κ ν) (key other : κ) (value : ν) :
    (map.insert key value).get? other = if key = other then some value else map.get? other :=
  find?_put key value other map.entries

@[simp] theorem get?_empty (key : κ) : (empty : OrderedMap κ ν).get? key = none := rfl

theorem contains_eq_isSome_get? (map : OrderedMap κ ν) (key : κ) :
    map.contains key = (map.get? key).isSome := by
  simp only [contains, get?, Option.isSome_map]
  induction map.entries with
  | nil => rfl
  | cons entry rest ih => by_cases same : entry.1 = key <;> simp [same, ih]

theorem contains_eq_false_iff {map : OrderedMap κ ν} {key : κ} :
    map.contains key = false ↔ map.get? key = none := by
  rw [contains_eq_isSome_get?, Option.isSome_eq_false_iff, Option.isNone_iff_eq_none]

theorem contains_iff_mem_keys {map : OrderedMap κ ν} {key : κ} :
    map.contains key = true ↔ key ∈ map.keys := by
  simp [contains, keys]

/-- A key is set exactly to the values listed for it. -/
theorem get?_eq_some_iff {map : OrderedMap κ ν} {key : κ} {value : ν} :
    map.get? key = some value ↔ (key, value) ∈ map.entries := by
  obtain ⟨entries, distinct⟩ := map
  simp only [get?]
  induction entries with
  | nil => simp
  | cons entry rest ih =>
      simp only [List.map_cons, List.nodup_cons] at distinct
      by_cases same : entry.1 = key
      · subst same
        simp only [List.find?_cons, decide_true, Option.map_some, Option.some.injEq,
          List.mem_cons]
        constructor
        · rintro rfl; exact Or.inl rfl
        · rintro (first | later)
          · rw [← first]
          · exact absurd (List.mem_map_of_mem (f := Prod.fst) later) distinct.1
      · have : (key, value) ≠ entry := fun h => same (by rw [← h])
        simp [same, this, ih distinct.2]

/-- The entries that are kept have their values, and no others. -/
theorem get?_filter (map : OrderedMap κ ν) (keep : κ → ν → Bool) (key : κ) :
    (map.filter keep).get? key = (map.get? key).filter (keep key) := by
  ext value
  rw [get?_eq_some_iff, Option.filter_eq_some_iff, get?_eq_some_iff]
  exact List.mem_filter

end OrderedMap

end ElementSearch
