/-
# What a position denotes

As long as the number of matches is itself a 64-bit number with a sign, no result on the way from
a position to a match is too large or too small. So the arithmetic, though it would wrap around,
is exact, and a position denotes what it says: a match counted from the start, or from the end if
it is negative, or none.
-/

import ElementSearch.Search.Position

namespace ElementSearch

/-! ## Arithmetic that may fail -/

/-- A whole number as a 64-bit number with a sign, if it is one. -/
def fitting? (number : Int) : Option Int64 :=
  if Int64.minValue.toInt ≤ number ∧ number ≤ Int64.maxValue.toInt then some (Int64.ofInt number)
  else none

theorem exists_fitting? {number : Int} (low : Int64.minValue.toInt ≤ number)
    (high : number ≤ Int64.maxValue.toInt) :
    ∃ fitted, fitting? number = some fitted ∧ fitted.toInt = number :=
  ⟨_, if_pos ⟨low, high⟩, Int64.toInt_ofInt_of_le low (Int.lt_add_one_of_le high)⟩

theorem toInt_of_fitting? {number : Int} {fitted : Int64} (fits : fitting? number = some fitted) :
    fitted.toInt = number := by
  rw [fitting?] at fits
  split at fits
  · next bounds =>
      obtain rfl := Option.some.inj fits
      exact Int64.toInt_ofInt_of_le bounds.1 (Int.lt_add_one_of_le bounds.2)
  · cases fits

namespace Arithmetic

/-- Arithmetic that fails where a result does not fit into its type. -/
def checked : Arithmetic Option where
  signed count := fitting? count
  sum first second := fitting? (first.toInt + second.toInt)
  unsigned number := number.toInt.toNat?

/-- Every result of arithmetic that may fail is the result of arithmetic that always has one. -/
structure IsWithin (partly : Arithmetic Option) (always : Arithmetic Id) : Prop where
  signed : ∀ {count length}, partly.signed count = some length → (always.signed count).run = length
  sum : ∀ {first second total},
    partly.sum first second = some total → (always.sum first second).run = total
  unsigned : ∀ {number place},
    partly.unsigned number = some place → (always.unsigned number).run = place

namespace IsWithin

variable {partly : Arithmetic Option} {always : Arithmetic Id}

theorem fromStart (within : IsWithin partly always) {length position place : Int64}
    (exact : partly.fromStart length position = some place) :
    (always.fromStart length position).run = place := by
  rw [Arithmetic.fromStart] at exact ⊢
  split at exact
  · next negative =>
      rw [if_pos negative]
      exact within.sum exact
  · next natural =>
      rw [if_neg natural]
      exact Option.some.inj exact

theorem place? (within : IsWithin partly always) {count : Nat} {position : Int64}
    {denoted : Option Nat} (exact : partly.place? count position = some denoted) :
    (always.place? count position).run = denoted := by
  obtain ⟨length, converted, exact⟩ := Option.bind_eq_some_iff.1 exact
  obtain ⟨place, counted, exact⟩ := Option.bind_eq_some_iff.1 exact
  rw [Arithmetic.place?, Id.run_bind, within.signed converted, Id.run_bind,
    within.fromStart counted]
  split at exact
  · next outside =>
      rw [if_pos outside]
      exact Option.some.inj exact
  · next inside =>
      obtain ⟨taken, converted, exact⟩ := Option.bind_eq_some_iff.1 exact
      rw [if_neg inside, Id.run_bind, within.unsigned converted]
      exact Option.some.inj exact

end IsWithin

theorem isWithin_wrapping : IsWithin checked wrapping where
  signed := by
    intro count length exact
    have same := toInt_of_fitting? exact
    calc Int64.ofNat count
      _ = Int64.ofInt length.toInt := by rw [same, Int64.ofInt_eq_ofNat]
      _ = length := Int64.ofInt_toInt length
  sum := by
    intro first second total exact
    have same := toInt_of_fitting? exact
    calc first + second
      _ = Int64.ofInt (first.toInt + second.toInt) := by
        rw [Int64.ofInt_add, Int64.ofInt_toInt, Int64.ofInt_toInt]
      _ = total := by rw [← same, Int64.ofInt_toInt]
  unsigned := by
    intro number place exact
    have same := Int.mem_toNat?.1 exact
    have natural : 0 ≤ number := by
      rw [Int64.le_iff_toInt_le, Int64.toInt_zero]
      omega
    calc number.toUInt64.toNat
      _ = number.toInt.toNat := Int64.toNat_toUInt64_of_le natural
      _ = place := by rw [same, Int.toNat_natCast]

/-- The sum of a count and a negative position always fits. -/
theorem exists_checked_fromStart {length : Int64} (counts : 0 ≤ length.toInt) (position : Int64) :
    ∃ place, checked.fromStart length position = some place ∧
      place.toInt =
        if 0 ≤ position.toInt then position.toInt else length.toInt + position.toInt := by
  have sign : position < 0 ↔ position.toInt < 0 := by
    rw [Int64.lt_iff_toInt_lt, Int64.toInt_zero]
  by_cases negative : position < 0
  -- The length is not negative and the position is, so the sum lies between the two.
  · have below := sign.1 negative
    have low : Int64.minValue.toInt ≤ length.toInt + position.toInt := by
      have least := Int64.minValue_le_toInt position
      omega
    have high : length.toInt + position.toInt ≤ Int64.maxValue.toInt := by
      have most := Int64.toInt_le length
      omega
    rw [fromStart, if_pos negative, if_neg (by omega)]
    exact exists_fitting? low high
  · have natural := mt sign.2 negative
    exact ⟨position, if_neg negative, (if_pos (by omega)).symm⟩

/-- Where the count fits, resolving a position never fails. It comes to a place exactly between
both ends. -/
theorem exists_checked_place? {count : Nat} (small : (count : Int) ≤ Int64.maxValue.toInt)
    (position : Int64) :
    ∃ denoted, checked.place? count position = some denoted ∧
      ∀ place : Nat, denoted = some place ↔
        -(count : Int) ≤ position.toInt ∧ position.toInt < count ∧
          (place : Int) = if 0 ≤ position.toInt then position.toInt else count + position.toInt := by
  have low : Int64.minValue.toInt ≤ (count : Int) := by
    have least : Int64.minValue.toInt = -9223372036854775808 := rfl
    omega
  obtain ⟨length, converted, counts⟩ := exists_fitting? low small
  obtain ⟨start, counted, meaning⟩ :=
    exists_checked_fromStart (show 0 ≤ length.toInt by omega) position
  rw [counts] at meaning
  have outside : (start < 0 ∨ length ≤ start) ↔ start.toInt < 0 ∨ (count : Int) ≤ start.toInt := by
    rw [Int64.lt_iff_toInt_lt, Int64.le_iff_toInt_le, Int64.toInt_zero, counts]
  have signed : checked.signed count = some length := converted
  have steps : checked.place? count position =
      if start < 0 ∨ length ≤ start then return none
      else return some (← checked.unsigned start) := by
    simp only [place?, signed, counted, Option.bind_eq_bind, Option.bind_some]
  by_cases beyond : start.toInt < 0 ∨ (count : Int) ≤ start.toInt
  · refine ⟨none, by rw [steps, if_pos (outside.2 beyond)]; rfl, fun place => ?_⟩
    simp only [reduceCtorEq, false_iff]
    split at meaning <;> omega
  · obtain ⟨taken, same⟩ := Int.eq_ofNat_of_zero_le (show 0 ≤ start.toInt by omega)
    have unsigned : checked.unsigned start = some taken := Int.mem_toNat?.2 same
    refine ⟨some taken, by rw [steps, if_neg (mt outside.1 beyond), unsigned]; rfl, fun place => ?_⟩
    rw [Option.some.injEq]
    split at meaning <;> omega

end Arithmetic

/-! ## Places -/

theorem map_val_place? (count : Nat) (position : Int64) :
    (place? count position).map Fin.val = (Arithmetic.wrapping.place? count position).run := by
  rw [place?, Option.map_pmap, Option.pmap_eq_map, Option.map_id']

/-- Where the count fits, resolving a position overflows nowhere. -/
theorem checked_place? {count : Nat} (small : (count : Int) ≤ Int64.maxValue.toInt)
    (position : Int64) :
    Arithmetic.checked.place? count position = some ((place? count position).map Fin.val) := by
  obtain ⟨denoted, exact, _⟩ := Arithmetic.exists_checked_place? small position
  rw [map_val_place?, Arithmetic.isWithin_wrapping.place? exact, exact]

-- One match more than that is too many for a number with a sign.
example : Arithmetic.checked.place? 9223372036854775808 0 = none := by decide

theorem map_val_place?_eq_some_iff {count : Nat} (small : (count : Int) ≤ Int64.maxValue.toInt)
    (position : Int64) (place : Nat) :
    (place? count position).map Fin.val = some place ↔
      -(count : Int) ≤ position.toInt ∧ position.toInt < count ∧
        (place : Int) = if 0 ≤ position.toInt then position.toInt else count + position.toInt := by
  obtain ⟨denoted, exact, meaning⟩ := Arithmetic.exists_checked_place? small position
  rw [map_val_place?, Arithmetic.isWithin_wrapping.place? exact]
  exact meaning place

variable {count : Nat} {position : Int64}

theorem place?_eq_some_iff (small : (count : Int) ≤ Int64.maxValue.toInt) {place : Fin count} :
    place? count position = some place ↔
      (place : Int) = if 0 ≤ position.toInt then position.toInt else count + position.toInt := by
  have meaning := map_val_place?_eq_some_iff small position place
  rw [Option.map_eq_some_iff] at meaning
  constructor
  · intro denoted
    exact (meaning.1 ⟨place, denoted, rfl⟩).2.2
  · intro same
    have bounds : -(count : Int) ≤ position.toInt ∧ position.toInt < count := by
      have inside := place.isLt
      split at same <;> omega
    obtain ⟨other, denoted, equal⟩ := meaning.2 ⟨bounds.1, bounds.2, same⟩
    rw [denoted, Fin.ext equal]

/-- A position denotes a place exactly between both ends. -/
theorem isSome_place?_iff (small : (count : Int) ≤ Int64.maxValue.toInt) :
    (place? count position).isSome = true ↔
      -(count : Int) ≤ position.toInt ∧ position.toInt < count := by
  rw [Option.isSome_iff_exists]
  constructor
  · rintro ⟨place, denoted⟩
    have same := (place?_eq_some_iff small).1 denoted
    have inside := place.isLt
    split at same <;> omega
  · rintro ⟨low, high⟩
    by_cases natural : 0 ≤ position.toInt
    · refine ⟨⟨position.toInt.toNat, by omega⟩, (place?_eq_some_iff small).2 ?_⟩
      rw [if_pos natural]
      exact Int.toNat_of_nonneg natural
    · refine ⟨⟨(count + position.toInt).toNat, by omega⟩, (place?_eq_some_iff small).2 ?_⟩
      rw [if_neg natural]
      exact Int.toNat_of_nonneg (by omega)

/-- A position denotes the place that it is, or the one that it is from the end. -/
theorem place?_eq_some (small : (count : Int) ≤ Int64.maxValue.toInt) {place : Nat}
    (bound : place < count)
    (denotes : (place : Int) = position.toInt ∨ (place : Int) = count + position.toInt) :
    place? count position = some ⟨place, bound⟩ := by
  rw [place?_eq_some_iff small]
  dsimp only
  split <;> omega

/-! ## Picking -/

variable {η : Type}

/-- What is taken out is the member at the place, where the last one then is. -/
theorem swapRemove_eq {members : Array η} {place : Nat} (bound : place < members.size) :
    swapRemove members ⟨place, bound⟩ =
      (members[place], (members.set place (members.back (Nat.zero_lt_of_lt bound))).pop) := by
  refine Prod.ext ?_ (Array.ext ?_ fun other _ bound => ?_)
  · simp only [swapRemove, Array.back_eq_getElem, Array.size_swap]
    exact Array.getElem_swap_right
  · simp only [swapRemove, Array.size_pop, Array.size_swap, Array.size_set]
  · rw [Array.size_pop, Array.size_set] at bound
    simp only [swapRemove, Array.getElem_pop, Array.back_eq_getElem]
    by_cases same : other = place
    · subst same
      rw [Array.getElem_swap_left, Array.getElem_set_self]
    · rw [Array.getElem_swap_of_ne (by omega) (by omega),
        Array.getElem_set_ne (by omega) (by omega) (by omega)]

variable {matched : List η}

theorem pick_eq : pick matched position = (place? matched.length position).map matched.get := by
  have taken : (fun place => (swapRemove matched.toArray place).1) = matched.get :=
    funext fun place => congrArg Prod.fst (swapRemove_eq place.isLt)
  rw [pick, taken]

/-- A position beyond either end denotes no match. -/
theorem pick_eq_none (small : (matched.length : Int) ≤ Int64.maxValue.toInt)
    (outside : position.toInt < -matched.length ∨ matched.length ≤ position.toInt) :
    pick matched position = none := by
  rw [pick_eq, Option.map_eq_none_iff, ← Option.not_isSome_iff_eq_none, isSome_place?_iff small]
  omega

/-- A position denotes the match at its place, counted from the start or from the end. -/
theorem pick_eq_some (small : (matched.length : Int) ≤ Int64.maxValue.toInt) {place : Nat}
    (bound : place < matched.length)
    (denotes : (place : Int) = position.toInt ∨ (place : Int) = matched.length + position.toInt) :
    pick matched position = some matched[place] := by
  rw [pick_eq, place?_eq_some small bound denotes]
  rfl

/-- Any position is resolved without overflow among as many matches as a 64-bit number with a sign
can count. It denotes a place exactly between both ends: its own, or, if it is negative, the one
that it is from the end. What is picked is the match at that place of the list, although it
is taken out by an exchange with the last one. -/
theorem position_denotes_exactly (matched : List η)
    (small : (matched.length : Int) ≤ Int64.maxValue.toInt) (position : Int64) :
    Arithmetic.checked.place? matched.length position =
        some ((place? matched.length position).map Fin.val) ∧
      (∀ place : Nat, (place? matched.length position).map Fin.val = some place ↔
        -(matched.length : Int) ≤ position.toInt ∧ position.toInt < matched.length ∧
          (place : Int) =
            if 0 ≤ position.toInt then position.toInt else matched.length + position.toInt) ∧
      pick matched position = (place? matched.length position).map matched.get :=
  ⟨checked_place? small position, map_val_place?_eq_some_iff small position, pick_eq⟩

/-- Among as many matches as can be counted, the least position denotes none and the next one the
first. The first of three is picked at the third position from the end. -/
theorem position_denotes_exactly_extremes :
    (∃ crowd : List Unit, (crowd.length : Int) = Int64.maxValue.toInt ∧
      Arithmetic.checked.place? crowd.length Int64.minValue = some none ∧
      Arithmetic.checked.place? crowd.length (Int64.minValue + 1) = some (some 0)) ∧
    pick ["Save", "Open", "Quit"] (-3) = some "Save" := by
  refine ⟨?_, (position_denotes_exactly ["Save", "Open", "Quit"] (by decide) (-3)).2.2.trans rfl⟩
  obtain ⟨crowd, most⟩ : ∃ crowd : List Unit, crowd.length = 9223372036854775807 :=
    ⟨List.replicate _ (), List.length_replicate⟩
  have counts : (crowd.length : Int) = Int64.maxValue.toInt := by
    rw [most]
    rfl
  refine ⟨crowd, counts, ?_, ?_⟩
  · obtain ⟨exact, denotes, _⟩ := position_denotes_exactly crowd (by omega) Int64.minValue
    have nowhere : (place? crowd.length Int64.minValue).map Fin.val = none := by
      refine Option.eq_none_iff_forall_ne_some.2 fun place denoted => ?_
      have low := ((denotes place).1 denoted).1
      rw [most] at low
      exact absurd low (by decide)
    rw [exact, nowhere]
  · obtain ⟨exact, denotes, _⟩ := position_denotes_exactly crowd (by omega) (Int64.minValue + 1)
    rw [exact, (denotes 0).2 (by rw [most]; decide)]

end ElementSearch
