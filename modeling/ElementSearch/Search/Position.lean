/-
# Positions in a list of matches

A position counts from the start, or from the end if it is negative. It is a 64-bit
number, and so is the arithmetic. The way from a position to a place is written for any such
arithmetic; the one that is used wraps around.
-/

namespace ElementSearch

/-- Arithmetic on 64-bit numbers, in which a result may be too large or too small for its type.
What comes of it then is left to `m`. -/
structure Arithmetic (m : Type → Type) where
  /-- A number without a sign as one with a sign. -/
  signed : Nat → m Int64
  sum : Int64 → Int64 → m Int64
  /-- A number with a sign as one without a sign. -/
  unsigned : Int64 → m Nat

namespace Arithmetic

section Places

variable {m : Type → Type} [Monad m] (arithmetic : Arithmetic m)

/-- A position among `length` matches, counted from the start. -/
def fromStart (length position : Int64) : m Int64 :=
  if position < 0 then arithmetic.sum length position else return position

/-- The place that a position denotes among `count` matches. -/
def place? (count : Nat) (position : Int64) : m (Option Nat) := do
  let length ← arithmetic.signed count
  let place ← arithmetic.fromStart length position
  if place < 0 ∨ length ≤ place then return none
  else return some (← arithmetic.unsigned place)

end Places

/-- Arithmetic in which results wrap around. -/
def wrapping : Arithmetic Id where
  signed count := return Int64.ofNat count
  sum first second := return first + second
  unsigned number := return number.toUInt64.toNat

theorem toInt_ofNat_le (count : Nat) : (Int64.ofNat count).toInt ≤ count := by
  have size : Int64.size = 18446744073709551616 := rfl
  rw [Int64.toInt_ofNat', Int.bmod_def, size]
  split <;> omega

/-- Whatever wraps around on the way, a place is the place of a match. -/
theorem lt_of_run_wrapping_place? {count place : Nat} {position : Int64}
    (denoted : (wrapping.place? count position).run = some place) : place < count := by
  rw [place?, Id.run_bind, Id.run_bind] at denoted
  generalize (wrapping.fromStart (wrapping.signed count).run position).run = start at denoted
  have length : ((wrapping.signed count).run).toInt ≤ count := toInt_ofNat_le count
  split at denoted
  · cases denoted
  · next inside =>
      obtain rfl : start.toUInt64.toNat = place := Option.some.inj denoted
      obtain ⟨least, most⟩ := not_or.1 inside
      rw [Int64.not_le, Int64.lt_iff_toInt_lt] at most
      rw [Int64.toNat_toUInt64_of_le (Int64.not_lt.1 least), Int64.toNatClampNeg]
      rw [Int64.not_lt, Int64.le_iff_toInt_le, Int64.toInt_zero] at least
      omega

end Arithmetic

/-- The place that a position denotes among `count` matches. -/
def place? (count : Nat) (position : Int64) : Option (Fin count) :=
  (Arithmetic.wrapping.place? count position).run.pmap Fin.mk
    fun _ => Arithmetic.lt_of_run_wrapping_place?

variable {η : Type}

/-- Take out the member at a place. It changes places with the last one, which is then taken
off. -/
def swapRemove (members : Array η) (place : Fin members.size) : η × Array η :=
  have last : members.size - 1 < members.size := Nat.sub_one_lt_of_lt place.isLt
  let exchanged := members.swap place (members.size - 1)
  (exchanged.back (by rw [Array.size_swap]; exact place.pos), exchanged.pop)

/-- The match that a position denotes, taken out of the list. -/
def pick (matched : List η) (position : Int64) : Option η :=
  (place? matched.length position).map fun place => (swapRemove matched.toArray place).1

theorem pick_nil (position : Int64) : pick ([] : List η) position = none :=
  Option.map_eq_none_iff.2 <| Option.eq_none_iff_forall_ne_some.2 fun place => place.elim0

end ElementSearch
