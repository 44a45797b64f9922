/-
# Lower case comes to rest

The characters of a text in lower case are in lower case themselves: no run of the table moves
what another run has moved. So where lowering the ASCII letters alone leads to the lower case of
some text, it has lowered every letter that there is.
-/

import ElementSearch.Text.Basic

namespace ElementSearch

/-! ## Runs of the table -/

namespace Unicode

namespace CaseRun

variable {run : CaseRun} {n : Nat}

theorem moves_iff :
    run.moves n = true ↔ (run.first ≤ n ∧ n ≤ run.last) ∧ (n - run.first) % run.step = 0 := by
  simp [moves]

/-- Where the run moves its first point. -/
def low (run : CaseRun) : Nat := (run.first + run.shift).toNat

/-- Where the run moves its last point. -/
def high (run : CaseRun) : Nat := (run.last + run.shift).toNat

/-- None of the points `low, low + step, …, high` is one of the run: they are before it or behind
it, or, both going by twos, between its points. -/
def clears (low high step : Nat) (run : CaseRun) : Bool :=
  Nat.blt high run.first || Nat.blt run.last low ||
    ((step == 2 || low == high) && run.step == 2 && (low + run.first) % 2 == 1)

theorem not_moves_of_clears {low high step : Nat} (clear : clears low high step run = true)
    (above : low ≤ n) (below : n ≤ high) (stepped : (n - low) % step = 0) :
    run.moves n = false := by
  apply Bool.eq_false_iff.2
  intro moved
  obtain ⟨⟨from_first, to_last⟩, even⟩ := moves_iff.1 moved
  simp only [clears, Bool.or_eq_true, Bool.and_eq_true, Nat.blt_eq, beq_iff_eq] at clear
  obtain (before | behind) | ⟨⟨apart | single, second⟩, odd⟩ := clear
  · omega
  · omega
  · rw [apart] at stepped
    rw [second] at even
    omega
  · rw [second] at even
    omega

/-- No run moves what this one has moved, and the capital I that becomes two characters is not
among it. -/
def settles (run : CaseRun) : Bool :=
  Nat.blt 0 run.low && (Nat.blt run.high 0x130 || Nat.blt 0x130 run.low) &&
    lowerRuns.all (clears run.low run.high run.step)

end CaseRun

theorem settles_of_mem {run : CaseRun} (member : run ∈ lowerRuns) : run.settles = true := by
  have all : lowerRuns.all CaseRun.settles = true := by decide +kernel
  exact List.all_eq_true.1 all run member

/-- Lowering leaves the code point alone. -/
def Rests (n : Nat) : Prop := n ≠ 0x130 ∧ ∀ run ∈ lowerRuns, run.moves n = false

instance (n : Nat) : Decidable (Rests n) := inferInstanceAs (Decidable (_ ∧ _))

theorem Rests.lowerPoint_eq {n : Nat} (rests : Rests n) : lowerPoint n = n := by
  have none : lowerRuns.find? (·.moves n) = none := by
    rw [List.find?_eq_none]
    intro run member moved
    rw [rests.2 run member] at moved
    cases moved
  rw [lowerPoint, none]

/-- What a run has moved rests. -/
theorem rests_of_moves {run : CaseRun} {n : Nat} (member : run ∈ lowerRuns)
    (moved : run.moves n = true) : Rests (n + run.shift).toNat := by
  have settled := settles_of_mem member
  simp only [CaseRun.settles, Bool.and_eq_true, Bool.or_eq_true, Nat.blt_eq,
    List.all_eq_true] at settled
  obtain ⟨⟨positive, apart⟩, clear⟩ := settled
  obtain ⟨⟨from_first, to_last⟩, even⟩ := CaseRun.moves_iff.1 moved
  unfold CaseRun.low at positive apart clear
  unfold CaseRun.high at apart clear
  -- A run moves all its points by the same distance, so it keeps their steps.
  have offset : (n + run.shift).toNat - (run.first + run.shift).toNat = n - run.first := by omega
  constructor
  · omega
  · intro other listed
    apply CaseRun.not_moves_of_clears (clear other listed)
    · omega
    · omega
    · rw [offset]
      exact even

theorem rests_lowerPoint {n : Nat} (single : n ≠ 0x130) : Rests (lowerPoint n) := by
  unfold lowerPoint
  cases found : lowerRuns.find? (·.moves n) with
  | none =>
      refine ⟨single, fun run member => ?_⟩
      exact Bool.eq_false_iff.2 (List.find?_eq_none.1 found run member)
  | some run =>
      have moved := List.find?_some found
      exact rests_of_moves (List.mem_of_find?_eq_some found) moved

/-! ## Characters -/

/-- The table moves the capital letters of ASCII and nothing else below `0x80`. -/
theorem lowerPoint_of_ascii {n : Nat} (ascii : n < 0x80) :
    lowerPoint n = if 0x41 ≤ n ∧ n ≤ 0x5A then n + 32 else n := by
  have others : ∀ run ∈ lowerRuns.tail, run.moves n = false := by
    intro run member
    have beyond : (lowerRuns.tail.all fun run => Nat.ble 0x80 run.first) = true := by
      decide +kernel
    have later := Nat.le_of_ble_eq_true (List.all_eq_true.1 beyond run member)
    apply Bool.eq_false_iff.2
    intro moved
    have inside := (CaseRun.moves_iff.1 moved).1.1
    omega
  have rest : lowerRuns.tail.find? (·.moves n) = none := by
    rw [List.find?_eq_none]
    intro run member
    exact Bool.eq_false_iff.1 (others run member)
  have table : lowerRuns = ⟨0x41, 0x5A, 1, 32⟩ :: lowerRuns.tail := rfl
  rw [lowerPoint, table, List.find?_cons, rest]
  by_cases capital : 0x41 ≤ n ∧ n ≤ 0x5A
  · have moved : CaseRun.moves ⟨0x41, 0x5A, 1, 32⟩ n = true :=
      CaseRun.moves_iff.2 ⟨capital, Nat.mod_one _⟩
    rw [moved, if_pos capital]
    rfl
  · have kept : CaseRun.moves ⟨0x41, 0x5A, 1, 32⟩ n = false :=
      Bool.eq_false_iff.2 (mt (fun moved => (CaseRun.moves_iff.1 moved).1) capital)
    rw [kept, if_neg capital]

/-- Answering ASCII without the table gives what the table gives. -/
theorem lowerChar_eq_ofNat_lowerPoint (c : Char) :
    lowerChar c = Char.ofNat (lowerPoint c.toNat) := by
  unfold lowerChar
  by_cases ascii : c.toNat < 0x80
  · rw [if_pos ascii, lowerPoint_of_ascii ascii]
    by_cases capital : 0x41 ≤ c.toNat ∧ c.toNat ≤ 0x5A
    · have letter : 'A' ≤ c ∧ c ≤ 'Z' := capital
      rw [if_pos letter, if_pos capital]
    · have other : ¬ ('A' ≤ c ∧ c ≤ 'Z') := capital
      rw [if_neg other, if_neg capital, Char.ofNat_toNat]
  · rw [if_neg ascii]

/-- A code point that rests stands for a character that does. -/
theorem Rests.ofNat {n : Nat} (rests : Rests n) : Rests (Char.ofNat n).toNat := by
  by_cases valid : n.isValidChar
  · have same : Char.ofNat n = Char.ofNatAux n valid := dif_pos valid
    rw [same]
    exact rests
  · have zero : Rests 0 := by decide +kernel
    have same : Char.ofNat n = '\x00' := dif_neg valid
    rw [same]
    exact zero

theorem rests_lowerChar {c : Char} (single : c ≠ '\u0130') : Rests (lowerChar c).toNat := by
  rw [lowerChar_eq_ofNat_lowerPoint]
  apply Rests.ofNat
  apply rests_lowerPoint
  intro dotted
  apply single
  rw [← Char.ofNat_toNat c, dotted]

theorem Rests.lowerChar_eq {c : Char} (rests : Rests c.toNat) : lowerChar c = c := by
  rw [lowerChar_eq_ofNat_lowerPoint, rests.lowerPoint_eq, Char.ofNat_toNat]

/-- A character is lowered with the ASCII letters if that is enough to bring it to rest. -/
theorem lowerChar_eq_toLower {c : Char} (rests : Rests c.toLower.toNat) :
    lowerChar c = c.toLower := by
  by_cases capital : 'A'.val ≤ c.val ∧ c.val ≤ 'Z'.val
  · have letters : ∀ place < 26,
        lowerChar (Char.ofNat (65 + place)) = (Char.ofNat (65 + place)).toLower := by decide
    have from65 : 65 ≤ c.toNat := capital.1
    have to90 : c.toNat ≤ 90 := capital.2
    have lowered := letters (c.toNat - 65) (by omega)
    rw [Nat.add_sub_cancel' from65, Char.ofNat_toNat] at lowered
    exact lowered
  · have kept : c.toLower = c := dif_neg capital
    rw [kept] at rests ⊢
    exact rests.lowerChar_eq

end Unicode

/-! ## Texts -/

namespace Text

open Unicode

/-- The text with its ASCII letters in lower case. -/
def lowerAscii (text : String) : String := String.ofList (text.toList.map Char.toLower)

theorem rests_of_mem_lowercaseFrom {before text : List Char} {c : Char}
    (member : c ∈ lowercaseFrom before text) : Rests c.toNat := by
  induction text generalizing before with
  | nil => cases member
  | cons first rest ih =>
      rw [lowercaseFrom, List.mem_append] at member
      obtain here | later := member
      · split at here
        · have sigmas : Rests '\u03C2'.toNat ∧ Rests '\u03C3'.toNat := by decide +kernel
          split at here
          · rw [List.mem_singleton.1 here]
            exact sigmas.1
          · rw [List.mem_singleton.1 here]
            exact sigmas.2
        · split at here
          · have pair : Rests 'i'.toNat ∧ Rests '\u0307'.toNat := by decide +kernel
            obtain letter | dot := List.mem_cons.1 here
            · rw [letter]
              exact pair.1
            · rw [List.mem_singleton.1 dot]
              exact pair.2
          · next single =>
              rw [List.mem_singleton.1 here]
              exact rests_lowerChar (mt beq_iff_eq.2 single)
      · exact ih later

/-- Where lowering the ASCII letters brings all characters to rest, it is lower case. -/
theorem lowercaseFrom_eq_map {text : List Char} (before : List Char)
    (rests : ∀ c ∈ text.map Char.toLower, Rests c.toNat) :
    lowercaseFrom before text = text.map Char.toLower := by
  induction text generalizing before with
  | nil => rfl
  | cons c text ih =>
      rw [List.map_cons, List.forall_mem_cons] at rests
      -- Neither the sigma nor the dotted I is an ASCII letter, and neither rests.
      have sigma : c ≠ '\u03A3' := by
        rintro rfl
        exact absurd rests.1 (by decide +kernel)
      have dotted : c ≠ '\u0130' := by
        rintro rfl
        exact absurd rests.1 (by decide +kernel)
      rw [lowercaseFrom, if_neg (mt beq_iff_eq.1 sigma), if_neg (mt beq_iff_eq.1 dotted),
        lowerChar_eq_toLower rests.1, ih (c :: before) rests.2]
      rfl

/-- A text whose ASCII letters only have to be lowered to reach the lower case of another text has
no other letters to lower. -/
theorem lowercase_of_lowerAscii_eq {text other : String}
    (same : lowerAscii text = lowercase other) : lowercase text = lowerAscii text := by
  have chars : text.toList.map Char.toLower = lowercaseFrom [] other.toList :=
    String.ofList_injective same
  have rests : ∀ c ∈ text.toList.map Char.toLower, Rests c.toNat := by
    intro c member
    rw [chars] at member
    exact rests_of_mem_lowercaseFrom member
  rw [lowercase, lowercaseFrom_eq_map [] rests]
  rfl

end Text

end ElementSearch
