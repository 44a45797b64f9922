/-
# Strings and integers read back

The reader takes a written string or integer off the front of a text, and nothing more. A string
carries its own end; an integer ends where no digit, point or exponent follows, which is the case
wherever a value can end.
-/

import ElementSearch.Json.Reader
import ElementSearch.Json.Writer

namespace ElementSearch.Json

/-- What can follow a value: nothing, or what stands behind it in an array or an object. -/
inductive Follows : List Char → Prop
  | nothing : Follows []
  | comma (rest : List Char) : Follows (',' :: rest)
  | bracket (rest : List Char) : Follows (']' :: rest)
  | brace (rest : List Char) : Follows ('\x7d' :: rest)

/-! ## Strings -/

theorem hexDigit?_hexDigit : ∀ n < 16, Text.hexDigit? (hexDigit n) = some n := by decide

/-- A control character is read back from its number. -/
theorem readUnits_hexDigit {c : Char} (control : c.toNat < 0x20) (rest : List Char) :
    readUnits ('0' :: '0' :: hexDigit (c.toNat / 16) :: hexDigit (c.toNat % 16) :: rest) =
      some (c, rest) := by
  have zero : Text.hexDigit? '0' = some 0 := by decide
  have high := hexDigit?_hexDigit (c.toNat / 16) (by omega)
  have low := hexDigit?_hexDigit (c.toNat % 16) (by omega)
  have unit : readUnit ('0' :: '0' :: hexDigit (c.toNat / 16) :: hexDigit (c.toNat % 16) :: rest) =
      some (c.toNat, rest) := by
    simp only [readUnit, zero, high, low, Option.bind_eq_bind, Option.bind_some]
    congr 2
    omega
  simp only [readUnits, unit, Option.bind_eq_bind, Option.bind_some]
  rw [if_neg (by omega), if_neg (by omega), Char.ofNat_toNat]

/-- A character is written as itself, or with what denotes it behind a backslash. -/
theorem escapeChar_cases (c : Char) :
    (escapeChar c = [c] ∧ (c == '"') = false ∧ (c == '\\') = false ∧ ¬ c.toNat < 0x20) ∨
      ∃ escape, escapeChar c = '\\' :: escape ∧
        ∀ rest, readEscape (escape ++ rest) = some (c, rest) := by
  unfold escapeChar
  -- Seven characters have an escape of their own.
  iterate 7
    split
    · next same => exact .inr ⟨_, rfl, fun rest => by rw [eq_of_beq same]; rfl⟩
  split
  · next control => exact .inr ⟨_, rfl, readUnits_hexDigit control⟩
  · next noQuote noBackslash _ _ _ _ _ noControl =>
      exact .inl ⟨rfl, Bool.eq_false_iff.2 noQuote, Bool.eq_false_iff.2 noBackslash, noControl⟩

/-- One character is read back, whatever it is. -/
theorem readChars_escapeChar (fuel : Nat) (c : Char) (rest : List Char) :
    readChars (fuel + 1) (escapeChar c ++ rest) =
      (readChars fuel rest).map fun (chars, rest) => (c :: chars, rest) := by
  rcases escapeChar_cases c with ⟨plain, noQuote, noBackslash, noControl⟩ | ⟨escape, written, read⟩
  · rw [plain, List.singleton_append]
    simp only [readChars, noQuote, noBackslash, if_neg noControl, Bool.false_eq_true, if_false]
  · have noQuote : ('\\' == '"') = false := by decide
    rw [written, List.cons_append]
    simp only [readChars, noQuote, BEq.rfl, read, Bool.false_eq_true, if_false, if_true,
      Option.bind_some]

/-- All characters are read back, up to the closing quote. -/
theorem readChars_escaped {chars : List Char} {fuel : Nat} (enough : chars.length < fuel)
    (rest : List Char) :
    readChars fuel (chars.flatMap escapeChar ++ '"' :: rest) = some (chars, rest) := by
  induction chars generalizing fuel with
  | nil =>
      obtain ⟨fuel, rfl⟩ := Nat.exists_eq_add_of_lt enough
      simp [readChars]
  | cons c chars ih =>
      cases fuel with
      | zero => cases enough
      | succ fuel =>
          rw [List.flatMap_cons, List.append_assoc, readChars_escapeChar,
            ih (Nat.lt_of_succ_lt_succ enough)]
          rfl

theorem length_le_flatMap_escapeChar (chars : List Char) :
    chars.length ≤ (chars.flatMap escapeChar).length := by
  induction chars with
  | nil => exact Nat.le_refl 0
  | cons c chars ih =>
      have one : 1 ≤ (escapeChar c).length := by
        rcases escapeChar_cases c with ⟨plain, _⟩ | ⟨escape, written, _⟩
        · rw [plain]; exact Nat.le_refl 1
        · rw [written]; exact Nat.succ_le_succ (Nat.zero_le _)
      rw [List.flatMap_cons, List.length_append, List.length_cons]
      omega

/-- A string is read back behind its opening quote. -/
theorem exists_writeString_append (text : String) (rest : List Char) :
    ∃ behind, writeString text ++ rest = '"' :: behind ∧ readString behind = some (text, rest) := by
  refine ⟨text.toList.flatMap escapeChar ++ '"' :: rest, ?_, ?_⟩
  · rw [writeString, List.cons_append, List.append_assoc]
    rfl
  · have enough : text.toList.length <
        (text.toList.flatMap escapeChar ++ '"' :: rest).length + 1 := by
      have := length_le_flatMap_escapeChar text.toList
      rw [List.length_append]
      omega
    rw [readString, readChars_escaped enough]
    simp only [Option.map_some, String.ofList_toList]

/-! ## Integers -/

/-- Only zero begins with the digit zero. -/
theorem eq_zero_of_head?_toDigits {n : Nat} (zero : (Nat.toDigits 10 n).head? = some '0') :
    n = 0 := by
  induction n using Nat.strongRecOn with
  | ind n ih =>
      by_cases small : n < 10
      · have single : ∀ d < 10, Nat.digitChar d = '0' → d = 0 := by decide
        rw [Nat.toDigits_of_lt_base small, List.head?_cons, Option.some.injEq] at zero
        exact single n small zero
      · rw [Nat.toDigits_of_base_le (by decide) (Nat.le_of_not_lt small), List.head?_append,
          Option.or_eq_some_iff] at zero
        rcases zero with zero | ⟨missing, _⟩
        · have := ih (n / 10) (by omega) zero
          omega
        · have some := Nat.length_toDigits_pos (b := 10) (n := n / 10)
          rw [List.head?_eq_none_iff.1 missing] at some
          cases some

/-- The digits of a number are taken as a whole, and nothing behind them. -/
theorem takeWhile_isDigit_toDigits (n : Nat) {rest : List Char} (follows : Follows rest) :
    (Nat.toDigits 10 n ++ rest).takeWhile Char.isDigit = Nat.toDigits 10 n ∧
      (Nat.toDigits 10 n ++ rest).dropWhile Char.isDigit = rest := by
  have digits : ∀ c ∈ Nat.toDigits 10 n, c.isDigit = true := fun c member =>
    Nat.isDigit_of_mem_toDigits (by decide) (by decide) member
  rw [List.takeWhile_append_of_pos digits, List.dropWhile_append_of_pos digits]
  have ended : rest.takeWhile Char.isDigit = [] ∧ rest.dropWhile Char.isDigit = rest := by
    cases follows <;> exact ⟨rfl, rfl⟩
  rw [ended.1, ended.2, List.append_nil]
  exact ⟨rfl, rfl⟩

theorem readFraction_of_follows {rest : List Char} (follows : Follows rest) :
    readFraction rest = some ([], rest) := by
  cases follows <;> rfl

theorem readExponent_of_follows {rest : List Char} (follows : Follows rest) :
    readExponent rest = some (none, rest) := by
  cases follows <;> rfl

theorem digitsValue_toDigits (n : Nat) : digitsValue (Nat.toDigits 10 n) = n :=
  Nat.ofDigitChars_toDigits (by decide) (by decide)

/-- A number is written with digits behind its sign. -/
theorem write_int (n : Int) :
    (int n).write = (if n < 0 then ['-'] else []) ++ Nat.toDigits 10 n.natAbs := by
  rw [write]
  cases n with
  | ofNat n => exact Nat.toList_repr
  | negSucc n =>
      change ("-" ++ (n + 1).repr).toList = _
      rw [String.toList_append, Nat.toList_repr, if_pos (Int.negSucc_lt_zero n)]
      rfl

/-- A number without its sign begins with a digit. -/
theorem exists_toDigits_eq_cons (n : Nat) :
    ∃ first later, Nat.toDigits 10 n = first :: later ∧ first.isDigit = true := by
  cases digits : Nat.toDigits 10 n with
  | nil =>
      have some := Nat.length_toDigits_pos (b := 10) (n := n)
      rw [digits] at some
      cases some
  | cons first later =>
      have member : first ∈ Nat.toDigits 10 n := digits ▸ List.mem_cons_self
      exact ⟨first, later, rfl, Nat.isDigit_of_mem_toDigits (by decide) (by decide) member⟩

/-- There are digits, and the first is zero only if it is alone. -/
theorem isWhole_toDigits (n : Nat) :
    ((Nat.toDigits 10 n).isEmpty ||
      ((Nat.toDigits 10 n).head? == some '0' && (Nat.toDigits 10 n).length != 1)) = false := by
  rw [Bool.or_eq_false_iff, Bool.and_eq_false_imp]
  constructor
  · obtain ⟨first, later, digits, _⟩ := exists_toDigits_eq_cons n
    rw [digits]
    rfl
  · intro zero
    rw [eq_zero_of_head?_toDigits (eq_of_beq zero)]
    rfl

/-- An integer is read back. -/
theorem readNumber_write_int {n : Int} (fits : fitsDouble n.natAbs 0 = true) {rest : List Char}
    (follows : Follows rest) : readNumber ((int n).write ++ rest) = some (int n, rest) := by
  obtain ⟨taken, left⟩ := takeWhile_isDigit_toDigits n.natAbs follows
  obtain ⟨first, later, digits, isDigit⟩ := exists_toDigits_eq_cons n.natAbs
  unfold readNumber
  split
  next negative unsigned sign =>
  have signed : negative = decide (n < 0) ∧ unsigned = Nat.toDigits 10 n.natAbs ++ rest := by
    rw [write_int] at sign
    by_cases below : n < 0
    · rw [if_pos below] at sign
      obtain ⟨rfl, rfl⟩ := Prod.mk.inj sign
      exact ⟨(decide_eq_true below).symm, rfl⟩
    · rw [if_neg below, List.nil_append] at sign
      split at sign
      · next minus =>
          rw [digits, List.cons_append] at minus
          rw [(List.cons.inj minus).1] at isDigit
          exact absurd isDigit (by decide)
      · obtain ⟨rfl, rfl⟩ := Prod.mk.inj sign
        exact ⟨(decide_eq_false below).symm, rfl⟩
  obtain ⟨rfl, rfl⟩ := signed
  have noMinusZero : (decide (n < 0) && n.natAbs == 0) = false := by
    rw [Bool.and_eq_false_imp]
    intro below
    have := of_decide_eq_true below
    exact beq_false_of_ne (by omega)
  have value : (if decide (n < 0) = true then -(n.natAbs : Int) else n.natAbs) = n := by
    split
    · next below =>
        have := of_decide_eq_true below
        omega
    · next above =>
        have := of_decide_eq_false (Bool.eq_false_iff.2 above)
        omega
  simp only [taken, left, isWhole_toDigits, readFraction_of_follows follows, Option.bind_eq_bind,
    Option.bind_some, readExponent_of_follows follows, List.append_nil, digitsValue_toDigits,
    Option.getD_none, List.length_nil, Int.natCast_zero, Int.sub_zero, fits, List.isEmpty_nil,
    Option.isNone_none, noMinusZero, Bool.not_false, Bool.and_self, if_true, value,
    Bool.false_eq_true, if_false]

/-- A number with fewer than three hundred digits is not too large. -/
theorem fitsDouble_of_length_lt {n : Nat} (short : (Nat.toDigits 10 n).length < 300) :
    fitsDouble n 0 = true := by
  have below : (0 : Int) + (Nat.toDigits 10 n).length < 300 := by omega
  unfold fitsDouble
  rw [if_pos (by rw [decide_eq_true below, Bool.or_true])]

end ElementSearch.Json
