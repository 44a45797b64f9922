/-
# Tokens of a pattern without flags

A pattern that ignores nothing and switches no flags is read character by character. What
stands between braces in it has no closing brace inside, so a reader that only looks for
that brace ends in the same place.
-/

import ElementSearch.Proofs.Regex.Escape
import ElementSearch.Regex.Token

namespace ElementSearch.Regex

/-! ## Up to a closing brace -/

/-- Whether a reader that looks for a closing brace passes over a character. -/
def isInside (c : Char) : Bool := c != '\x7d'

/-- Dropping up to the brace and the brace itself leaves what follows it, whatever `tail` is
appended that holds no brace. -/
theorem drop_dropWhile_of_reads {source tail rest : List Char} (tailFree : '\x7d' ∉ tail)
    (inside : Reads isInside (source ++ tail) ('\x7d' :: rest)) :
    (source.dropWhile isInside).drop 1 ++ tail = rest := by
  induction source with
  | nil =>
      obtain ⟨body, whole, -⟩ := inside
      rw [List.nil_append] at whole
      rw [whole] at tailFree
      exact absurd (List.mem_append_right body List.mem_cons_self) tailFree
  | cons c source ih =>
      obtain ⟨body, whole, passes⟩ := inside
      cases body with
      | nil =>
          obtain ⟨rfl, rfl⟩ := List.cons.inj whole
          rfl
      | cons first body =>
          obtain ⟨rfl, later⟩ := List.cons.inj whole
          have ⟨here, others⟩ := List.forall_mem_cons.1 passes
          rw [List.dropWhile_cons, if_pos here]
          exact ih ⟨body, later, others⟩

section Counts

variable {ignoreCase : Bool} {pattern rest : List Char}

theorem reads_readDigits {fuel : Nat} {digits : List Char}
    (read : readDigits (.initial ignoreCase) fuel pattern = (digits, rest)) :
    Reads isInside pattern rest := by
  induction fuel generalizing pattern digits with
  | zero =>
      obtain ⟨-, rfl⟩ := Prod.mk.inj read
      exact .refl _
  | succ fuel ih =>
      cases pattern with
      | nil =>
          obtain ⟨-, rfl⟩ := Prod.mk.inj read
          exact .refl _
      | cons c later =>
          simp only [readDigits, skip_initial] at read
          split at read
          · next digit =>
              obtain ⟨-, rfl⟩ := Prod.mk.inj read
              have inside : isInside c = true := by
                rw [isInside, bne_iff_ne]
                rintro rfl
                cases digit
              exact (ih rfl).cons inside
          · obtain ⟨-, rfl⟩ := Prod.mk.inj read
            exact .refl _

theorem reads_blanks (pattern : List Char) :
    Reads isInside pattern (pattern.dropWhile Text.isBlank) := by
  refine reads_dropWhile Text.isBlank (fun c blank => ?_) pattern
  rw [isInside, bne_iff_ne]
  rintro rfl
  revert blank
  decide

theorem reads_readCount {count : Nat}
    (read : readCount (.initial ignoreCase) pattern = some (count, rest)) :
    Reads isInside pattern rest := by
  simp only [readCount] at read
  split at read
  · cases read
  · obtain ⟨-, rfl⟩ := Prod.mk.inj (Option.some.inj read)
    exact (reads_blanks pattern).trans ((reads_readDigits rfl).trans (reads_blanks _))

/-- A counted repetition holds no closing brace but the one that ends it. -/
theorem reads_readTimes {least : Nat} {most : Option Nat}
    (read : readTimes (.initial ignoreCase) pattern = some (least, most, rest)) :
    Reads isInside pattern ('\x7d' :: rest) := by
  simp only [readTimes, skip_initial, bind, pure, Option.bind_eq_some_iff] at read
  obtain ⟨⟨low, afterLow⟩, counted, read⟩ := read
  refine (reads_readCount counted).trans ?_
  dsimp only at read
  split at read
  · split at read
    · simp only [Option.bind_some, Option.some.injEq, Prod.mk.injEq] at read
      obtain ⟨-, -, rfl⟩ := read
      exact .cons rfl (.refl _)
    · simp only [Option.bind_eq_some_iff] at read
      obtain ⟨⟨high, afterHigh⟩, countedHigh, read⟩ := read
      dsimp only at read
      split at read
      · cases read
      · simp only [Option.bind_some] at read
        split at read
        · simp only [Option.some.injEq, Prod.mk.injEq] at read
          obtain ⟨-, -, rfl⟩ := read
          exact .cons rfl (reads_readCount countedHigh)
        · cases read
  · simp only [Option.bind_some] at read
    split at read
    · simp only [Option.some.injEq, Prod.mk.injEq] at read
      obtain ⟨-, -, rfl⟩ := read
      exact .refl _
    · cases read

end Counts

/-! ## Tokens -/

/-- A parenthesis without a question mark behind it starts a group and switches nothing. -/
theorem readGroup_initial (ignoreCase : Bool) {pattern : List Char}
    (plain : pattern.head? ≠ some '?') :
    readGroup (.initial ignoreCase) pattern =
      some (.groupStart none, .initial ignoreCase, pattern) := by
  cases pattern with
  | nil => rfl
  | cons c rest =>
      have other : c ≠ '?' := fun same => plain (by rw [same]; rfl)
      simp [readGroup, other]

section Tokenize

variable {names : PropertyNames} {ignoreCase : Bool} {fuel : Nat} {outer : List Flags}
  {rest : List Char}

theorem tokenize_group (plain : rest.head? ≠ some '?') :
    tokenize names (fuel + 1) (.initial ignoreCase) outer ('(' :: rest) =
      (tokenize names fuel (.initial ignoreCase) (.initial ignoreCase :: outer) rest).map
        (.groupStart none :: ·) := by
  have read := readGroup_initial ignoreCase plain
  simp [tokenize, read]

theorem tokenize_class :
    tokenize names (fuel + 1) (.initial ignoreCase) outer ('[' :: rest) =
      (readClass names (.initial ignoreCase) rest).bind fun (part, rest) =>
        (tokenize names fuel (.initial ignoreCase) outer rest).map
          (.item (.ofSet part.set part.depth) :: ·) := rfl

theorem tokenize_escape :
    tokenize names (fuel + 1) (.initial ignoreCase) outer ('\\' :: rest) =
      (readEscape names (.initial ignoreCase) rest).bind fun (primitive, rest) =>
        (tokenize names fuel (.initial ignoreCase) outer rest).map
          (.item (primitive.piece (.initial ignoreCase)) :: ·) := rfl

theorem tokenize_times :
    tokenize names (fuel + 1) (.initial ignoreCase) outer ('\x7b' :: rest) =
      (readTimes (.initial ignoreCase) rest).bind fun (least, most, rest) =>
        (tokenize names fuel (.initial ignoreCase) outer (dropShort rest)).map
          (.times least most :: ·) := rfl

/-- A character without a meaning of its own is an item. -/
theorem tokenize_literal {c : Char}
    (plain : ['(', ')', '|', '[', '?', '*', '+', '\x7b', '\\', '.', '^', '$'].contains c = false) :
    tokenize names (fuel + 1) (.initial ignoreCase) outer (c :: rest) =
      (tokenize names fuel (.initial ignoreCase) outer rest).map
        (.item (literalPiece (.initial ignoreCase) c) :: ·) := by
  simp only [List.contains_eq_mem, List.mem_cons, List.not_mem_nil, or_false,
    decide_eq_false_iff_not, not_or] at plain
  simp [tokenize, plain]

end Tokenize

end ElementSearch.Regex
