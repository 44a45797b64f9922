/-
# Where a class ends

The scan for atoms ends a bracketed class by counting brackets. Reading the class ends it at
the same place, with two exceptions: a closing bracket that comes first in an inner class
belongs to it, and an opening bracket may be the end of a range. `plainBrackets` follows the
reading and says that neither is met; the two then agree, whatever the nesting, the
negations, the operators and the escapes.
-/

import ElementSearch.Proofs.Regex.Escape
import ElementSearch.Query.LiteralEdges

namespace ElementSearch.LiteralEdges

open Regex

/-! ## Counting brackets -/

theorem skipNested_uncounted {c : Char} (uncounted : isUncounted c = true) (depth : Nat)
    (rest : List Char) : skipNested depth (c :: rest) = skipNested depth rest := by
  simp only [isUncounted, Bool.and_eq_true, bne_iff_ne] at uncounted
  obtain ⟨⟨opening, closing⟩, backslash⟩ := uncounted
  cases depth <;> simp [skipNested, closing, backslash]

theorem skipNested_of_reads {pattern rest : List Char} (reads : Reads isUncounted pattern rest)
    (depth : Nat) : skipNested depth pattern = skipNested depth rest := by
  obtain ⟨body, rfl, uncounted⟩ := reads
  induction body with
  | nil => rfl
  | cons c body ih =>
      have ⟨here, later⟩ := List.forall_mem_cons.1 uncounted
      rw [List.cons_append, skipNested_uncounted here]
      exact ih later

theorem skipNested_escape (depth : Nat) (c : Char) (rest : List Char) :
    skipNested depth ('\\' :: c :: rest) = skipNested depth rest := by
  cases depth <;> rfl

theorem skipNested_open (depth : Nat) (rest : List Char) :
    skipNested depth ('[' :: rest) = skipNested (depth + 1) rest := by
  cases depth <;> rfl

/-- What stands behind a class does not change where it ends. -/
theorem skipNested_append {depth : Nat} {source rest : List Char} (tail : List Char)
    (skipped : skipNested depth source = some rest) :
    skipNested depth (source ++ tail) = some (rest ++ tail) := by
  induction depth, source using skipNested.induct with
  | case1 | case2 => cases skipped
  | case3 depth c source ih =>
      rw [skipNested_escape] at skipped
      exact (skipNested_escape depth c (source ++ tail)).trans (ih skipped)
  | case4 depth source ih =>
      rw [skipNested_open] at skipped
      exact (skipNested_open depth (source ++ tail)).trans (ih skipped)
  | case5 source =>
      obtain rfl := Option.some.inj skipped
      rfl
  | case6 depth source ih => exact ih skipped
  | case7 depth c source noEnd noEscape opening closing closingInner ih =>
      have uncounted : isUncounted c = true := by
        simp only [isUncounted, Bool.and_eq_true, bne_iff_ne]
        refine ⟨⟨opening, fun same => ?_⟩, fun same => ?_⟩
        · cases depth with
          | zero => exact closing rfl same
          | succ depth => exact closingInner depth rfl same
        · cases source with
          | nil => exact noEnd same rfl
          | cons next source => exact noEscape next source same rfl
      rw [skipNested_uncounted uncounted] at skipped
      exact (skipNested_uncounted uncounted depth (source ++ tail)).trans (ih skipped)

/-- What follows a class whose caret is behind. -/
def skipStarted : List Char → Option (List Char)
  | ']' :: rest => skipNested 0 rest
  | source => skipNested 0 source

theorem skipBracket_eq (source : List Char) :
    skipBracket source = skipStarted (dropCaret source) := rfl

theorem skipBracket_append {source rest : List Char} (tail : List Char)
    (skipped : skipBracket source = some rest) :
    skipBracket (source ++ tail) = some (rest ++ tail) := by
  have started {source : List Char}
      (skipped : skipStarted source = some rest) :
      skipStarted (source ++ tail) = some (rest ++ tail) := by
    unfold skipStarted at skipped
    split at skipped
    · exact skipNested_append tail skipped
    · next other =>
        cases source with
        | nil => cases skipped
        | cons c source =>
            have closing : c ≠ ']' := fun same => other source (by rw [same])
            have whole := skipNested_append tail skipped
            simpa [skipStarted, closing] using whole
  rw [skipBracket_eq] at skipped ⊢
  cases source with
  | nil => cases skipped
  | cons c source =>
      by_cases caret : c = '^'
      · subst caret
        exact started skipped
      · have kept (later : List Char) : dropCaret (c :: later) = c :: later := by
          simp [dropCaret, caret]
        rw [kept] at skipped
        rw [List.cons_append, kept]
        exact started skipped

/-! ## Reading a class -/

/-- Whether what follows an inner opening bracket is a closing one, perhaps after a caret. -/
def beginsClosed (pattern : List Char) : Bool := (dropCaret pattern).head? == some ']'

/-- Whether an item is a range that ends in an opening bracket. -/
def endsInBracket (names : PropertyNames) (pattern : List Char) : Bool :=
  match readPrimitive names (.initial false) pattern with
  | some (_, '-' :: '[' :: _) => true
  | _ => false

/-- Whether no inner class begins with a closing bracket and no range ends in an opening one, up
to the end of the outermost of `depth + 1` open classes. -/
def plainBrackets (names : PropertyNames) : Nat → Nat → List Char → Bool
  | 0, _, _ => true
  | fuel + 1, depth, pattern =>
      match pattern with
      | [] => true
      | '[' :: rest =>
          match readAsciiClass (.initial false) rest with
          | some found => found.all fun (_, rest) => plainBrackets names fuel depth rest
          | none => !beginsClosed rest &&
              (openBracket (.initial false) rest).all fun (_, rest) =>
                plainBrackets names fuel (depth + 1) rest
      | ']' :: rest => depth == 0 || plainBrackets names fuel (depth - 1) rest
      | '&' :: '&' :: rest | '-' :: '-' :: rest | '~' :: '~' :: rest =>
          plainBrackets names fuel depth rest
      | pattern => !endsInBracket names pattern &&
          (readItem names (.initial false) pattern).all fun (_, rest) =>
            plainBrackets names fuel depth rest

/-- Whether the brackets of a class are plain, given what follows its opening bracket. -/
def plainClass (names : PropertyNames) (pattern : List Char) : Bool :=
  (openBracket (.initial false) pattern).all fun (_, rest) =>
    plainBrackets names (rest.length + 1) 0 rest

/-- Hyphens that come first, and that the bracket has items if there are any. -/
theorem readHyphens_initial {fuel : Nat} {bracket opened : OpenBracket} {pattern rest : List Char}
    (read : readHyphens (.initial false) fuel bracket pattern = (opened, rest)) :
    Reads isUncounted pattern rest ∧ bracket.count ≤ opened.count ∧
      (opened.count = 0 → rest = pattern) := by
  induction fuel generalizing bracket pattern with
  | zero =>
      obtain ⟨rfl, rfl⟩ := Prod.mk.inj read
      exact ⟨.refl _, Nat.le_refl _, fun _ => rfl⟩
  | succ fuel ih =>
      by_cases hyphen : pattern.head? = some '-'
      · obtain ⟨later, rfl⟩ := List.head?_eq_some_iff.1 hyphen
        obtain ⟨reads, more, -⟩ := ih read
        refine ⟨reads.cons rfl, Nat.le_of_succ_le more, fun none => ?_⟩
        rw [none] at more
        exact absurd more (Nat.not_succ_le_zero _)
      · have stopped : (bracket, pattern) = (opened, rest) := by
          cases pattern with
          | nil => exact read
          | cons c later =>
              have other : c ≠ '-' := fun same => hyphen (by rw [same]; rfl)
              simpa [readHyphens, other] using read
        obtain ⟨rfl, rfl⟩ := Prod.mk.inj stopped
        exact ⟨.refl _, Nat.le_refl _, fun _ => rfl⟩

/-- The start of a class behind its caret: a closing bracket that comes first, or nothing that
counts. -/
theorem openNegated_initial {negated : Bool} {pattern rest : List Char} {bracket : OpenBracket}
    (opened : openNegated (.initial false) negated pattern = some (bracket, rest)) :
    pattern = ']' :: rest ∨
      (pattern.head? == some ']') = false ∧ Reads isUncounted pattern rest := by
  obtain ⟨⟨begun, later⟩, hyphens⟩ :
      ∃ read, readHyphens (.initial false) pattern.length (.start negated) pattern = read := ⟨_, rfl⟩
  obtain ⟨reads, -, kept⟩ := readHyphens_initial hyphens
  simp only [openNegated, hyphens, skip_initial] at opened
  split at opened
  · cases opened
  · next count =>
      split at opened
      · cases opened
      · obtain ⟨-, rfl⟩ := Prod.mk.inj (Option.some.inj opened)
        exact .inl (kept count).symm
  · next other =>
      obtain ⟨-, rfl⟩ := Prod.mk.inj (Option.some.inj opened)
      refine .inr ⟨?_, reads⟩
      by_contra closed
      rw [Bool.not_eq_false, beq_iff_eq] at closed
      obtain ⟨inside, rfl⟩ := List.head?_eq_some_iff.1 closed
      obtain ⟨rfl, rfl⟩ := Prod.mk.inj hyphens
      exact other inside rfl rfl

/-- The start of a class: a closing bracket that comes first, or nothing that counts. -/
theorem openBracket_initial {pattern rest : List Char} {bracket : OpenBracket}
    (opened : openBracket (.initial false) pattern = some (bracket, rest)) :
    dropCaret pattern = ']' :: rest ∨
      beginsClosed pattern = false ∧ Reads isUncounted (dropCaret pattern) rest := by
  cases pattern with
  | nil => cases opened
  | cons c later =>
      by_cases caret : c = '^'
      · subst caret
        exact openNegated_initial opened
      · have kept : dropCaret (c :: later) = c :: later := by simp [dropCaret, caret]
        rw [beginsClosed, kept]
        have plain : openNegated (.initial false) false (c :: later) = some (bracket, rest) := by
          simpa [openBracket, caret] using opened
        exact openNegated_initial plain

theorem skipStarted_of_openBracket {pattern rest : List Char} {bracket : OpenBracket}
    (opened : openBracket (.initial false) pattern = some (bracket, rest)) :
    skipStarted (dropCaret pattern) = skipNested 0 rest := by
  rcases openBracket_initial opened with closed | ⟨plain, reads⟩
  · rw [closed]
    rfl
  · rw [← skipNested_of_reads reads]
    unfold skipStarted
    split
    · next closed =>
        rw [beginsClosed, closed] at plain
        cases plain
    · rfl

theorem skipNested_of_openBracket {pattern rest : List Char} {bracket : OpenBracket}
    (opened : openBracket (.initial false) pattern = some (bracket, rest))
    (plain : beginsClosed pattern = false) (depth : Nat) :
    skipNested depth pattern = skipNested depth rest := by
  rcases openBracket_initial opened with closed | ⟨-, reads⟩
  · rw [beginsClosed, closed] at plain
    cases plain
  · rw [← skipNested_of_reads reads]
    unfold dropCaret
    split
    · exact skipNested_uncounted rfl depth _
    · rfl

/-- The name of an ASCII class has no brackets. -/
theorem reads_readAsciiName {negated : Bool} {pattern rest : List Char} {set : CharSet}
    (read : readAsciiName (.initial false) negated pattern = some (some (set, rest))) :
    Reads isUncounted pattern (']' :: rest) := by
  unfold readAsciiName at read
  split at read
  · next after closed =>
      obtain ⟨found, named, same⟩ := Option.map_eq_some_iff.1 read
      simp only [Flags.initial, Bool.not_true, Bool.and_false, Bool.false_eq_true, if_false] at same
      obtain ⟨-, rfl⟩ := Prod.mk.inj (Option.some.inj same)
      have plain : IsPlainName (String.ofList (pattern.takeWhile (· != ':'))) := by
        unfold asciiClass? at named
        split at named
        all_goals first | (next same => rw [same]; decide) | cases named
      have plain := isUncounted_of_mem_of_isPlainName plain
      rw [String.toList_ofList] at plain
      rw [← List.takeWhile_append_dropWhile (p := (· != ':')) (l := pattern), closed]
      exact (Reads.append plain).trans (.cons rfl (.refl _))
  · cases read

theorem reads_readAsciiClass {pattern rest : List Char} {set : CharSet}
    (read : readAsciiClass (.initial false) pattern = some (some (set, rest))) :
    Reads isUncounted pattern (']' :: rest) := by
  unfold readAsciiClass at read
  split at read
  · exact ((reads_readAsciiName read).cons rfl).cons rfl
  · exact (reads_readAsciiName read).cons rfl
  · cases read

section Items

variable {names : PropertyNames}

/-- What a primitive takes, unless it is a bare bracket, is passed over. -/
theorem skipNested_of_readPrimitive {pattern rest : List Char} {primitive : Primitive}
    (opening : pattern.head? ≠ some '[') (closing : pattern.head? ≠ some ']')
    (read : readPrimitive names (.initial false) pattern = some (primitive, rest)) (depth : Nat) :
    skipNested depth pattern = skipNested depth rest := by
  unfold readPrimitive at read
  split at read
  · cases read
  · obtain ⟨c, later, rfl, reads⟩ := exists_reads_of_readEscape read
    rw [skipNested_escape]
    exact skipNested_of_reads reads depth
  · next c later backslash =>
      obtain ⟨-, rfl⟩ := Prod.mk.inj (Option.some.inj read)
      refine skipNested_uncounted ?_ depth later
      simp only [List.head?_cons, ne_eq, Option.some.injEq] at opening closing
      simp only [isUncounted, Bool.and_eq_true, bne_iff_ne]
      exact ⟨⟨opening, closing⟩, backslash⟩

/-- An item of a class is passed over, unless a range in it ends in an opening bracket. -/
theorem skipNested_of_readItem {pattern rest : List Char} {set : CharSet}
    (plain : endsInBracket names pattern = false)
    (opening : pattern.head? ≠ some '[') (closing : pattern.head? ≠ some ']')
    (read : readItem names (.initial false) pattern = some (set, rest)) (depth : Nat) :
    skipNested depth pattern = skipNested depth rest := by
  simp only [readItem, bind, skip_initial, Option.bind_eq_some_iff] at read
  obtain ⟨⟨first, afterFirst⟩, readFirst, read⟩ := read
  rw [skipNested_of_readPrimitive opening closing readFirst]
  dsimp only at read
  split at read
  · cases read
  · next later =>
      have hyphen : isUncounted '-' = true := rfl
      rw [skipNested_uncounted hyphen]
      split at read
      · obtain ⟨found, -, same⟩ := Option.map_eq_some_iff.1 read
        obtain ⟨-, rfl⟩ := Prod.mk.inj same
        exact (skipNested_uncounted hyphen depth later).symm
      · next range =>
          obtain ⟨⟨second, afterSecond⟩, readSecond, read⟩ := Option.bind_eq_some_iff.1 read
          have closingSecond : later.head? ≠ some ']' := by
            intro same
            simp [Flags.peek, Flags.initial, same] at range
          have openingSecond : later.head? ≠ some '[' := by
            intro same
            obtain ⟨others, rfl⟩ := List.head?_eq_some_iff.1 same
            simp [endsInBracket, readFirst] at plain
          rw [skipNested_of_readPrimitive openingSecond closingSecond readSecond]
          dsimp only at read
          split at read
          · split at read
            · obtain ⟨-, rfl⟩ := Prod.mk.inj (Option.some.inj read)
              rfl
            · cases read
          · cases read
  · obtain ⟨found, -, same⟩ := Option.map_eq_some_iff.1 read
    obtain ⟨-, rfl⟩ := Prod.mk.inj same
    rfl

/-- Reading the open classes to their end and counting their brackets end in the same place. -/
theorem skipNested_of_readBrackets {fuel : Nat} {bracket : OpenBracket}
    {outer : List OpenBracket} {pattern rest : List Char} {part : ClassPart}
    (read : readBrackets names (.initial false) fuel bracket outer pattern = some (part, rest))
    (plain : plainBrackets names fuel outer.length pattern = true) :
    skipNested outer.length pattern = some rest := by
  induction fuel generalizing bracket outer pattern with
  | zero => cases read
  | succ fuel ih =>
      unfold readBrackets at read
      rw [skip_initial] at read
      split at read
      · cases read
      · next later =>
          rw [skipNested_open]
          simp only [plainBrackets] at plain
          split at read
          · next found ascii =>
              obtain ⟨⟨set, after⟩, rfl, read⟩ := Option.bind_eq_some_iff.1 read
              rw [ascii] at plain
              rw [skipNested_of_reads (reads_readAsciiClass ascii)]
              exact ih read plain
          · next noAscii =>
              obtain ⟨⟨inner, after⟩, opened, read⟩ := Option.bind_eq_some_iff.1 read
              rw [noAscii, opened] at plain
              simp only [Bool.and_eq_true, Bool.not_eq_true', Option.all_some] at plain
              rw [skipNested_of_openBracket opened plain.1]
              exact ih read plain.2
      · next later =>
          obtain ⟨closed, -, read⟩ := Option.bind_eq_some_iff.1 read
          cases outer with
          | nil =>
              obtain ⟨-, rfl⟩ := Prod.mk.inj (Option.some.inj read)
              rfl
          | cons parent others =>
              have inner : plainBrackets names fuel others.length later = true := by
                simpa [plainBrackets] using plain
              have ends : skipNested others.length later = some rest := ih read inner
              exact ends
      · rw [skipNested_uncounted rfl, skipNested_uncounted rfl]
        exact ih read plain
      · rw [skipNested_uncounted rfl, skipNested_uncounted rfl]
        exact ih read plain
      · rw [skipNested_uncounted rfl, skipNested_uncounted rfl]
        exact ih read plain
      · next noEnd opening closing noAnd noMinus noTilde =>
          obtain ⟨⟨set, after⟩, item, read⟩ := Option.bind_eq_some_iff.1 read
          have plainItem : (!endsInBracket names pattern &&
              plainBrackets names fuel outer.length after) = true := by
            simpa [plainBrackets, item] using plain
          simp only [Bool.and_eq_true, Bool.not_eq_true'] at plainItem
          have openingHead : pattern.head? ≠ some '[' := fun same =>
            have ⟨later, whole⟩ := List.head?_eq_some_iff.1 same
            opening later whole
          have closingHead : pattern.head? ≠ some ']' := fun same =>
            have ⟨later, whole⟩ := List.head?_eq_some_iff.1 same
            closing later whole
          rw [skipNested_of_readItem plainItem.1 openingHead closingHead item]
          exact ih read plainItem.2

/-- Counting the brackets of a class ends it where reading it does. -/
theorem skipBracket_of_readClass {pattern rest : List Char} {part : ClassPart}
    (read : readClass names (.initial false) pattern = some (part, rest))
    (plain : plainClass names pattern = true) : skipBracket pattern = some rest := by
  obtain ⟨⟨bracket, inside⟩, opened, read⟩ := Option.bind_eq_some_iff.1 read
  rw [plainClass, opened] at plain
  have ends : skipNested 0 inside = some rest := skipNested_of_readBrackets read plain
  rw [skipBracket_eq, skipStarted_of_openBracket opened, ends]

end Items

end ElementSearch.LiteralEdges
