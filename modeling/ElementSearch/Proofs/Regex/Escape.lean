/-
# What an escape takes

A reader of escapes takes characters off the front of a pattern. What it takes behind the
letter of the escape are digits, a name, or braces around them: no bracket and no further
backslash is ever among them, so counting the brackets of a pattern passes over it.
-/

import Mathlib.Tactic.ByContra
import ElementSearch.Regex.Escape

namespace ElementSearch.Regex

@[simp] theorem skip_initial (ignoreCase : Bool) (pattern : List Char) :
    (Flags.initial ignoreCase).skip pattern = pattern := rfl

/-! ## Taking characters of some kind -/

/-- What was read between `pattern` and `rest` are characters that pass the test. -/
def Reads (test : Char → Bool) (pattern rest : List Char) : Prop :=
  ∃ body, pattern = body ++ rest ∧ ∀ c ∈ body, test c = true

section Reads

variable {test : Char → Bool} {pattern middle rest : List Char}

theorem Reads.refl (pattern : List Char) : Reads test pattern pattern :=
  ⟨[], rfl, by simp⟩

theorem Reads.trans (first : Reads test pattern middle) (second : Reads test middle rest) :
    Reads test pattern rest := by
  obtain ⟨front, rfl, frontPasses⟩ := first
  obtain ⟨back, rfl, backPasses⟩ := second
  refine ⟨front ++ back, (List.append_assoc front back rest).symm, ?_⟩
  rw [List.forall_mem_append]
  exact ⟨frontPasses, backPasses⟩

theorem Reads.cons {c : Char} (passes : test c = true) (later : Reads test pattern rest) :
    Reads test (c :: pattern) rest := by
  obtain ⟨body, rfl, bodyPasses⟩ := later
  exact ⟨c :: body, rfl, List.forall_mem_cons.2 ⟨passes, bodyPasses⟩⟩

theorem Reads.append {body : List Char} (passes : ∀ c ∈ body, test c = true) :
    Reads test (body ++ rest) rest :=
  ⟨body, rfl, passes⟩

/-- Skipping characters of one kind takes characters of every kind that includes it. -/
theorem reads_dropWhile (skipped : Char → Bool) (passes : ∀ c, skipped c = true → test c = true)
    (pattern : List Char) : Reads test pattern (pattern.dropWhile skipped) := by
  refine ⟨pattern.takeWhile skipped, List.takeWhile_append_dropWhile.symm, fun c member => ?_⟩
  have all := List.all_takeWhile (p := skipped) (l := pattern)
  rw [List.all_eq_true] at all
  exact passes c (all c member)

end Reads

/-- A text between braces is its characters, none of which is a closing brace, and that brace. -/
theorem readBraced_eq_some {ignoreCase : Bool} {fuel : Nat} {pattern name rest : List Char}
    (read : readBraced (.initial ignoreCase) fuel pattern = some (name, rest)) :
    pattern = name ++ '\x7d' :: rest ∧ ∀ c ∈ name, (c != '\x7d') = true := by
  induction fuel generalizing pattern name with
  | zero => cases read
  | succ fuel ih =>
      simp only [readBraced, skip_initial] at read
      split at read
      · cases read
      · obtain ⟨rfl, rfl⟩ := Prod.mk.inj (Option.some.inj read)
        exact ⟨rfl, by simp⟩
      · next c later other =>
          obtain ⟨⟨name, rest⟩, found, same⟩ := Option.map_eq_some_iff.1 read
          obtain ⟨rfl, rfl⟩ := Prod.mk.inj same
          obtain ⟨rfl, free⟩ := ih found
          exact ⟨rfl, List.forall_mem_cons.2 ⟨bne_iff_ne.2 other, free⟩⟩

/-! ## No brackets -/

/-- Whether counting brackets passes over a character. -/
def isUncounted (c : Char) : Bool := c != '[' && c != ']' && c != '\\'

/-- The characters that pass a test which brackets and backslashes do not pass. -/
theorem isUncounted_of_test (test : Char → Bool) {c : Char} (passes : test c = true)
    (opening : test '[' = false) (closing : test ']' = false) (backslash : test '\\' = false) :
    isUncounted c = true := by
  simp only [isUncounted, Bool.and_eq_true, bne_iff_ne]
  refine ⟨⟨?_, ?_⟩, ?_⟩
  · rintro rfl
    rw [passes] at opening
    cases opening
  · rintro rfl
    rw [passes] at closing
    cases closing
  · rintro rfl
    rw [passes] at backslash
    cases backslash

theorem isUncounted_of_isAssertionLetter {c : Char} (letter : isAssertionLetter c = true) :
    isUncounted c = true :=
  isUncounted_of_test isAssertionLetter letter rfl rfl rfl

theorem isUncounted_of_hexDigit? {c : Char} {value : Nat} (digit : Text.hexDigit? c = some value) :
    isUncounted c = true := by
  have isDigit : (Text.hexDigit? c).isSome = true := by rw [digit]; rfl
  exact isUncounted_of_test (fun c => (Text.hexDigit? c).isSome) isDigit rfl rfl rfl

/-! ## Names of properties -/

/-- What counts in a name keeps every bracket and backslash of it. -/
theorem mem_significant {name : List Char} {c : Char} (member : c ∈ name)
    (counted : isUncounted c = false) : c ∈ significant name := by
  have shape : c = '[' ∨ c = ']' ∨ c = '\\' := by
    simp only [isUncounted, Bool.and_eq_false_iff, bne_eq_false_iff_eq] at counted
    exact or_assoc.1 counted
  refine List.mem_map.2 ⟨c, List.mem_filter.2 ⟨member, ?_⟩, ?_⟩
  · rcases shape with rfl | rfl | rfl <;> rfl
  · rcases shape with rfl | rfl | rfl <;> rfl

theorem mem_looseName {name : List Char} {c : Char} (member : c ∈ name)
    (counted : isUncounted c = false) : c ∈ (looseName name).toList := by
  unfold looseName
  split
  · next first second rest =>
      split
      · next prefixed =>
          simp only [Bool.and_eq_true, beq_iff_eq] at prefixed
          have later : c ∈ rest := by
            rcases List.mem_cons.1 member with rfl | member
            · rw [isUncounted_of_test (fun c => c.toLower == 'i')
                (beq_iff_eq.2 prefixed.1) rfl rfl rfl] at counted
              cases counted
            rcases List.mem_cons.1 member with rfl | member
            · rw [isUncounted_of_test (fun c => c.toLower == 's')
                (beq_iff_eq.2 prefixed.2) rfl rfl rfl] at counted
              cases counted
            exact member
          have kept := mem_significant later counted
          split
          · next only =>
              rw [eq_of_beq only, List.mem_singleton] at kept
              rw [kept] at counted
              cases counted
          · rwa [String.toList_ofList]
      · rw [String.toList_ofList]
        exact mem_significant member counted
  · rw [String.toList_ofList]
    exact mem_significant member counted

theorem isUncounted_of_mem_of_isPlainName {name : String} (plain : IsPlainName name) :
    ∀ c ∈ name.toList, isUncounted c = true := by
  intro c member
  have passes : (c.isAlphanum || c == '.') = true := List.all_eq_true.1 plain c member
  exact isUncounted_of_test (fun c => c.isAlphanum || c == '.') passes rfl rfl rfl

/-- A name in which only what is plain counts has no bracket and no backslash. -/
theorem isUncounted_of_isPlainName {name : List Char} (plain : IsPlainName (looseName name)) :
    ∀ c ∈ name, isUncounted c = true := by
  intro c member
  by_contra counted
  have kept := mem_looseName member (Bool.eq_false_iff.2 counted)
  exact counted (isUncounted_of_mem_of_isPlainName plain c kept)

section Names

variable {names : PropertyNames}

theorem isUncounted_of_set? {name : List Char} {set : CharSet}
    (found : names.set? name = some set) : ∀ c ∈ name, isUncounted c = true :=
  isUncounted_of_isPlainName (names.isPlainName_of_lone found)

/-- A name and a value are what stands before and after the sign. -/
theorem splitAtSign_eq_some {sign name front back : List Char}
    (split : splitAtSign sign name = some (front, back)) : name = front ++ sign ++ back := by
  induction name generalizing front with
  | nil => cases split
  | cons c rest ih =>
      unfold splitAtSign at split
      split at split
      · next here =>
          obtain ⟨after, whole⟩ := List.isPrefixOf_iff_prefix.1 here
          obtain ⟨rfl, rfl⟩ := Prod.mk.inj (Option.some.inj split)
          simp [← whole]
      · obtain ⟨⟨before, after⟩, found, same⟩ := Option.map_eq_some_iff.1 split
        obtain ⟨rfl, rfl⟩ := Prod.mk.inj same
        rw [ih found]
        rfl

/-- What names a set between braces has no brackets. -/
theorem isUncounted_of_bracedSet? {name : List Char} {set : CharSet}
    (found : bracedSet? names name = some set) : ∀ c ∈ name, isUncounted c = true := by
  have valued {sign front back : List Char} (split : splitAtSign sign name = some (front, back))
      (plain : sign.all isUncounted = true)
      (found : names.valueSet? front back = some set) : ∀ c ∈ name, isUncounted c = true := by
    have ⟨frontPlain, backPlain⟩ := names.isPlainName_of_valued found
    rw [splitAtSign_eq_some split, List.forall_mem_append, List.forall_mem_append]
    exact ⟨⟨isUncounted_of_isPlainName frontPlain, List.all_eq_true.1 plain⟩,
      isUncounted_of_isPlainName backPlain⟩
  unfold bracedSet? at found
  split at found
  · next front back split =>
      simp only [Option.orElse_eq_orElse, Option.orElse_eq_or, Option.or_eq_some_iff] at split
      rcases split with split | ⟨-, split | ⟨-, split⟩⟩
      · exact valued split (by decide) found
      · exact valued split (by decide) found
      · exact valued split (by decide) found
  · exact isUncounted_of_set? found

end Names

/-! ## Escapes -/

theorem readEscape_of_isEscapable {names : PropertyNames} {flags : Flags} {c : Char}
    (escapable : isEscapable c = true) (rest : List Char) :
    readEscape names flags (c :: rest) = some (.char c, rest) :=
  if_pos escapable

section

variable {names : PropertyNames} {ignoreCase : Bool} {pattern rest : List Char}

theorem reads_readHexDigits {count value result : Nat}
    (read : readHexDigits (.initial ignoreCase) count value pattern = some (result, rest)) :
    Reads isUncounted pattern rest := by
  induction count generalizing value pattern with
  | zero =>
      obtain ⟨-, rfl⟩ := Prod.mk.inj (Option.some.inj read)
      exact .refl pattern
  | succ count ih =>
      simp only [readHexDigits, skip_initial] at read
      split at read
      · cases read
      · obtain ⟨digit, isDigit, later⟩ := Option.bind_eq_some_iff.1 read
        exact (ih later).cons (isUncounted_of_hexDigit? isDigit)

theorem reads_readHexBraces {fuel : Nat} {value : Option Nat} {result : Nat}
    (read : readHexBraces (.initial ignoreCase) fuel value pattern = some (result, rest)) :
    Reads isUncounted pattern rest := by
  induction fuel generalizing value pattern with
  | zero => cases read
  | succ fuel ih =>
      simp only [readHexBraces, skip_initial] at read
      split at read
      · cases read
      · obtain ⟨found, -, same⟩ := Option.map_eq_some_iff.1 read
        obtain ⟨-, rfl⟩ := Prod.mk.inj same
        exact .cons rfl (.refl _)
      · obtain ⟨digit, isDigit, later⟩ := Option.bind_eq_some_iff.1 read
        exact (ih later).cons (isUncounted_of_hexDigit? isDigit)

theorem reads_readHex {digits : Nat} {primitive : Primitive}
    (read : readHex (.initial ignoreCase) digits pattern = some (primitive, rest)) :
    Reads isUncounted pattern rest := by
  simp only [readHex, skip_initial] at read
  split at read
  · obtain ⟨⟨value, after⟩, found, made⟩ := Option.bind_eq_some_iff.1 read
    obtain ⟨c, -, same⟩ := Option.map_eq_some_iff.1 made
    obtain ⟨-, rfl⟩ := Prod.mk.inj same
    exact (reads_readHexBraces found).cons rfl
  · obtain ⟨⟨value, after⟩, found, made⟩ := Option.bind_eq_some_iff.1 read
    dsimp only at made
    split at made
    · cases made
    · obtain ⟨c, -, same⟩ := Option.map_eq_some_iff.1 made
      obtain ⟨-, rfl⟩ := Prod.mk.inj same
      exact reads_readHexDigits found

theorem reads_readBraced {fuel : Nat} {name : List Char}
    (read : readBraced (.initial ignoreCase) fuel pattern = some (name, rest))
    (plain : ∀ c ∈ name, isUncounted c = true) : Reads isUncounted pattern rest := by
  rw [(readBraced_eq_some read).1]
  exact (Reads.append plain).trans (.cons rfl (.refl rest))

theorem reads_readProperty {negated : Bool} {primitive : Primitive}
    (read : readProperty names (.initial ignoreCase) negated pattern = some (primitive, rest)) :
    Reads isUncounted pattern rest := by
  simp only [readProperty, skip_initial, bind, pure] at read
  split at read
  · cases read
  · obtain ⟨⟨name, behind⟩, braced, read⟩ := Option.bind_eq_some_iff.1 read
    obtain ⟨set, named, made⟩ := Option.bind_eq_some_iff.1 read
    obtain ⟨-, rfl⟩ := Prod.mk.inj (Option.some.inj made)
    exact (reads_readBraced braced (isUncounted_of_bracedSet? named)).cons rfl
  · cases read
  · next c later _ _ =>
      obtain ⟨⟨set, behind⟩, found, made⟩ := Option.bind_eq_some_iff.1 read
      obtain ⟨_, named, same⟩ := Option.map_eq_some_iff.1 found
      obtain ⟨-, rfl⟩ := Prod.mk.inj same
      obtain ⟨-, rfl⟩ := Prod.mk.inj (Option.some.inj made)
      exact .cons (isUncounted_of_set? named c (List.mem_singleton_self c)) (.refl later)

/-- A word boundary takes what follows it only as a name between braces. -/
theorem readBoundary_initial {primitive : Primitive}
    (read : readBoundary (.initial ignoreCase) pattern = some (primitive, rest)) :
    rest = pattern ∨ ∃ name, pattern = '\x7b' :: name ++ '\x7d' :: rest ∧
      ∀ c ∈ name, isAssertionLetter c = true := by
  simp only [readBoundary, skip_initial] at read
  split at read
  · next later =>
      cases later with
      | nil => cases read
      | cons c later =>
          dsimp only at read
          split at read
          · obtain ⟨⟨name, afterName⟩, braced, read⟩ := Option.bind_eq_some_iff.1 read
            dsimp only at read
            split at read
            · next letters =>
                obtain ⟨look, -, same⟩ := Option.map_eq_some_iff.1 read
                obtain ⟨-, rfl⟩ := Prod.mk.inj same
                refine .inr ⟨name, ?_, List.all_eq_true.1 letters⟩
                rw [(readBraced_eq_some braced).1]
                rfl
            · cases read
          · exact .inl (Prod.mk.inj (Option.some.inj read)).2.symm
  · exact .inl (Prod.mk.inj (Option.some.inj read)).2.symm

/-- An escape takes one character, and behind it no bracket and no backslash. -/
theorem exists_reads_of_readEscape {primitive : Primitive}
    (read : readEscape names (.initial ignoreCase) pattern = some (primitive, rest)) :
    ∃ c later, pattern = c :: later ∧ Reads isUncounted later rest := by
  cases pattern with
  | nil => cases read
  | cons c later =>
      refine ⟨c, later, rfl, ?_⟩
      have nothing {made : Primitive} (same : some (made, later) = some (primitive, rest)) :
          Reads isUncounted later rest := by
        obtain ⟨-, rfl⟩ := Prod.mk.inj (Option.some.inj same)
        exact .refl later
      simp only [readEscape] at read
      split at read
      · exact nothing read
      · split at read
        · exact reads_readHex read
        · exact reads_readHex read
        · exact reads_readHex read
        · exact reads_readProperty read
        · exact reads_readProperty read
        all_goals try exact nothing read
        · rcases readBoundary_initial read with rfl | ⟨name, rfl, letters⟩
          · exact .refl rest
          · have plain : ∀ c ∈ name, isUncounted c = true :=
              fun c member => isUncounted_of_isAssertionLetter (letters c member)
            exact ((Reads.append plain).trans (.cons rfl (.refl rest))).cons rfl
        · cases read

end

end ElementSearch.Regex
