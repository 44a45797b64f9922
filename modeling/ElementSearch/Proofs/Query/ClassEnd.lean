/-
# Where counting brackets ends a class

The scan for atoms counts brackets. Two brackets it takes for what they are not: a closing bracket
that comes first in an inner class, which it takes for the end of that class, and an opening bracket
that ends a range, which it takes for the start of a class. How many more classes are open by the
count than by the reading is the surplus. The count ends the outermost class where the reading does
exactly if it does not come to an end before, and if the surplus is gone by then.
-/

import ElementSearch.Proofs.Query.ClassScan

namespace ElementSearch.LiteralEdges

open Regex

/-! ## The surplus -/

/-- Whether the count of the brackets comes to its end where the outermost of `depth + 1` open
classes does, if it is `surplus` ahead of the reading so far. -/
def balances (names : PropertyNames) : Nat → Nat → Int → List Char → Bool
  | 0, _, _, _ => false
  | fuel + 1, depth, surplus, pattern =>
      match pattern with
      | [] => false
      | '[' :: rest =>
          match readAsciiClass (.initial false) rest with
          | some found => found.any fun (_, rest) => balances names fuel depth surplus rest
          | none => (openBracket (.initial false) rest).any fun (_, inside) =>
              balances names fuel (depth + 1)
                (if beginsClosed rest then surplus - 1 else surplus) inside
      | ']' :: rest =>
          if depth == 0 then surplus == 0
          else decide (0 < depth + surplus) && balances names fuel (depth - 1) surplus rest
      | '&' :: '&' :: rest | '-' :: '-' :: rest | '~' :: '~' :: rest =>
          balances names fuel depth surplus rest
      | pattern => (readItem names (.initial false) pattern).any fun (_, rest) =>
          balances names fuel depth
            (if endsInBracket names pattern then surplus + 1 else surplus) rest

/-- Whether the brackets of a class balance, given what follows its opening bracket. -/
def classBalances (names : PropertyNames) (pattern : List Char) : Bool :=
  (openBracket (.initial false) pattern).any fun (_, rest) =>
    balances names (rest.length + 1) 0 0 rest

variable {names : PropertyNames}

/-! ## What is taken -/

/-- The count takes the bracket that it ends with. -/
theorem length_lt_of_skipNested {depth : Nat} {source rest : List Char}
    (skipped : skipNested depth source = some rest) : rest.length < source.length := by
  fun_induction skipNested depth source with
  | case1 | case2 => cases skipped
  | case3 depth c source ih => exact Nat.lt_succ_of_lt (Nat.lt_succ_of_lt (ih skipped))
  | case4 depth source ih => exact Nat.lt_succ_of_lt (ih skipped)
  | case5 source =>
      obtain rfl := Option.some.inj skipped
      exact Nat.lt_succ_self _
  | case6 depth source ih => exact Nat.lt_succ_of_lt (ih skipped)
  | case7 depth c source _ _ _ _ _ ih => exact Nat.lt_succ_of_lt (ih skipped)

section Lengths

variable {pattern rest : List Char}

theorem length_le_of_reads {test : Char → Bool} (reads : Reads test pattern rest) :
    rest.length ≤ pattern.length := by
  obtain ⟨body, rfl, -⟩ := reads
  rw [List.length_append]
  exact Nat.le_add_left _ _

theorem length_lt_of_readPrimitive {primitive : Primitive}
    (read : readPrimitive names (.initial false) pattern = some (primitive, rest)) :
    rest.length < pattern.length := by
  unfold readPrimitive at read
  split at read
  · cases read
  · obtain ⟨c, later, rfl, reads⟩ := exists_reads_of_readEscape read
    exact Nat.lt_succ_of_lt (Nat.lt_succ_of_le (length_le_of_reads reads))
  · obtain ⟨-, rfl⟩ := Prod.mk.inj (Option.some.inj read)
    exact Nat.lt_succ_self _

theorem length_lt_of_readItem {set : CharSet}
    (read : readItem names (.initial false) pattern = some (set, rest)) :
    rest.length < pattern.length := by
  simp only [readItem, bind, skip_initial, Option.bind_eq_some_iff] at read
  obtain ⟨⟨first, afterFirst⟩, readFirst, read⟩ := read
  apply Nat.lt_of_le_of_lt _ (length_lt_of_readPrimitive readFirst)
  dsimp only at read
  split at read
  · cases read
  · next later =>
      split at read
      · obtain ⟨found, -, same⟩ := Option.map_eq_some_iff.1 read
        obtain ⟨-, rfl⟩ := Prod.mk.inj same
        exact Nat.le_refl _
      · obtain ⟨⟨second, afterSecond⟩, readSecond, read⟩ := Option.bind_eq_some_iff.1 read
        have shorter := length_lt_of_readPrimitive readSecond
        dsimp only at read
        split at read
        · split at read
          · obtain ⟨-, rfl⟩ := Prod.mk.inj (Option.some.inj read)
            exact Nat.le_succ_of_le (Nat.le_of_lt shorter)
          · cases read
        · cases read
  · obtain ⟨found, -, same⟩ := Option.map_eq_some_iff.1 read
    obtain ⟨-, rfl⟩ := Prod.mk.inj same
    exact Nat.le_refl _

theorem length_dropCaret_le (pattern : List Char) :
    (dropCaret pattern).length ≤ pattern.length := by
  unfold dropCaret
  split
  · exact Nat.le_succ _
  · exact Nat.le_refl _

theorem length_le_of_openBracket {bracket : OpenBracket}
    (opened : openBracket (.initial false) pattern = some (bracket, rest)) :
    rest.length ≤ pattern.length := by
  apply Nat.le_trans _ (length_dropCaret_le pattern)
  rcases openBracket_initial opened with closed | ⟨-, reads⟩
  · rw [closed]
    exact Nat.le_succ _
  · exact length_le_of_reads reads

/-- Reading takes the bracket that ends the outermost class. -/
theorem length_lt_of_readBrackets {fuel : Nat} {bracket : OpenBracket} {outer : List OpenBracket}
    {part : ClassPart}
    (read : readBrackets names (.initial false) fuel bracket outer pattern = some (part, rest)) :
    rest.length < pattern.length := by
  induction fuel generalizing bracket outer pattern with
  | zero => cases read
  | succ fuel ih =>
      unfold readBrackets at read
      rw [skip_initial] at read
      split at read
      · cases read
      · next later =>
          split at read
          · next found ascii =>
              obtain ⟨⟨set, after⟩, rfl, read⟩ := Option.bind_eq_some_iff.1 read
              have shorter := length_le_of_reads (reads_readAsciiClass ascii)
              exact Nat.lt_trans (ih read) (Nat.lt_succ_of_lt shorter)
          · next noAscii =>
              obtain ⟨⟨inner, after⟩, opened, read⟩ := Option.bind_eq_some_iff.1 read
              have shorter := length_le_of_openBracket opened
              exact Nat.lt_of_lt_of_le (ih read) (Nat.le_succ_of_le shorter)
      · next later =>
          obtain ⟨closed, -, read⟩ := Option.bind_eq_some_iff.1 read
          cases outer with
          | nil =>
              obtain ⟨-, rfl⟩ := Prod.mk.inj (Option.some.inj read)
              exact Nat.lt_succ_self _
          | cons parent others => exact Nat.lt_succ_of_lt (ih read)
      · exact Nat.lt_succ_of_lt (Nat.lt_succ_of_lt (ih read))
      · exact Nat.lt_succ_of_lt (Nat.lt_succ_of_lt (ih read))
      · exact Nat.lt_succ_of_lt (Nat.lt_succ_of_lt (ih read))
      · obtain ⟨⟨set, after⟩, item, read⟩ := Option.bind_eq_some_iff.1 read
        exact Nat.lt_trans (ih read) (length_lt_of_readItem item)

end Lengths

/-! ## The brackets that are miscounted -/

/-- A range that ends in an opening bracket counts as the start of a class. -/
theorem skipNested_of_endsInBracket {pattern rest : List Char} {set : CharSet}
    (ranged : endsInBracket names pattern = true)
    (opening : pattern.head? ≠ some '[') (closing : pattern.head? ≠ some ']')
    (read : readItem names (.initial false) pattern = some (set, rest)) (counted : Nat) :
    skipNested counted pattern = skipNested (counted + 1) rest := by
  unfold endsInBracket at ranged
  split at ranged
  · next first later readFirst =>
      have item : rest = later := by
        simp only [readItem, bind, skip_initial, readFirst, Option.bind_some] at read
        have ranges : ((Flags.initial false).peek ('[' :: later) == some ']' ||
            (Flags.initial false).peek ('[' :: later) == some '-') = false := rfl
        have last :
            readPrimitive names (.initial false) ('[' :: later) = some (.char '[', later) := rfl
        rw [ranges, if_neg Bool.false_ne_true, last, Option.bind_some] at read
        split at read
        · split at read
          · exact (Prod.mk.inj (Option.some.inj read)).2.symm
          · cases read
        · cases read
      rw [skipNested_of_readPrimitive opening closing readFirst, skipNested_uncounted rfl,
        skipNested_open, item]
  · cases ranged

/-- A closing bracket that comes first in an inner class counts as the end of it. -/
theorem skipNested_of_beginsClosed {pattern rest : List Char} {bracket : OpenBracket}
    (opened : openBracket (.initial false) pattern = some (bracket, rest))
    (closed : beginsClosed pattern = true) (counted : Nat) :
    skipNested (counted + 1) pattern = skipNested counted rest := by
  rcases openBracket_initial opened with first | ⟨plain, -⟩
  · unfold dropCaret at first
    split at first
    · rw [skipNested_uncounted rfl, first]
      rfl
    · rw [first]
      rfl
  · rw [closed] at plain
    cases plain

/-! ## The end of a class -/

theorem skipNested_closing_eq_iff {counted : Nat} {rest : List Char} :
    skipNested counted (']' :: rest) = some rest ↔ counted = 0 := by
  cases counted with
  | zero => exact ⟨fun _ => rfl, fun _ => rfl⟩
  | succ counted =>
      refine ⟨fun ends => ?_, fun none => by cases none⟩
      have inside : skipNested counted rest = some rest := ends
      exact absurd (length_lt_of_skipNested inside) (Nat.lt_irrefl _)

/-- The count ends the open classes where reading them does exactly if their brackets balance. -/
theorem skipNested_eq_some_iff {fuel counted : Nat} {surplus : Int} {bracket : OpenBracket}
    {outer : List OpenBracket} {pattern rest : List Char} {part : ClassPart}
    (read : readBrackets names (.initial false) fuel bracket outer pattern = some (part, rest))
    (ahead : (counted : Int) = outer.length + surplus) :
    skipNested counted pattern = some rest ↔
      balances names fuel outer.length surplus pattern = true := by
  induction fuel generalizing counted surplus bracket outer pattern with
  | zero => cases read
  | succ fuel ih =>
      unfold readBrackets at read
      rw [skip_initial] at read
      split at read
      · cases read
      · next later =>
          rw [skipNested_open]
          simp only [balances]
          cases ascii : readAsciiClass (.initial false) later with
          | some found =>
              rw [ascii] at read
              obtain ⟨⟨set, after⟩, rfl, read⟩ := Option.bind_eq_some_iff.1 read
              rw [skipNested_of_reads (reads_readAsciiClass ascii)]
              exact ih read ahead
          | none =>
              rw [ascii] at read
              obtain ⟨⟨inner, after⟩, opened, read⟩ := Option.bind_eq_some_iff.1 read
              dsimp only
              rw [opened]
              cases closed : beginsClosed later with
              | true =>
                  rw [skipNested_of_beginsClosed opened closed, if_pos rfl]
                  apply ih read
                  rw [List.length_cons]
                  omega
              | false =>
                  rw [skipNested_of_openBracket opened closed, if_neg Bool.false_ne_true]
                  apply ih read
                  rw [List.length_cons]
                  omega
      · next later =>
          obtain ⟨closed, -, read⟩ := Option.bind_eq_some_iff.1 read
          cases outer with
          | nil =>
              obtain ⟨-, rfl⟩ := Prod.mk.inj (Option.some.inj read)
              rw [skipNested_closing_eq_iff]
              simp only [balances, List.length_nil, beq_self_eq_true, if_true, beq_iff_eq]
              rw [List.length_nil] at ahead
              omega
          | cons parent others =>
              rw [List.length_cons] at ahead
              have unfinished : (others.length + 1 == 0) = false := rfl
              simp only [balances, List.length_cons, unfinished, Bool.false_eq_true, if_false,
                Bool.and_eq_true, decide_eq_true_eq, Nat.add_sub_cancel]
              cases counted with
              | zero =>
                  -- The count ends here, but the reading goes on.
                  have shorter := length_lt_of_readBrackets read
                  refine ⟨fun ends => ?_, fun ends => absurd ends.1 (by omega)⟩
                  obtain rfl : later = rest := Option.some.inj ends
                  exact absurd shorter (Nat.lt_irrefl _)
              | succ counted =>
                  have unspent : 0 < ((others.length + 1 : Nat) : Int) + surplus := by omega
                  have ends : skipNested counted later = some rest ↔
                      balances names fuel others.length surplus later = true := ih read (by omega)
                  exact ends.trans ⟨fun balanced => ⟨unspent, balanced⟩, And.right⟩
      · rw [skipNested_uncounted rfl, skipNested_uncounted rfl]
        exact ih read ahead
      · rw [skipNested_uncounted rfl, skipNested_uncounted rfl]
        exact ih read ahead
      · rw [skipNested_uncounted rfl, skipNested_uncounted rfl]
        exact ih read ahead
      · next noEnd opening closing noAnd noMinus noTilde =>
          obtain ⟨⟨set, after⟩, item, read⟩ := Option.bind_eq_some_iff.1 read
          have openingHead : pattern.head? ≠ some '[' := fun same =>
            have ⟨later, whole⟩ := List.head?_eq_some_iff.1 same
            opening later whole
          have closingHead : pattern.head? ≠ some ']' := fun same =>
            have ⟨later, whole⟩ := List.head?_eq_some_iff.1 same
            closing later whole
          have step : balances names (fuel + 1) outer.length surplus pattern =
              balances names fuel outer.length
                (if endsInBracket names pattern then surplus + 1 else surplus) after := by
            simp [balances, item]
          rw [step]
          cases ranged : endsInBracket names pattern with
          | true =>
              rw [skipNested_of_endsInBracket ranged openingHead closingHead item, if_pos rfl]
              exact ih read (by omega)
          | false =>
              rw [skipNested_of_readItem ranged openingHead closingHead item,
                if_neg Bool.false_ne_true]
              exact ih read ahead

/-- The count ends a class where reading it does exactly if its brackets balance. -/
theorem skipBracket_eq_some_iff {pattern rest : List Char} {part : ClassPart}
    (read : readClass names (.initial false) pattern = some (part, rest)) :
    skipBracket pattern = some rest ↔ classBalances names pattern = true := by
  obtain ⟨⟨bracket, inside⟩, opened, read⟩ := Option.bind_eq_some_iff.1 read
  rw [skipBracket_eq, skipStarted_of_openBracket opened, classBalances, opened]
  exact skipNested_eq_some_iff read rfl

/-- A class without miscounted brackets balances. -/
theorem classBalances_of_plainClass {pattern rest : List Char} {part : ClassPart}
    (read : readClass names (.initial false) pattern = some (part, rest))
    (plain : plainClass names pattern = true) : classBalances names pattern = true :=
  (skipBracket_eq_some_iff read).1 (skipBracket_of_readClass read plain)

/-- For every class that can be read, whatever its nesting, its negations, its operators, its
escapes and the names of properties in it: counting the brackets ends it behind its own closing
bracket exactly if they balance, and then the scan for atoms goes on behind the class. They do
balance if no inner class begins with a closing bracket and no range ends in an opening one. -/
theorem class_end_iff {pattern rest : List Char} {part : ClassPart}
    (read : readClass names (.initial false) pattern = some (part, rest)) :
    (skipBracket pattern = some rest ↔ classBalances names pattern = true) ∧
    (plainClass names pattern = true → classBalances names pattern = true) ∧
    (classBalances names pattern = true → ∀ fuel atoms,
      atomsFrom (fuel + 1) atoms ('[' :: pattern) = atomsFrom fuel (.other :: atoms) rest) := by
  have ends := skipBracket_eq_some_iff read
  refine ⟨ends, classBalances_of_plainClass read, fun balanced fuel atoms => ?_⟩
  show (skipBracket pattern).bind (fun rest => atomsFrom fuel (.other :: atoms) rest) = _
  rw [ends.2 balanced]
  rfl

/-- A class that nests and begins with a closing bracket is plain, and so is one that names a
property. In the last a range that ends in an opening bracket makes up for an inner class that
begins with a closing one. -/
theorem class_end_iff_nested :
    skipBracket "^]a-z&&[^q[:alpha:]\\]]]+x".toList = some "+x".toList ∧
      skipBracket "\\p\x7bAge:6.0\x7d--[\\p\x7bwb=Katakana\x7d]]x".toList = some "x".toList ∧
      plainClass .standard "+-[[]]]x".toList = false ∧
      skipBracket "+-[[]]]x".toList = some "x".toList := by
  have nested : ∃ part, readClass .standard (.initial false)
      "^]a-z&&[^q[:alpha:]\\]]]+x".toList = some (part, "+x".toList) := ⟨_, rfl⟩
  have named : ∃ part, readClass .standard (.initial false)
      "\\p\x7bAge:6.0\x7d--[\\p\x7bwb=Katakana\x7d]]x".toList = some (part, "x".toList) := ⟨_, rfl⟩
  have evened : ∃ part, readClass .standard (.initial false) "+-[[]]]x".toList =
      some (part, "x".toList) := ⟨_, rfl⟩
  obtain ⟨_, nested⟩ := nested
  obtain ⟨_, named⟩ := named
  obtain ⟨_, evened⟩ := evened
  have ⟨nestedEnds, nestedBalances, _⟩ := class_end_iff nested
  have ⟨namedEnds, namedBalances, _⟩ := class_end_iff named
  exact ⟨nestedEnds.2 (nestedBalances (by decide)), namedEnds.2 (namedBalances (by decide +kernel)),
    by decide, (class_end_iff evened).1.2 (by decide)⟩

/-- The count ends a class too early that has an inner class which begins with a closing bracket,
and too late one that has a range which ends in an opening bracket. -/
theorem exists_class_end_missed :
    (∃ part, readClass .standard (.initial false) "x[]]\x7b]a|b\x7dc".toList =
        some (part, "a|b\x7dc".toList) ∧
      skipBracket "x[]]\x7b]a|b\x7dc".toList = some "\x7b]a|b\x7dc".toList) ∧
    ∃ part, readClass .standard (.initial false) "+-[]|a]b".toList = some (part, "|a]b".toList) ∧
      skipBracket "+-[]|a]b".toList = some "b".toList :=
  ⟨⟨_, rfl, by decide⟩, _, rfl, by decide⟩

end ElementSearch.LiteralEdges
