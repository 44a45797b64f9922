/-
# String expressions

XPath 1.0 has string literals between quotes of either kind, and `concat` with any number of
arguments, with white space allowed between them. The reader here takes any such expression off
the front of a text, also those that are never written; a `concat` of a single argument, which
XPath does not have, is read as well. What is written for a text is read to its end and no
further, denotes the text, and never has a single argument.
-/

import ElementSearch.Proofs.XPath.Meaning
import ElementSearch.Proofs.XPath.StringReader

namespace ElementSearch.XPath

/-- An expression that denotes a string by itself. -/
inductive StringExpression
  | literal (text : List Char)
  | concat (arguments : List (List Char))
  deriving DecidableEq, Repr

/-- The string that an expression denotes. -/
def StringExpression.string : StringExpression → String
  | .literal text => String.ofList text
  | .concat arguments => String.ofList arguments.flatten

/-- There are two or more arguments where strings are joined. -/
def StringExpression.IsValid : StringExpression → Prop
  | .literal _ => True
  | .concat arguments => 2 ≤ arguments.length

/-! ## The reader -/

/-- What follows white space. -/
def skipSpace (input : List Char) : List Char := input.dropWhile isSpace

/-- Literals with commas between them, up to a closing bracket. -/
def readArguments : Nat → List Char → Option (List (List Char) × List Char)
  | 0, _ => none
  | fuel + 1, input =>
      (readLiteral (skipSpace input)).bind fun (first, rest) =>
        match skipSpace rest with
        | ')' :: rest => some ([first], rest)
        | ',' :: rest => (readArguments fuel rest).map fun (others, rest) => (first :: others, rest)
        | _ => none

/-- The string expression that a text begins with, and the text behind it. There are fewer
arguments than characters. -/
def readExpression (input : List Char) : Option (StringExpression × List Char) :=
  match expect "concat" input with
  | none => (readLiteral input).map fun (text, rest) => (.literal text, rest)
  | some rest =>
      match skipSpace rest with
      | '(' :: rest =>
          (readArguments rest.length rest).map fun (arguments, rest) => (.concat arguments, rest)
      | _ => none

/-! ## Joined strings -/

theorem skipSpace_writeJoined (text rest : List Char) :
    skipSpace (writeJoined text ++ rest) = writeJoined text ++ rest := by
  unfold writeJoined
  split
  · rfl
  · rfl

theorem readArguments_space (fuel : Nat) (input : List Char) :
    readArguments fuel (' ' :: input) = readArguments fuel input := by
  cases fuel with
  | zero => rfl
  | succ fuel => rfl

/-- Strings that are written with commas between them are read as arguments, up to the bracket
behind the last one. -/
theorem readArguments_append {first : List Char} {others : List (List Char)}
    (plain : ∀ x ∈ first :: others, x = ['\''] ∨ '\'' ∉ x) {fuel : Nat}
    (enough : others.length < fuel) (rest : List Char) :
    readArguments fuel (writeJoined first ++
      (others.flatMap (fun x => ", ".toList ++ writeJoined x) ++ ')' :: rest)) =
        some (first :: others, rest) := by
  induction others generalizing first fuel with
  | nil =>
      obtain ⟨fuel, rfl⟩ := Nat.exists_eq_add_of_lt enough
      rw [readArguments, skipSpace_writeJoined, readLiteral_writeJoined (plain first (by simp))]
      rfl
  | cons second others ih =>
      cases fuel with
      | zero => cases enough
      | succ fuel =>
          have ⟨here, later⟩ := List.forall_mem_cons.1 plain
          have behind := ih later (Nat.lt_of_succ_lt_succ enough)
          rw [readArguments, skipSpace_writeJoined, readLiteral_writeJoined here, List.flatMap_cons,
            List.append_assoc, List.append_assoc]
          -- The comma is taken, and the space behind it is passed over.
          show (readArguments fuel (' ' :: (writeJoined second ++ _))).map _ = _
          rw [readArguments_space, behind]
          rfl

theorem length_le_length_written (others : List (List Char)) :
    others.length ≤ (others.flatMap fun x => ", ".toList ++ writeJoined x).length := by
  induction others with
  | nil => exact Nat.le_refl 0
  | cons first others ih =>
      rw [List.flatMap_cons, List.length_append, List.length_append, List.length_cons]
      have separator : ", ".toList.length = 2 := rfl
      omega

/-- A joined text is read as an expression with its strings for arguments. -/
theorem readExpression_joined {part : List Char} {parts : List (List Char)}
    (free : ∀ x ∈ part :: parts, '\'' ∉ x) (rest : List Char) :
    readExpression ("concat(".toList ++ joinedParts (part :: parts) ++ [')'] ++ rest) =
      some (.concat (part :: joinedRest parts), rest) := by
  have ⟨here, later⟩ := List.forall_mem_cons.1 free
  have first : inApostrophes part = writeJoined part := by
    refine (if_neg fun same => here ?_).symm
    rw [same]
    exact List.mem_singleton_self _
  have plain : ∀ x ∈ part :: joinedRest parts, x = ['\''] ∨ '\'' ∉ x :=
    List.forall_mem_cons.2 ⟨.inr here, mem_joinedRest later⟩
  let written := writeJoined part ++
    ((joinedRest parts).flatMap (fun x => ", ".toList ++ writeJoined x) ++ ')' :: rest)
  have enough : (joinedRest parts).length < written.length := by
    have shorter := length_le_length_written (joinedRest parts)
    simp only [written, List.length_append, List.length_cons] at shorter ⊢
    omega
  have whole : "concat(".toList ++ joinedParts (part :: parts) ++ [')'] ++ rest =
      "concat".toList ++ '(' :: written := by
    rw [joinedParts_cons later, first]
    simp only [written, List.append_assoc]
    rfl
  rw [whole, readExpression, expect_append]
  show (readArguments written.length written).map _ = _
  rw [readArguments_append plain enough]
  rfl

/-! ## Read back -/

/-- What is written for a text is read as an expression that denotes the text, whatever follows. -/
theorem exists_readExpression_quoteChars (text rest : List Char) :
    ∃ expression, readExpression (quoteChars text ++ rest) = some (expression, rest) ∧
      expression.string = String.ofList text ∧ expression.IsValid := by
  unfold quoteChars
  split
  · next free =>
      have absent : '\'' ∉ text := by simpa using free
      refine ⟨.literal text, ?_, rfl, trivial⟩
      show (readLiteral (inApostrophes text ++ rest)).map _ = _
      rw [readLiteral_inApostrophes absent]
      rfl
  · next apostrophe =>
      split
      · next free =>
          have absent : '"' ∉ text := by simpa using free
          refine ⟨.literal text, ?_, rfl, trivial⟩
          show (takeQuoted '"' (text ++ ['"'] ++ rest)).map _ = _
          rw [List.append_assoc, List.singleton_append, takeQuoted_append absent]
          rfl
      · obtain ⟨part, parts, split, free, whole⟩ := exists_apostropheParts text
        have several : parts ≠ [] := by
          rintro rfl
          have here := (List.forall_mem_cons.1 free).1
          rw [List.flatMap_nil, List.append_nil] at whole
          rw [whole] at apostrophe
          simp [here] at apostrophe
        obtain ⟨next, others, rfl⟩ := List.exists_cons_of_ne_nil several
        rw [split]
        refine ⟨_, readExpression_joined free rest, ?_, ?_⟩
        · rw [StringExpression.string, List.flatten_cons, flatten_joinedRest, ← whole]
        · exact Nat.le_add_left 2 _

/-- A string expression is read to its end and no further, and denotes the text that it was
written for. -/
theorem exists_readExpression_quote (text : String) (rest : List Char) :
    ∃ expression, readExpression ((quote text).toList ++ rest) = some (expression, rest) ∧
      expression.string = text ∧ expression.IsValid := by
  rw [quote, String.toList_ofList]
  obtain ⟨expression, read, same, valid⟩ := exists_readExpression_quoteChars text.toList rest
  exact ⟨expression, read, by rw [same, String.ofList_toList], valid⟩

/-- The reader takes expressions that are not valid as well. -/
example : readExpression "concat ('a')b".toList = some (.concat [['a']], ['b']) := by decide

end ElementSearch.XPath
