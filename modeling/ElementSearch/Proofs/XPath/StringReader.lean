/-
# Reading strings

A reader for the string expressions of XPath 1.0, which have no escapes: a string stands
between quotes of the kind it does not contain, and one that contains both is joined from
several. Each function takes what it reads off the front of a text, and gives what that
denotes and the text behind it. What the writer wrote is taken exactly, whatever follows.
-/

import ElementSearch.XPath.Printer
import Mathlib.Data.List.Basic

namespace ElementSearch.XPath

/-- What follows a given text that the input begins with. -/
def expect (given : String) (input : List Char) : Option (List Char) :=
  given.toList.isPrefixOf? input

theorem eq_append_of_expect {given : String} {input rest : List Char}
    (read : expect given input = some rest) : input = given.toList ++ rest :=
  (List.isPrefixOf?_eq_some_iff_append_eq.1 read).symm

@[simp] theorem expect_append (given : String) (rest : List Char) :
    expect given (given.toList ++ rest) = some rest :=
  List.isPrefixOf?_eq_some_iff_append_eq.2 rfl

/-! ## Several in a row -/

section Many

variable {α : Type} (closing separator : String) (item : List Char → Option (α × List Char))

/-- Further items with a separator in front of each, up to what closes their row. -/
def readRest : Nat → List Char → Option (List α × List Char)
  | 0, _ => none
  | fuel + 1, input =>
      match expect closing input with
      | some rest => some ([], rest)
      | none => do
          let rest ← expect separator input
          let (first, rest) ← item rest
          let (others, rest) ← readRest fuel rest
          some (first :: others, rest)

/-- Further items, however many there are: each takes at least one character. -/
def readMany (input : List Char) : Option (List α × List Char) :=
  readRest closing separator item (input.length + 1) input

variable {closing separator item}

theorem readRest_append {items : List α} {write : α → List Char}
    (differ : ∀ rest, expect closing (separator.toList ++ rest) = none)
    (reads : ∀ x ∈ items, ∀ rest, item (write x ++ rest) = some (x, rest)) {fuel : Nat}
    (enough : items.length < fuel) (rest : List Char) :
    readRest closing separator item fuel
      (items.flatMap (fun x => separator.toList ++ write x) ++ (closing.toList ++ rest)) =
        some (items, rest) := by
  induction items generalizing fuel with
  | nil =>
      obtain ⟨fuel, rfl⟩ := Nat.exists_eq_add_of_lt enough
      simp [readRest]
  | cons first items ih =>
      cases fuel with
      | zero => cases enough
      | succ fuel =>
          have ⟨here, later⟩ := List.forall_mem_cons.1 reads
          have others := ih later (Nat.lt_of_succ_lt_succ enough)
          simp [readRest, List.append_assoc, differ, here, others]

theorem readMany_append {items : List α} {write : α → List Char}
    (differ : ∀ rest, expect closing (separator.toList ++ rest) = none)
    (marked : 0 < separator.toList.length)
    (reads : ∀ x ∈ items, ∀ rest, item (write x ++ rest) = some (x, rest)) (rest : List Char) :
    readMany closing separator item
      (items.flatMap (fun x => separator.toList ++ write x) ++ (closing.toList ++ rest)) =
        some (items, rest) := by
  have enough : items.length ≤ (items.flatMap fun x => separator.toList ++ write x).length := by
    induction items with
    | nil => exact Nat.zero_le _
    | cons first items ih =>
        have later := ih fun x member => reads x (List.mem_cons_of_mem first member)
        simp only [List.flatMap_cons, List.length_append, List.length_cons] at later ⊢
        omega
  refine readRest_append differ reads ?_ rest
  rw [List.length_append]
  omega

end Many

/-! ## Strings -/

/-- The characters up to the next `quote`, and what follows it. -/
def takeQuoted (quote : Char) : List Char → Option (List Char × List Char)
  | [] => none
  | c :: rest =>
      if c == quote then some ([], rest)
      else (takeQuoted quote rest).map fun (text, rest) => (c :: text, rest)

theorem takeQuoted_append {quote : Char} {text : List Char} (free : quote ∉ text)
    (rest : List Char) : takeQuoted quote (text ++ quote :: rest) = some (text, rest) := by
  induction text with
  | nil => simp [takeQuoted]
  | cons c text ih =>
      rw [List.mem_cons, not_or] at free
      simp [takeQuoted, Ne.symm free.1, ih free.2]

/-- A string between quotes of either kind. -/
def readLiteral : List Char → Option (List Char × List Char)
  | '\'' :: rest => takeQuoted '\'' rest
  | '"' :: rest => takeQuoted '"' rest
  | _ => none

theorem readLiteral_inApostrophes {text : List Char} (free : '\'' ∉ text) (rest : List Char) :
    readLiteral (inApostrophes text ++ rest) = some (text, rest) := by
  simpa [inApostrophes, readLiteral] using takeQuoted_append free rest

/-- A string expression: a string between quotes, or two or more of them that are joined. -/
def readString (input : List Char) : Option (String × List Char) :=
  match expect "concat(" input with
  | some rest => do
      let (first, rest) ← readLiteral rest
      let rest ← expect ", " rest
      let (second, rest) ← readLiteral rest
      let (others, rest) ← readMany ")" ", " readLiteral rest
      some (String.ofList (first ++ second ++ others.flatten), rest)
  | none => (readLiteral input).map fun (text, rest) => (String.ofList text, rest)

/-- The part of a text before its first apostrophe, and the parts behind its apostrophes. -/
theorem exists_apostropheParts (text : List Char) :
    ∃ part parts, apostropheParts text = part :: parts ∧ (∀ x ∈ part :: parts, '\'' ∉ x) ∧
      text = part ++ parts.flatMap ('\'' :: ·) := by
  induction text with
  | nil => exact ⟨[], [], rfl, by simp, rfl⟩
  | cons c rest ih =>
      obtain ⟨part, parts, split, free, whole⟩ := ih
      by_cases quote : c = '\''
      · subst quote
        refine ⟨[], part :: parts, by simp [apostropheParts, split], ?_, by simp [← whole]⟩
        exact List.forall_mem_cons.2 ⟨List.not_mem_nil, free⟩
      · have ⟨here, later⟩ := List.forall_mem_cons.1 free
        refine ⟨c :: part, parts, by simp [apostropheParts, quote, split], ?_, by simp [← whole]⟩
        refine List.forall_mem_cons.2 ⟨?_, later⟩
        rw [List.mem_cons, not_or]
        exact ⟨Ne.symm quote, here⟩

/-- How one string of a joined text is written: an apostrophe between quotation marks, anything
else between apostrophes. -/
def writeJoined (text : List Char) : List Char :=
  if text = ['\''] then "\"'\"".toList else inApostrophes text

/-- The strings behind the first one of a joined text. -/
def joinedRest (parts : List (List Char)) : List (List Char) :=
  parts.flatMap fun part => [['\''], part]

theorem joinedParts_cons {part : List Char} {parts : List (List Char)}
    (free : ∀ x ∈ parts, '\'' ∉ x) :
    joinedParts (part :: parts) =
      inApostrophes part ++ (joinedRest parts).flatMap fun x => ", ".toList ++ writeJoined x := by
  induction parts generalizing part with
  | nil => simp [joinedParts, joinedRest]
  | cons next parts ih =>
      have ⟨here, later⟩ := List.forall_mem_cons.1 free
      have plain : writeJoined next = inApostrophes next := by
        refine if_neg fun same => here ?_
        rw [same]
        exact List.mem_singleton_self _
      have apostrophe : ", \"'\", ".toList = ", ".toList ++ writeJoined ['\''] ++ ", ".toList := rfl
      rw [joinedParts, ih later, apostrophe, joinedRest, joinedRest, List.flatMap_cons,
        List.cons_append, List.flatMap_cons, List.cons_append, List.flatMap_cons, plain]
      · simp
      · simp

theorem readLiteral_writeJoined {text : List Char} (plain : text = ['\''] ∨ '\'' ∉ text)
    (rest : List Char) : readLiteral (writeJoined text ++ rest) = some (text, rest) := by
  by_cases apostrophe : text = ['\'']
  · subst apostrophe
    rfl
  · rw [writeJoined, if_neg apostrophe]
    exact readLiteral_inApostrophes (plain.resolve_left apostrophe) rest

theorem mem_joinedRest {parts : List (List Char)} (free : ∀ x ∈ parts, '\'' ∉ x) :
    ∀ x ∈ joinedRest parts, x = ['\''] ∨ '\'' ∉ x := by
  intro x member
  obtain ⟨part, listed, here⟩ := List.mem_flatMap.1 member
  simp only [List.mem_cons, List.not_mem_nil, or_false] at here
  rcases here with rfl | rfl
  · exact .inl rfl
  · exact .inr (free x listed)

theorem flatten_joinedRest (parts : List (List Char)) :
    (joinedRest parts).flatten = parts.flatMap ('\'' :: ·) := by
  induction parts with
  | nil => rfl
  | cons part parts ih => simpa [joinedRest] using ih

/-- A joined text with an apostrophe in it is read back, whatever follows it. -/
theorem readString_joined {part : List Char} {parts : List (List Char)} (several : parts ≠ [])
    (free : ∀ x ∈ part :: parts, '\'' ∉ x) (rest : List Char) :
    readString ("concat(".toList ++ joinedParts (part :: parts) ++ [')'] ++ rest) =
      some (String.ofList (part ++ parts.flatMap ('\'' :: ·)), rest) := by
  have ⟨here, later⟩ := List.forall_mem_cons.1 free
  rw [joinedParts_cons later, ← flatten_joinedRest]
  obtain ⟨next, others, rfl⟩ := List.exists_cons_of_ne_nil several
  have rows : joinedRest (next :: others) = ['\''] :: next :: joinedRest others := rfl
  have reads : ∀ x ∈ next :: joinedRest others, ∀ rest,
      readLiteral (writeJoined x ++ rest) = some (x, rest) :=
    fun x member => readLiteral_writeJoined (mem_joinedRest later x (List.mem_cons_of_mem _ member))
  have further : readMany ")" ", " readLiteral ((next :: joinedRest others).flatMap (fun x =>
      ", ".toList ++ writeJoined x) ++ (")".toList ++ rest)) = some (next :: joinedRest others, rest) :=
    readMany_append (fun _ => rfl) (by decide) reads rest
  have closing : [')'] ++ rest = ")".toList ++ rest := rfl
  rw [rows, List.flatMap_cons]
  simp only [List.append_assoc, closing]
  rw [readString, expect_append]
  simp only [readLiteral_inApostrophes here, readLiteral_writeJoined (.inl rfl), expect_append,
    further, bind, Option.bind_some]
  simp

/-- A string expression is read back, whatever follows it. -/
theorem readString_quoteChars (text rest : List Char) :
    readString (quoteChars text ++ rest) = some (String.ofList text, rest) := by
  unfold quoteChars
  split
  · next free =>
      have absent : '\'' ∉ text := by simpa using free
      have plain : expect "concat(" (inApostrophes text ++ rest) = none := rfl
      rw [readString, plain, readLiteral_inApostrophes absent]
      rfl
  · next apostrophe =>
      split
      · next free =>
          have absent : '"' ∉ text := by simpa using free
          have plain : expect "concat(" ('"' :: (text ++ ['"']) ++ rest) = none := rfl
          have read : readLiteral ('"' :: (text ++ ['"']) ++ rest) = some (text, rest) := by
            simpa [readLiteral] using takeQuoted_append absent rest
          rw [readString, plain, read]
          rfl
      · obtain ⟨part, parts, split, free, whole⟩ := exists_apostropheParts text
        have several : parts ≠ [] := by
          rintro rfl
          have here := (List.forall_mem_cons.1 free).1
          rw [List.flatMap_nil, List.append_nil] at whole
          rw [whole] at apostrophe
          simp [here] at apostrophe
        rw [split, readString_joined several free, ← whole]

@[simp] theorem readString_quote (text : String) (rest : List Char) :
    readString ((quote text).toList ++ rest) = some (text, rest) := by
  rw [quote, String.toList_ofList, readString_quoteChars, String.ofList_toList]

end ElementSearch.XPath
