/-
# Reading CSS strings

A reader for the string tokens of CSS. Before anything is read, every end of a line is made a
line feed and NUL is replaced. A string stands between quotes of one kind. A backslash in it
escapes what comes next: hexadecimal digits stand for the character with that number, the end of
a line stands for nothing, and anything else for itself. An end of a line that is not escaped
makes the string a bad one, whatever follows. What is written between quotes is read back
exactly if no line ends in it.
-/

import ElementSearch.Proofs.Css.Meaning
import ElementSearch.Text.Basic

namespace ElementSearch.Css

/-! ## Before reading -/

/-- The ends of lines. -/
def isLineEnd (c : Char) : Bool := c == '\n' || c == '\r' || c == '\x0C'

/-- A character as it is read. -/
def readable (c : Char) : Char :=
  if isLineEnd c then '\n' else if c == '\x00' then '\uFFFD' else c

/-- A text as it is read; a carriage return and a line feed are one end of a line. -/
def preprocess : List Char → List Char
  | [] => []
  | c :: rest =>
      if c == '\r' && rest.head? == some '\n' then preprocess rest
      else readable c :: preprocess rest

theorem readable_of_not_isLineEnd {c : Char} (inLine : isLineEnd c = false) :
    readable c = if c == '\x00' then '\uFFFD' else c := by
  rw [readable, inLine]
  rfl

theorem readable_eq_self_iff {c : Char} (inLine : isLineEnd c = false) :
    readable c = c ↔ c ≠ '\x00' := by
  rw [readable_of_not_isLineEnd inLine]
  by_cases nul : c = '\x00'
  · subst nul
    exact iff_of_false (by decide) (not_not_intro rfl)
  · rw [if_neg (mt beq_iff_eq.1 nul)]
    exact iff_of_true rfl nul

theorem preprocess_cons {c : Char} (inLine : isLineEnd c = false) (rest : List Char) :
    preprocess (c :: rest) = readable c :: preprocess rest := by
  have other : (c == '\r') = false := by
    simp only [isLineEnd, Bool.or_eq_false_iff] at inLine
    exact inLine.1.2
  rw [preprocess, other]
  rfl

/-- An end of a line is read as a line feed, whatever follows. -/
theorem exists_preprocess_eq_lineFeed {c : Char} (ends : isLineEnd c = true) (rest : List Char) :
    ∃ later, preprocess (c :: rest) = '\n' :: later := by
  rw [preprocess]
  split
  · next both =>
      obtain ⟨-, first⟩ := Bool.and_eq_true_iff.1 both
      obtain ⟨later, rfl⟩ := List.head?_eq_some_iff.1 (beq_iff_eq.1 first)
      exact ⟨preprocess later, rfl⟩
  · exact ⟨preprocess rest, by rw [readable, ends]; rfl⟩

/-- What stands before a quotation mark is read for itself. -/
theorem preprocess_append_quote (before rest : List Char) :
    preprocess (before ++ '"' :: rest) = preprocess before ++ preprocess ('"' :: rest) := by
  induction before with
  | nil => rfl
  | cons c before ih =>
      -- A quotation mark is no line feed, so that a carriage return before it stands alone.
      have next : ((before ++ '"' :: rest).head? == some '\n') = (before.head? == some '\n') := by
        cases before with
        | nil => rfl
        | cons d before => rfl
      rw [List.cons_append, preprocess, preprocess, next, ih]
      split
      · rfl
      · rfl

/-! ## The reader -/

/-- What is read off the front of a text that a string begins in. -/
inductive StringToken
  /-- A string that ends at its quote. -/
  | closed (text : List Char)
  /-- A string that the text ends in. -/
  | unclosed (text : List Char)
  /-- A line ends in the string. -/
  | bad
  deriving DecidableEq, Repr

/-- The token with more text at its front. -/
def StringToken.prepend (more : List Char) : StringToken → StringToken
  | .closed text => .closed (more ++ text)
  | .unclosed text => .unclosed (more ++ text)
  | .bad => .bad

/-- The character with a number, if there is one that is not NUL. -/
def numbered (number : Nat) : Char :=
  if number == 0 then '\uFFFD' else (Text.charOfNat? number).getD '\uFFFD'

/-- What an escape means that a text begins with, behind the backslash, and how much of the text
belongs to it: up to six digits with a space behind them, or one character. -/
def readEscape : List Char → List Char × Nat
  | [] => ([], 0)
  | c :: rest =>
      if c == '\n' then ([], 1)
      else match Text.hexDigit? c with
        | none => ([c], 1)
        | some first =>
            let digits := ((rest.take 5).map Text.hexDigit?).takeWhile Option.isSome
            let number := digits.foldl (fun number digit => 16 * number + digit.getD 0) first
            let spaces := if rest[digits.length]?.any isSpace then 1 else 0
            ([numbered number], 1 + digits.length + spaces)

/-- The rest of a string with its quote, behind a number of characters that are read already. -/
def readFrom (quote : Char) : Nat → List Char → StringToken × List Char
  | _, [] => (.unclosed [], [])
  | read + 1, _ :: rest => readFrom quote read rest
  | 0, c :: rest =>
      if c == quote then (.closed [], rest)
      else if c == '\n' then (.bad, c :: rest)
      else if c == '\\' then
        (readFrom quote (readEscape rest).2 rest).map (.prepend (readEscape rest).1) id
      else (readFrom quote 0 rest).map (.prepend [c]) id

/-- The string token that a text begins with, and the text behind it. -/
def readString : List Char → Option (StringToken × List Char)
  | '"' :: rest => some (readFrom '"' 0 rest)
  | '\'' :: rest => some (readFrom '\'' 0 rest)
  | _ => none

/-! ## Written strings -/

/-- A text between quotation marks. -/
def inString (text : String) : String := "\"" ++ escape text ++ "\""

theorem toList_inString (text : String) :
    (inString text).toList = '"' :: (text.toList.flatMap escapeChar ++ ['"']) := by
  have contents : (escape text).toList = text.toList.flatMap escapeChar := String.toList_ofList
  rw [inString, String.toList_append, String.toList_append, contents, List.append_assoc]
  rfl

/-- A backslash stands before backslashes and quotation marks, and before nothing else. -/
theorem escapeChar_cases (c : Char) :
    (c = '\\' ∨ c = '"') ∧ escapeChar c = ['\\', c] ∨
      (c ≠ '\\' ∧ c ≠ '"') ∧ escapeChar c = [c] := by
  unfold escapeChar
  by_cases slash : c = '\\'
  · exact .inl ⟨.inl slash, by rw [slash]; rfl⟩
  by_cases quote : c = '"'
  · exact .inl ⟨.inr quote, by rw [quote]; rfl⟩
  · rw [if_neg (mt beq_iff_eq.1 slash), if_neg (mt beq_iff_eq.1 quote)]
    exact .inr ⟨⟨slash, quote⟩, rfl⟩

/-- What is written for a character is read as what would be written for it as it is read. -/
theorem preprocess_escapeChar {c : Char} (inLine : isLineEnd c = false) (rest : List Char) :
    preprocess (escapeChar c ++ rest) = escapeChar (readable c) ++ preprocess rest := by
  obtain ⟨rfl | rfl, -⟩ | ⟨⟨slash, quote⟩, plain⟩ := escapeChar_cases c
  · rfl
  · rfl
  · have single : escapeChar (readable c) = [readable c] := by
      rw [readable_of_not_isLineEnd inLine]
      split
      · rfl
      · exact plain
    rw [plain, single, List.singleton_append, preprocess_cons inLine, List.singleton_append]

/-- What is written for a character is read as the character, whatever follows. -/
theorem readFrom_escapeChar {c : Char} (other : c ≠ '\n') (rest : List Char) :
    readFrom '"' 0 (escapeChar c ++ rest) = (readFrom '"' 0 rest).map (.prepend [c]) id := by
  obtain ⟨rfl | rfl, -⟩ | ⟨⟨slash, quote⟩, plain⟩ := escapeChar_cases c
  · rfl
  · rfl
  · rw [plain, List.singleton_append, readFrom, if_neg (mt beq_iff_eq.1 quote),
      if_neg (mt beq_iff_eq.1 other), if_neg (mt beq_iff_eq.1 slash)]

/-! ## Read back -/

theorem readable_ne_lineFeed {c : Char} (inLine : isLineEnd c = false) : readable c ≠ '\n' := by
  rw [readable_of_not_isLineEnd inLine]
  split
  · decide
  · rintro rfl
    cases inLine

/-- A character that ends no line is read, and the rest of the string is read behind it. -/
theorem readFrom_written {c : Char} (inLine : isLineEnd c = false) (rest : List Char) :
    readFrom '"' 0 (preprocess (escapeChar c ++ rest)) =
      (readFrom '"' 0 (preprocess rest)).map (.prepend [readable c]) id := by
  rw [preprocess_escapeChar inLine, readFrom_escapeChar (readable_ne_lineFeed inLine)]

/-- A text without ends of lines is read to its quotation mark and no further. -/
theorem readFrom_of_inLine {text : List Char} (inLine : ∀ c ∈ text, isLineEnd c = false)
    (rest : List Char) :
    readFrom '"' 0 (preprocess (text.flatMap escapeChar ++ '"' :: rest)) =
      (.closed (text.map readable), preprocess rest) := by
  induction text with
  | nil => rfl
  | cons c text ih =>
      have ⟨here, later⟩ := List.forall_mem_cons.1 inLine
      rw [List.flatMap_cons, List.append_assoc, readFrom_written here, ih later]
      rfl

/-- A text with an end of a line in it is a bad string. -/
theorem readFrom_of_isLineEnd {text : List Char} (broken : ∃ c ∈ text, isLineEnd c = true)
    (rest : List Char) :
    ∃ left, readFrom '"' 0 (preprocess (text.flatMap escapeChar ++ '"' :: rest)) =
      (.bad, left) := by
  induction text with
  | nil =>
      obtain ⟨c, member, -⟩ := broken
      cases member
  | cons c text ih =>
      rw [List.flatMap_cons, List.append_assoc]
      cases ends : isLineEnd c with
      | true =>
          have single : escapeChar c = [c] := by
            obtain ⟨rfl | rfl, -⟩ | ⟨-, plain⟩ := escapeChar_cases c
            · cases ends
            · cases ends
            · exact plain
          obtain ⟨later, begins⟩ := exists_preprocess_eq_lineFeed ends
            (text.flatMap escapeChar ++ '"' :: rest)
          rw [single, List.singleton_append, begins]
          exact ⟨_, rfl⟩
      | false =>
          have behind : ∃ d ∈ text, isLineEnd d = true := by
            obtain ⟨d, member, broken⟩ := broken
            obtain rfl | member := List.mem_cons.1 member
            · rw [ends] at broken
              cases broken
            · exact ⟨d, member, broken⟩
          obtain ⟨left, bad⟩ := ih behind
          rw [readFrom_written ends, bad]
          exact ⟨left, rfl⟩

theorem readString_inString (text : String) (rest : List Char) :
    readString (preprocess ((inString text).toList ++ rest)) =
      some (readFrom '"' 0 (preprocess (text.toList.flatMap escapeChar ++ '"' :: rest))) := by
  rw [toList_inString, List.cons_append, List.append_assoc]
  rfl

/-- A line that ends in a string makes it a bad one. -/
theorem readString_of_isLineEnd {text : String} (broken : ∃ c ∈ text.toList, isLineEnd c = true)
    (rest : List Char) :
    ∃ left, readString (preprocess ((inString text).toList ++ rest)) = some (.bad, left) := by
  obtain ⟨left, bad⟩ := readFrom_of_isLineEnd broken rest
  exact ⟨left, by rw [readString_inString, bad]⟩

/-- A string is read back for the text that was written, and up to where it was written, exactly if
no line ends in the text and there is no NUL in it. -/
theorem readString_eq_closed_iff (text : String) (rest : List Char) :
    readString (preprocess ((inString text).toList ++ rest)) =
        some (.closed text.toList, preprocess rest) ↔
      ∀ c ∈ text.toList, isLineEnd c = false ∧ c ≠ '\x00' := by
  by_cases broken : ∃ c ∈ text.toList, isLineEnd c = true
  · obtain ⟨left, bad⟩ := readString_of_isLineEnd broken rest
    obtain ⟨c, member, ends⟩ := broken
    rw [bad]
    constructor
    · intro same
      cases same
    · intro each
      rw [(each c member).1] at ends
      cases ends
  · have inLine : ∀ c ∈ text.toList, isLineEnd c = false := by
      intro c member
      exact Bool.not_eq_true _ ▸ fun ends => broken ⟨c, member, ends⟩
    rw [readString_inString, readFrom_of_inLine inLine, Option.some_inj, Prod.mk.injEq,
      StringToken.closed.injEq, and_iff_left rfl]
    constructor
    · intro same c member
      refine ⟨inLine c member, (readable_eq_self_iff (inLine c member)).1 ?_⟩
      have kept := List.map_eq_map_iff.1 (same.trans (List.map_id _).symm)
      exact kept c member
    · intro each
      refine (List.map_congr_left fun c member => ?_).trans (List.map_id _)
      exact (readable_eq_self_iff (inLine c member)).2 (each c member).2

end ElementSearch.Css
