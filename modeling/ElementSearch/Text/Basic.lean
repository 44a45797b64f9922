/-
# Texts

What texts are read as: the blanks in them and the words between blanks, one text in
another, their lower case, and characters by number.

Blanks are the characters with the Unicode property `White_Space`. Text read off a
page is trimmed of them, split into words at them, and collapsed so that single
spaces stand between its words.

Most characters lower on their own. A capital sigma looks at its surroundings: it
becomes the final sigma where a cased letter stands before it and none follows, with
characters that ignore case skipped on both sides. A dotted capital I becomes two
characters.
-/

import ElementSearch.Unicode.CaseMap
import ElementSearch.Unicode.Property

namespace ElementSearch.Text

open Unicode

/-! ## Blanks and words -/

/-- Whether `c` has the Unicode property `White_Space`. -/
def isBlank (c : Char) : Bool :=
  ('\t' ≤ c && c ≤ '\r') || c == ' ' || c == '\u0085' || c == '\u00A0' || c == '\u1680' ||
    ('\u2000' ≤ c && c ≤ '\u200A') || c == '\u2028' || c == '\u2029' || c == '\u202F' ||
    c == '\u205F' || c == '\u3000'

/-- Add a character in front of the first word. -/
def consWord (c : Char) : List (List Char) → List (List Char)
  | [] => [[c]]
  | word :: words => (c :: word) :: words

/-- The maximal runs of characters outside `separator`, in order. -/
def wordsBy (separator : Char → Bool) : List Char → List (List Char)
  | [] => []
  | [c] => if separator c then [] else [[c]]
  | c :: d :: rest =>
      if separator c then wordsBy separator (d :: rest)
      else if separator d then [c] :: wordsBy separator (d :: rest)
      else consWord c (wordsBy separator (d :: rest))

/-- Words are never empty. -/
theorem ne_nil_of_mem_wordsBy {separator : Char → Bool} {text word : List Char}
    (member : word ∈ wordsBy separator text) : word ≠ [] := by
  induction text using wordsBy.induct separator generalizing word with
  | case1 => simp [wordsBy] at member
  | case2 c blank => simp [wordsBy, blank] at member
  | case3 c solid => simp_all [wordsBy]
  | case4 c d rest blank ih => exact ih (by simpa [wordsBy, blank] using member)
  | case5 c d rest solid blank ih =>
      simp only [wordsBy, solid, blank, if_true] at member
      rcases List.mem_cons.1 member with rfl | later
      · simp
      · exact ih later
  | case6 c d rest solid solidNext ih =>
      simp only [wordsBy, solid, solidNext] at member
      cases found : wordsBy separator (d :: rest) with
      | nil => simp_all [consWord]
      | cons first others =>
          rw [found] at member ih
          simp only [consWord, Bool.false_eq_true, if_false] at member
          rcases List.mem_cons.1 member with rfl | later
          · simp
          · exact ih (List.mem_cons_of_mem _ later)

/-- The words of a text: its maximal runs of characters that are not blank. -/
def words (text : String) : List String :=
  (wordsBy isBlank text.toList).map String.ofList

/-- The text without the blanks at its two ends. -/
def trim (text : String) : String :=
  String.ofList ((text.toList.dropWhile isBlank).reverse.dropWhile isBlank).reverse

/-- The words of a text with one space between neighbours. -/
def collapse (text : String) : String :=
  " ".intercalate (words text)

/-! ## One text in another -/

/-- Whether `part` stands somewhere in `whole` as one run of characters. -/
def occursIn (part : List Char) : List Char → Bool
  | [] => part.isEmpty
  | c :: rest => part.isPrefixOf (c :: rest) || occursIn part rest

theorem occursIn_iff {part whole : List Char} :
    occursIn part whole = true ↔ part <:+: whole := by
  induction whole with
  | nil => simp [occursIn]
  | cons c rest ih => simp [occursIn, ih, List.infix_cons_iff]

/-- Whether the text `part` stands somewhere in the text `whole`. -/
def contains (whole part : String) : Bool :=
  occursIn part.toList whole.toList

/-! ## Lower case -/

/-- Whether a cased letter comes next once characters that ignore case are skipped. -/
def meetsCased (text : List Char) : Bool :=
  match text.dropWhile Property.caseIgnorable.has with
  | [] => false
  | c :: _ => Property.cased.has c

/-- Lower case of `text`, where `before` holds what precedes it, nearest first. -/
def lowercaseFrom (before : List Char) : List Char → List Char
  | [] => []
  | c :: rest =>
      (if c == '\u03A3' then
        [if meetsCased before && !meetsCased rest then '\u03C2' else '\u03C3']
      else if c == '\u0130' then ['i', '\u0307']
      else [lowerChar c]) ++ lowercaseFrom (c :: before) rest

/-- Lower case of a text. -/
def lowercase (text : String) : String :=
  String.ofList (lowercaseFrom [] text.toList)

/-- Whether two texts differ at most in the case of ASCII letters. -/
def sameAsciiLetters (first second : String) : Bool :=
  first.toList.map Char.toLower == second.toList.map Char.toLower

/-! ## Characters by number -/

/-- The value of a hexadecimal digit. -/
def hexDigit? (c : Char) : Option Nat :=
  if '0' ≤ c ∧ c ≤ '9' then some (c.toNat - '0'.toNat)
  else if 'a' ≤ c ∧ c ≤ 'f' then some (c.toNat - 'a'.toNat + 10)
  else if 'A' ≤ c ∧ c ≤ 'F' then some (c.toNat - 'A'.toNat + 10)
  else none

/-- The character with a code point, unless it is a surrogate or past the last one. -/
def charOfNat? (n : Nat) : Option Char :=
  if h : n.isValidChar then some (Char.ofNatAux n h) else none

end ElementSearch.Text
