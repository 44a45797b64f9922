/-
# What XPath conditions mean

An attribute is a set of nodes, and an empty one where it is missing. Compared with a text,
such a set equals none; but a function that takes it for a string gets the empty string,
which is why a condition on a function of an attribute can hold where there is none.
-/

import ElementSearch.Proofs.Text.Words
import ElementSearch.Text.Basic
import ElementSearch.Tree
import ElementSearch.XPath.Printer

namespace ElementSearch.XPath

/-! ## Functions on strings -/

/-- The white space of XPath. -/
def isSpace (c : Char) : Bool := c == ' ' || c == '\t' || c == '\r' || c == '\n'

/-- The white space of XPath is blank. -/
theorem isBlank_of_isSpace {c : Char} (space : isSpace c = true) : Text.isBlank c = true := by
  simp only [isSpace, Bool.or_eq_true, beq_iff_eq] at space
  obtain ((rfl | rfl) | rfl) | rfl := space
  all_goals decide

/-- What has no blanks has no white space. -/
theorem not_isSpace_of_not_isBlank {c : Char} (solid : Text.isBlank c = false) :
    isSpace c = false := by
  apply Bool.eq_false_iff.2
  intro space
  rw [isBlank_of_isSpace space] at solid
  cases solid

/-- A space is white space. -/
theorem isSpace_of_eq_space {c : Char} (single : (c == ' ') = true) : isSpace c = true := by
  rw [beq_iff_eq.1 single]
  rfl

theorem ne_space_of_not_isSpace {c : Char} (solid : isSpace c = false) : (c == ' ') = false := by
  apply Bool.eq_false_iff.2
  intro single
  rw [isSpace_of_eq_space single] at solid
  cases solid

/-- What `normalize-space` makes of a text: its words, with one space between neighbours. -/
def normalizeSpace (text : String) : String :=
  " ".intercalate ((Text.wordsBy isSpace text.toList).map String.ofList)

theorem toList_normalizeSpace (text : String) :
    (normalizeSpace text).toList = [' '].intercalate (Text.wordsBy isSpace text.toList) := by
  have same : String.toList ∘ String.ofList = id := funext fun _ => String.toList_ofList
  rw [normalizeSpace, String.toList_intercalate, List.map_map, same, List.map_id]
  rfl

/-- Between spaces, a normalized text has the words that the text has between white space. -/
theorem wordsBy_normalizeSpace (text : String) :
    Text.wordsBy (· == ' ') (normalizeSpace text).toList = Text.wordsBy isSpace text.toList := by
  rw [toList_normalizeSpace]
  apply Text.wordsBy_intercalate rfl
  intro word member
  refine ⟨Text.ne_nil_of_mem_wordsBy member, fun c inside => ?_⟩
  exact ne_space_of_not_isSpace (Text.solid_of_mem_wordsBy member c inside)

/-- What stands in a text and has no white space stands in the normalized text. -/
theorem infix_normalizeSpace {part : List Char} {text : String}
    (solid : ∀ c ∈ part, isSpace c = false) (inside : part <:+: text.toList) :
    part <:+: (normalizeSpace text).toList := by
  by_cases empty : part = []
  · rw [empty]
    exact List.nil_infix
  · obtain ⟨word, member, within⟩ := Text.exists_word_of_infix empty solid inside
    rw [toList_normalizeSpace]
    exact within.trans (Text.infix_intercalate member)

/-- What `translate` makes of a character: the one of `target` at the place where it stands in
`source`, or nothing if `target` ends before; others are left alone. -/
def translateChar (source target : List Char) (c : Char) : Option Char :=
  if source.contains c then target[source.idxOf c]? else some c

/-- What `translate` makes of a text. -/
def translate (source target text : String) : String :=
  String.ofList (text.toList.filterMap (translateChar source.toList target.toList))

/-- From upper to lower letters, `translate` lowers the ASCII letters. -/
theorem translateChar_letters (c : Char) :
    translateChar upperLetters.toList lowerLetters.toList c = some c.toLower := by
  by_cases upper : c ∈ upperLetters.toList
  · have lowers : (upperLetters.toList.all fun c =>
        translateChar upperLetters.toList lowerLetters.toList c == some c.toLower) = true := by
      decide
    exact beq_iff_eq.1 (List.all_eq_true.1 lowers c upper)
  · have outside : ¬ ('A'.val ≤ c.val ∧ c.val ≤ 'Z'.val) := by
      rintro ⟨low, high⟩
      have from65 : 65 ≤ c.toNat := low
      have to90 : c.toNat ≤ 90 := high
      have letters : ∀ place < 26, Char.ofNat (65 + place) ∈ upperLetters.toList := by decide
      have named := letters (c.toNat - 65) (by omega)
      rw [Nat.add_sub_cancel' from65, Char.ofNat_toNat] at named
      exact upper named
    have kept : c.toLower = c := dif_neg outside
    rw [translateChar, List.contains_eq_mem, decide_eq_false upper, kept]
    rfl

theorem translate_letters (text : String) :
    translate upperLetters lowerLetters text = String.ofList (text.toList.map Char.toLower) := by
  have lowers : translateChar upperLetters.toList lowerLetters.toList = some ∘ Char.toLower :=
    funext translateChar_letters
  rw [translate, lowers, List.filterMap_eq_map]

/-! ## Conditions -/

variable (labelled : String → Bool) (element : Element)

/-- The string that a function gets for a reading. -/
def Reading.string : Reading → String
  | .attr name => (element.attribute? name).getD ""
  | .localName => element.tag
  | .text => normalizeSpace element.text
  | .normalized reading => normalizeSpace reading.string
  | .lowered reading => translate upperLetters lowerLetters reading.string
  | .padded reading => " " ++ reading.string ++ " "

/-- Whether a reading equals a text. -/
def Reading.equals (text : String) : Reading → Bool
  | .attr name => element.attribute? name == some text
  | reading => reading.string element == text

mutual

/-- Whether an element meets a condition, where `labelled` says which texts its labels have. -/
def Condition.holds : Condition → Bool
  | .equals reading text => reading.equals element text
  | .includes reading text => Text.contains (reading.string element) text
  | .labelled text => labelled text
  | .never => false
  | .anyOf first others => first.holds || anyHolds others

/-- Whether an element meets one of several conditions. -/
def anyHolds : List Condition → Bool
  | [] => false
  | condition :: others => condition.holds || anyHolds others

end

theorem anyHolds_eq_any (conditions : List Condition) :
    anyHolds labelled element conditions = conditions.any (·.holds labelled element) := by
  induction conditions with
  | nil => rfl
  | cons condition others ih => rw [anyHolds, List.any_cons, ih]

/-- A text stands between spaces in a reading if it is one of its words between spaces. -/
theorem holds_includes_padded {word : String} (nonempty : word.toList ≠ [])
    (solid : ∀ c ∈ word.toList, (c == ' ') = false) (reading : Reading) :
    (Condition.includes (.padded reading) (" " ++ word ++ " ")).holds labelled element = true ↔
      word.toList ∈ Text.wordsBy (· == ' ') (reading.string element).toList := by
  rw [← Text.pad_infix_pad_iff nonempty solid, ← Text.occursIn_iff, Condition.holds, Text.contains,
    Reading.string]
  simp only [String.toList_append, Text.pad]
  rfl

/-- Whether a path selects an element below its root. -/
def Path.selects (path : Path) : Bool :=
  path.tag.all (· == element.tag) && path.conditions.all (·.holds labelled element)

end ElementSearch.XPath
