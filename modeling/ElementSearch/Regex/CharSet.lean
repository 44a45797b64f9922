/-
# Sets of characters in patterns

A pattern item that stands for one character is a set of characters, given by its
membership test.
-/

import ElementSearch.Text.Basic

namespace ElementSearch.Regex

open Unicode

/-- A set of characters. -/
structure CharSet where
  has : Char → Bool

namespace CharSet

/-- No character. -/
def empty : CharSet := ⟨fun _ => false⟩

/-- One character. -/
def single (c : Char) : CharSet := ⟨(· == c)⟩

/-- The characters from `low` to `high`, both included. -/
def interval (low high : Char) : CharSet := ⟨fun c => low ≤ c && c ≤ high⟩

/-- Every character. -/
def full : CharSet := ⟨fun _ => true⟩

/-- The characters of either set. -/
def union (first second : CharSet) : CharSet := ⟨fun c => first.has c || second.has c⟩

/-- The characters of both sets. -/
def inter (first second : CharSet) : CharSet := ⟨fun c => first.has c && second.has c⟩

/-- The characters of the first set that are not in the second. -/
def diff (first second : CharSet) : CharSet := ⟨fun c => first.has c && !second.has c⟩

/-- The characters of exactly one of the sets. -/
def symmDiff (first second : CharSet) : CharSet := ⟨fun c => first.has c != second.has c⟩

/-- The characters outside the set. -/
def compl (set : CharSet) : CharSet := ⟨fun c => !set.has c⟩

/-- The complement where `negated` asks for it. -/
def complIf (negated : Bool) (set : CharSet) : CharSet :=
  if negated then set.compl else set

/-- The characters listed by bounds. -/
def ofIntervals (bounds : List (Char × Char)) : CharSet :=
  ⟨fun c => bounds.any fun (low, high) => low ≤ c && c ≤ high⟩

/-- The code points of a table. -/
def ofRanges (table : RangeSet) : CharSet := ⟨table.contains⟩

/-- The characters of some general categories. -/
def ofCategories (categories : List Category) : CharSet := ⟨Category.hasAny categories⟩

/-- The set together with every character that equals a member up to simple case folding. -/
def foldCase (set : CharSet) : CharSet := ⟨fun c => (caseVariants c).any set.has⟩

/-- The other case of an ASCII letter; every other character stays. -/
def swapAscii (c : Char) : Char :=
  if 'a' ≤ c ∧ c ≤ 'z' then c.toUpper else c.toLower

/-- The set together with the other case of its ASCII letters. -/
def foldAsciiCase (set : CharSet) : CharSet := ⟨fun c => set.has c || set.has (swapAscii c)⟩

/-- The ASCII word characters: letters, digits and the underscore. -/
def isAsciiWord (c : Char) : Bool := c.isAlphanum || c == '_'

/-- The word characters: letters, marks, decimal digits, connectors and the joiners. ASCII is
answered without the tables. -/
def isWord (c : Char) : Bool :=
  if c.toNat < 0x80 then isAsciiWord c
  else Property.alphabetic.has c || Category.hasAny Category.marks c ||
    Category.hasAny [.decimalNumber, .connectorPunctuation] c || Property.joinControl.has c

/-- The decimal digits of every writing system. ASCII is answered without the tables. -/
def isDigit (c : Char) : Bool :=
  if c.toNat < 0x80 then c.isDigit else Category.decimalNumber.has c

/-- The word characters as a set; `ascii` keeps to the ASCII ones. -/
def word (ascii : Bool) : CharSet :=
  ⟨if ascii then isAsciiWord else isWord⟩

/-- The decimal digits as a set; `ascii` keeps to the ASCII ones. -/
def digit (ascii : Bool) : CharSet :=
  ⟨if ascii then Char.isDigit else isDigit⟩

/-- The blanks as a set; `ascii` keeps to the ASCII ones. -/
def blank (ascii : Bool) : CharSet :=
  ⟨fun c => (!ascii || c.toNat < 0x80) && Text.isBlank c⟩

end CharSet

end ElementSearch.Regex
