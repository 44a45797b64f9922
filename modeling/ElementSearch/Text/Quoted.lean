/-
# Quoted text in messages

Messages show a text between double quotes. Quotes, backslashes and the common control
characters are written with a backslash; whatever would not be seen on its own, a
combining mark for instance, is written by its code point.
-/

import ElementSearch.Unicode.Property

namespace ElementSearch.Text

open Unicode

/-- Whether a character shows on its own: a letter, mark, number, punctuation or symbol, or
the plain space. ASCII is answered without the tables. -/
def isPrintable (c : Char) : Bool :=
  if c.toNat < 0x80 then ' ' ≤ c && c ≤ '~'
  else Category.hasAny
    (Category.letters ++ Category.marks ++ Category.numbers ++ Category.punctuation ++
      Category.symbols) c

/-- Whether a character extends the one before it. No ASCII character does. -/
def extendsPrevious (c : Char) : Bool :=
  0x80 ≤ c.toNat && Property.graphemeExtend.has c

/-- The code point of `c` in lower-case hexadecimal, without leading zeros. -/
def hexDigits (c : Char) : String :=
  String.ofList (Nat.toDigits 16 c.toNat)

/-- How one character is written between the quotes. -/
def quotedChar (c : Char) : String :=
  if c == '\u0000' then "\\0"
  else if c == '\t' then "\\t"
  else if c == '\r' then "\\r"
  else if c == '\n' then "\\n"
  else if c == '\\' then "\\\\"
  else if c == '"' then "\\\""
  else if extendsPrevious c || !isPrintable c then "\\u\x7b" ++ hexDigits c ++ "\x7d"
  else String.singleton c

/-- A text as messages show it. -/
def quoted (text : String) : String :=
  "\"" ++ String.join (text.toList.map quotedChar) ++ "\""

/-- A list of texts as messages show it. -/
def quotedList (texts : List String) : String :=
  "[" ++ ", ".intercalate (texts.map quoted) ++ "]"

end ElementSearch.Text
