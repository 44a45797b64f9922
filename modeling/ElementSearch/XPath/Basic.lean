/-
# XPath queries

The part of XPath 1.0 that searches are written in: all descendants of one tag or of
any, with conditions that compare or search a string read off the element.
-/

namespace ElementSearch.XPath

/-- Strings that are read off an element. -/
inductive Reading
  /-- The value of an attribute. -/
  | attr (name : String)
  /-- The name of the element. -/
  | localName
  /-- The text of the element with its white space normalized. -/
  | text
  /-- Another reading with its white space normalized. -/
  | normalized (reading : Reading)
  /-- Another reading with its ASCII letters in lower case. -/
  | lowered (reading : Reading)
  /-- Another reading with a space on both sides. -/
  | padded (reading : Reading)
  deriving DecidableEq, Repr

/-- Conditions on an element. -/
inductive Condition
  /-- The reading is the text. -/
  | equals (reading : Reading) (text : String)
  /-- The text stands somewhere in the reading. -/
  | includes (reading : Reading) (text : String)
  /-- A label with the text points at the element or is its parent. -/
  | labelled (text : String)
  /-- No element at all. -/
  | never
  /-- One of several conditions. -/
  | anyOf (first : Condition) (others : List Condition)
  deriving Repr

/-- The descendants with a tag, or all of them, that meet every condition. -/
structure Path where
  tag : Option String
  conditions : List Condition

end ElementSearch.XPath
