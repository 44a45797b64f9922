/-
# Values of criteria

What a criterion asks for: a position among the matches, one literal, any of several
literals, or a match of a pattern.
-/

import ElementSearch.Pattern
import ElementSearch.Text.Quoted

namespace ElementSearch

variable [Compiler]

/-- The value of one criterion. -/
inductive Value
  /-- A position; negative ones count from the end. -/
  | index (position : Int64)
  /-- Exactly this text. -/
  | literal (text : String)
  /-- One of these texts. -/
  | oneOf (texts : List String)
  /-- A text that the pattern matches somewhere. -/
  | pattern (asked : Pattern)
  deriving DecidableEq

namespace Value

/-- The text of a single literal. -/
def literal? : Value → Option String
  | .literal text => some text
  | _ => none

theorem literal?_eq_some_iff {value : Value} {text : String} :
    value.literal? = some text ↔ value = .literal text := by
  cases value <;> simp [literal?]

/-- The pattern of a pattern value. -/
def pattern? : Value → Option Pattern
  | .pattern asked => some asked
  | _ => none

/-- Whether the value is a pattern. -/
def isPattern (value : Value) : Bool := value.pattern?.isSome

/-- Whether a text that was read satisfies the value. A missing text satisfies none, and nothing
satisfies a position. -/
def accepts : Value → Option String → Bool
  | _, none => false
  | .literal text, some actual => text == actual
  | .oneOf texts, some actual => texts.contains actual
  | .pattern asked, some actual => asked.matchesIn actual
  | .index _, some _ => false

/-- The value as messages show it. -/
def display : Value → String
  | .index position => toString position.toInt
  | .literal text => Text.quoted text
  | .oneOf texts => Text.quotedList texts
  | .pattern asked => asked.display

end Value

end ElementSearch
