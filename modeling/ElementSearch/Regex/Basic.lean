/-
# Regular expressions

The expressions that patterns denote, and what it means for one to match: a run of a text
matches where it stands, since assertions look at the characters beside a position. A text
is accepted when some run of it matches.
-/

import ElementSearch.Regex.CharSet

namespace ElementSearch

/-- Assertions about a position: each looks at the characters on its two sides. Those about
words say whether they keep to ASCII word characters. -/
inductive Regex.Look
  | textStart
  | textEnd
  | lineStart
  | lineEnd
  | lineStartCrlf
  | lineEndCrlf
  | wordBoundary (ascii : Bool)
  | notWordBoundary (ascii : Bool)
  | wordStart (ascii : Bool)
  | wordEnd (ascii : Bool)
  | wordStartHalf (ascii : Bool)
  | wordEndHalf (ascii : Bool)
  deriving DecidableEq, Repr

/-- Regular expressions over characters. -/
inductive Regex
  /-- Matches the empty run everywhere. -/
  | empty
  /-- Matches one character of the set. -/
  | one (set : Regex.CharSet)
  /-- Matches the empty run where the assertion holds. -/
  | look (assertion : Regex.Look)
  /-- Matches a run of the first followed by a run of the second. -/
  | seq (first second : Regex)
  /-- Matches what either matches. -/
  | alt (first second : Regex)
  /-- Matches `least` runs of the body in a row, and up to `extra` more of them; any number more,
  where there is no bound. -/
  | iterate (body : Regex) (least : Nat) (extra : Option Nat)

namespace Regex

/-- Whether there is a character and it is a word character. -/
def wordAt (ascii : Bool) : Option Char → Bool
  | some c => (CharSet.word ascii).has c
  | none => false

/-- Whether the assertion holds between the characters `previous` and `next`; `none` stands
for an end of the text. -/
def Look.holds (previous next : Option Char) : Look → Bool
  | .textStart => previous.isNone
  | .textEnd => next.isNone
  | .lineStart => previous.isNone || previous == some '\n'
  | .lineEnd => next.isNone || next == some '\n'
  | .lineStartCrlf =>
      previous.isNone || previous == some '\n' || (previous == some '\r' && next != some '\n')
  | .lineEndCrlf =>
      next.isNone || next == some '\r' || (next == some '\n' && previous != some '\r')
  | .wordBoundary ascii => wordAt ascii previous != wordAt ascii next
  | .notWordBoundary ascii => wordAt ascii previous == wordAt ascii next
  | .wordStart ascii => !wordAt ascii previous && wordAt ascii next
  | .wordEnd ascii => wordAt ascii previous && !wordAt ascii next
  | .wordStartHalf ascii => !wordAt ascii previous
  | .wordEndHalf ascii => !wordAt ascii next

/-- The character of a text that stands before a position. -/
def before? (text : List Char) : Nat → Option Char
  | 0 => none
  | place + 1 => text[place]?

/-- `Matches text regex start stop`: the run of the text from the position `start` to the position
`stop` matches the expression. Positions count the characters before them. -/
inductive Matches (text : List Char) : Regex → Nat → Nat → Prop
  | empty {place : Nat} (inside : place ≤ text.length) : Matches text .empty place place
  | one {place : Nat} {set : CharSet} {c : Char} (here : text[place]? = some c)
      (member : set.has c = true) : Matches text (.one set) place (place + 1)
  | look {place : Nat} {assertion : Look} (inside : place ≤ text.length)
      (holds : assertion.holds (before? text place) text[place]? = true) :
      Matches text (.look assertion) place place
  | seq {start middle stop : Nat} {first second : Regex} (head : Matches text first start middle)
      (tail : Matches text second middle stop) : Matches text (.seq first second) start stop
  | altLeft {start stop : Nat} {first second : Regex} (chosen : Matches text first start stop) :
      Matches text (.alt first second) start stop
  | altRight {start stop : Nat} {first second : Regex} (chosen : Matches text second start stop) :
      Matches text (.alt first second) start stop
  | iterateStop {place : Nat} {body : Regex} {extra : Option Nat} (inside : place ≤ text.length) :
      Matches text (.iterate body 0 extra) place place
  | iterateLeast {start middle stop : Nat} {body : Regex} {least : Nat} {extra : Option Nat}
      (head : Matches text body start middle)
      (tail : Matches text (.iterate body least extra) middle stop) :
      Matches text (.iterate body (least + 1) extra) start stop
  | iterateExtra {start middle stop : Nat} {body : Regex} {extra : Option Nat}
      (room : extra ≠ some 0) (head : Matches text body start middle)
      (tail : Matches text (.iterate body 0 (extra.map (· - 1))) middle stop) :
      Matches text (.iterate body 0 extra) start stop

/-- Some run of the text matches. -/
def Accepts (regex : Regex) (text : List Char) : Prop :=
  ∃ start stop, Matches text regex start stop

/-- The expression for one given character. -/
def char (c : Char) : Regex := .one (.single c)

/-- One expression after the other. -/
def concat : List Regex → Regex
  | [] => .empty
  | [only] => only
  | first :: rest => .seq first (concat rest)

/-- Any of the expressions; of none, the empty run. -/
def choice : List Regex → Regex
  | [] => .empty
  | [only] => only
  | first :: rest => .alt first (choice rest)

end Regex

end ElementSearch
