/-
# Searching a text

A search keeps the set of positions that the expression can have reached. A text of
`n` characters has `n + 1` positions, and a set of them is a list of `n + 1` marks.
Every expression turns the marks where it may start into the marks where it may end;
a repetition marks more positions until no more are added. Runs never end before they
start, so that no more rounds are needed for it than the text has characters.
-/

import ElementSearch.Regex.Basic

namespace ElementSearch.Regex

/-- For every position of a text, whether it belongs to a set of positions. -/
abbrev Marks := List Bool

namespace Marks

/-- The positions of either set. -/
def union (first second : Marks) : Marks :=
  List.zipWith (· || ·) first second

/-- Whether some position belongs to the set. -/
def any (marks : Marks) : Bool := marks.contains true

end Marks

/-- The marked positions, each moved past one character of the set. -/
def stepMarks (set : CharSet) : List Char → Marks → Marks
  | c :: text, mark :: marks => (mark && set.has c) :: stepMarks set text marks
  | _, _ => []

/-- The marked positions where the assertion holds; `previous` is the character before the
first position. -/
def lookMarks (assertion : Look) : Option Char → List Char → Marks → Marks
  | previous, [], mark :: _ => [mark && assertion.holds previous none]
  | previous, c :: text, mark :: marks =>
      (mark && assertion.holds previous (some c)) :: lookMarks assertion (some c) text marks
  | _, _, [] => []

/-- The ends of exactly `rounds` runs in a row; further runs that change nothing are left out. -/
def advance (ends : Marks → Marks) : Nat → Marks → Marks
  | 0, marks => marks
  | rounds + 1, marks =>
      let next := ends marks
      if next == marks then marks else advance ends rounds next

/-- The ends of up to `rounds` runs in a row. -/
def grow (ends : Marks → Marks) (rounds : Nat) (marks : Marks) : Marks :=
  advance (fun marks => marks.union (ends marks)) rounds marks

/-- The positions where a run of the expression may end that starts at a marked position. -/
def ends (text : List Char) : Regex → Marks → Marks
  | .empty, starts => starts
  | .one set, starts => false :: stepMarks set text starts
  | .look assertion, starts => lookMarks assertion none text starts
  | .seq first second, starts => ends text second (ends text first starts)
  | .alt first second, starts => (ends text first starts).union (ends text second starts)
  | .iterate body least extra, starts =>
      grow (ends text body) (extra.getD text.length) (advance (ends text body) least starts)

/-- Whether the expression matches some run of the text. -/
def accepts (regex : Regex) (text : List Char) : Bool :=
  (regex.ends text (List.replicate (text.length + 1) true)).any

end ElementSearch.Regex
