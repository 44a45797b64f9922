/-
# Reading a pattern

The tokens of a pattern are put together in one pass: items gather in the alternative
being read, a repetition takes the last of them, and a group that closes becomes an
item of the group around it. How large an expression may get is no matter of how
patterns are read; that is left to what compiles them.
-/

import ElementSearch.Regex.Token

namespace ElementSearch.Regex

/-- A group being read: its finished alternatives and the items of the current one, both with
the latest first. -/
structure OpenGroup where
  finished : List Piece
  items : List Piece

namespace OpenGroup

/-- A group with nothing in it. -/
def start : OpenGroup := ⟨[], []⟩

/-- Add an item to the current alternative. -/
def push (group : OpenGroup) (piece : Piece) : OpenGroup :=
  { group with items := piece :: group.items }

/-- Start the next alternative. -/
def nextAlternative (group : OpenGroup) : OpenGroup :=
  ⟨.sequence group.items.reverse :: group.finished, []⟩

/-- Repeat the last item. There must be one, and it must be an expression. -/
def repeatLast (group : OpenGroup) (least : Nat) (most : Option Nat) : Option OpenGroup :=
  match group.items with
  | last :: others =>
      if last.repeatable then some { group with items := last.iterate least most :: others }
      else none
  | [] => none

/-- The piece that the group's contents make. -/
def contents (group : OpenGroup) : Piece :=
  .alternatives (.sequence group.items.reverse :: group.finished).reverse

end OpenGroup

/-- Put tokens together; `outer` holds the groups around the current one. -/
def assemble : List Token → OpenGroup → List OpenGroup → Option Piece
  | [], group, [] => some group.contents
  | [], _, _ :: _ => none
  | .item piece :: tokens, group, outer => assemble tokens (group.push piece) outer
  | .flagSwitch :: tokens, group, outer => assemble tokens (group.push .flagSwitch) outer
  | .bar :: tokens, group, outer => assemble tokens group.nextAlternative outer
  | .groupStart _ :: tokens, group, outer => assemble tokens .start (group :: outer)
  | .groupEnd :: tokens, group, parent :: outer =>
      assemble tokens (parent.push group.contents.group) outer
  | .groupEnd :: _, _, [] => none
  | .times least most :: tokens, group, outer =>
      (group.repeatLast least most).bind fun group => assemble tokens group outer

/-- The names under which groups capture. -/
def groupNames (tokens : List Token) : List String :=
  tokens.filterMap fun
    | .groupStart name => name
    | _ => none

/-- The tokens of a whole pattern. -/
def tokens (names : PropertyNames) (ignoreCase : Bool) (pattern : List Char) :
    Option (List Token) :=
  tokenize names (pattern.length + 1) (.initial ignoreCase) [] pattern

/-- The expression that a pattern denotes; `none` if the pattern is malformed, names two groups
alike, or nests too deeply. -/
def parse (names : PropertyNames) (ignoreCase : Bool) (pattern : String) : Option Regex := do
  let tokens ← tokens names ignoreCase pattern.toList
  let piece ← assemble tokens .start []
  if (groupNames tokens).Nodup ∧ piece.depth ≤ Piece.depthLimit then some piece.regex else none

end ElementSearch.Regex
