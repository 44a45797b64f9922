/-
# Pieces of a pattern

While a pattern is read, every finished part of it is a piece: its expression, and how
deeply it nests. Patterns that nest too deeply are refused, so the depth is counted along
the way.
-/

import ElementSearch.Regex.Basic

namespace ElementSearch.Regex

/-- A finished part of a pattern. -/
structure Piece where
  regex : Regex
  /-- Groups, repetitions, sequences, alternatives and brackets on the longest way inwards. -/
  depth : Nat
  /-- A switch of flags is no expression, so that it cannot be repeated. -/
  repeatable : Bool

namespace Piece

/-- How deeply a pattern may nest. -/
def depthLimit : Nat := 250

/-- The largest number that may be written as a repetition count. -/
def countLimit : Nat := UInt32.size - 1

/-- One given character. -/
def ofChar (c : Char) : Piece := ⟨.char c, 0, true⟩

/-- One character of a set. -/
def ofSet (set : CharSet) (depth : Nat) : Piece := ⟨.one set, depth, true⟩

/-- An assertion. -/
def ofLook (assertion : Look) : Piece := ⟨.look assertion, 0, true⟩

/-- A switch of flags. -/
def flagSwitch : Piece := ⟨.empty, 0, false⟩

/-- The deepest of the pieces. -/
def maxDepth (pieces : List Piece) : Nat :=
  pieces.foldl (fun depth piece => max depth piece.depth) 0

/-- Pieces in a row; a single one stays as it is. -/
def sequence : List Piece → Piece
  | [] => ⟨.empty, 0, true⟩
  | [only] => only
  | pieces => ⟨.concat (pieces.map (·.regex)), maxDepth pieces + 1, true⟩

/-- Alternatives; a single one stays as it is. -/
def alternatives : List Piece → Piece
  | [] => ⟨.empty, 0, true⟩
  | [only] => only
  | pieces => ⟨.choice (pieces.map (·.regex)), maxDepth pieces + 1, true⟩

/-- A group around a piece. -/
def group (piece : Piece) : Piece := ⟨piece.regex, piece.depth + 1, true⟩

/-- A piece repeated from `least` to `most` times. -/
def iterate (piece : Piece) (least : Nat) (most : Option Nat) : Piece :=
  ⟨.iterate piece.regex least (most.map (· - least)), piece.depth + 1, true⟩

end Piece

end ElementSearch.Regex
