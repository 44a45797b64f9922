/-
# Literal edges of patterns

Many patterns begin or end with plain text that every match contains. It is read off
the source of the pattern, one atom after the other; wherever the source is not plain
enough to tell, nothing is read off. A broad query is narrowed by them, so that fewer elements
have to be fetched and checked.
-/

import ElementSearch.Query.Basic

namespace ElementSearch

/-- Text that every match of a pattern contains, at its beginning and at its end. -/
structure LiteralEdges where
  leading : String
  trailing : String
  deriving DecidableEq, Repr

namespace LiteralEdges

/-- The edges that are not empty, the leading one first. -/
def literals (edges : LiteralEdges) : List String :=
  [edges.leading, edges.trailing].filter (· != "")

/-- A character that stands for itself, or anything else. -/
inductive Atom
  | literal (c : Char)
  | other
  deriving DecidableEq, Repr

namespace Atom

/-- The character of a literal. -/
def char? : Atom → Option Char
  | .literal c => some c
  | .other => none

/-- Whether the atom is a literal. -/
def isLiteral (atom : Atom) : Bool := atom.char?.isSome

end Atom

/-- Whether `c` is an ASCII character that is neither a letter, a digit, a space nor a control
character. -/
def isPunctuation (c : Char) : Bool := '!' ≤ c && c ≤ '~' && !c.isAlphanum

/-- What follows the bracket that closes the outermost of `depth + 1` open ones. -/
def skipNested : Nat → List Char → Option (List Char)
  | _, [] => none
  | _, ['\\'] => none
  | depth, '\\' :: _ :: rest => skipNested depth rest
  | depth, '[' :: rest => skipNested (depth + 1) rest
  | 0, ']' :: rest => some rest
  | depth + 1, ']' :: rest => skipNested depth rest
  | depth, _ :: rest => skipNested depth rest

/-- What follows a bracketed class, given what follows its opening bracket. A closing bracket
that comes first, perhaps after a caret, belongs to the class. -/
def skipBracket (source : List Char) : Option (List Char) :=
  let source := match source with
    | '^' :: rest => rest
    | source => source
  match source with
  | ']' :: rest => skipNested 0 rest
  | source => skipNested 0 source

/-- The letters after a backslash that make one atom of the two of them. -/
def isSimpleEscape (c : Char) : Bool :=
  ['d', 'D', 's', 'S', 'w', 'W', 'b', 'B', 'A', 'z', 'n', 'r', 't', 'f', 'v'].contains c

/-- The atoms before a repetition, the latest first, and the repetition itself: what is repeated
need not be there. -/
def quantify : List Atom → List Atom
  | [] => [.other]
  | _ :: atoms => .other :: .other :: atoms

/-- The atoms of a source, behind those already `read`, the latest of which comes first. `fuel`
is more than the number of characters left, since every atom takes at least one. -/
def atomsFrom : Nat → List Atom → List Char → Option (List Atom)
  | 0, _, _ => none
  | _ + 1, read, [] => some read.reverse
  | fuel + 1, read, c :: rest =>
      if c == '|' then none
      else if c == '\\' then
        match rest with
        | [] => none
        | next :: rest =>
            if isPunctuation next then atomsFrom fuel (.literal next :: read) rest
            else if isSimpleEscape next then atomsFrom fuel (.other :: read) rest
            else none
      else if c == '[' then
        (skipBracket rest).bind fun rest => atomsFrom fuel (.other :: read) rest
      else if c == '(' then
        if rest.head? == some '?' then none else atomsFrom fuel (.other :: read) rest
      else if c == '?' || c == '*' || c == '+' then atomsFrom fuel (quantify read) rest
      else if c == '\x7b' then
        atomsFrom fuel (quantify read) ((rest.dropWhile (· != '\x7d')).drop 1)
      else if ['.', ')', '^', '$', '\x7d', ']'].contains c then
        atomsFrom fuel (.other :: read) rest
      else atomsFrom fuel (.literal c :: read) rest

/-- The atoms of a source: `none` where alternatives, flags or unusual escapes make it hard to
say what every match contains. -/
def atoms (source : List Char) : Option (List Atom) :=
  atomsFrom (source.length + 1) [] source

/-- The source without a caret at its start. -/
def dropCaret : List Char → List Char
  | '^' :: rest => rest
  | source => source

/-- The source without a dollar sign at its end, unless that is escaped. -/
def dropDollar (source : List Char) : List Char :=
  match source.reverse with
  | '$' :: rest =>
      if (rest.takeWhile (· == '\\')).length % 2 == 0 then rest.reverse else source
  | _ => source

/-- The edges of a row of atoms. A row of literals is all leading edge. -/
def ofAtoms (atoms : List Atom) : LiteralEdges :=
  let leading := atoms.takeWhile Atom.isLiteral
  let trailing :=
    if leading.length == atoms.length then []
    else (atoms.reverse.takeWhile Atom.isLiteral).reverse
  ⟨String.ofList (leading.filterMap Atom.char?), String.ofList (trailing.filterMap Atom.char?)⟩

/-- The edges of the pattern with a given source, if it distinguishes case and has any. -/
def ofSource? (ignoreCase : Bool) (source : String) : Option LiteralEdges :=
  if ignoreCase then none
  else (atoms (dropDollar (dropCaret source.toList))).bind fun atoms =>
    let edges := ofAtoms atoms
    if edges.literals.isEmpty then none else some edges

end LiteralEdges

variable [Compiler]

/-- The literal edges of a pattern, if it has any. -/
def Pattern.literalEdges? (pattern : Pattern) : Option LiteralEdges :=
  LiteralEdges.ofSource? pattern.ignoreCase pattern.source

/-! ## Narrowing queries -/

/-- Whether a query can be narrowed by what a key has to contain: not by the tag, the text or
the type, which a page and a search read differently. -/
def Key.narrows (key : Key) : Bool :=
  key != .tagName && key != .text && !key.isAttribute "type"

/-- The conditions that a pattern adds to a query. Where white space is normalized, a literal
with blanks adds none. -/
def narrowingConditions (key : Key) (pattern : Pattern) : List XPath.Condition :=
  if key.narrows then
    match pattern.literalEdges? with
    | none => []
    | some edges =>
        (edges.literals.filter fun literal =>
          !(key.normalizesSpace && literal.toList.any Text.isBlank)).map
          (.includes key.reading)
  else []

namespace Query

/-- An XPath query narrowed by patterns; other queries stay as they are. -/
def narrow (base : Query) (patterns : List (Key × Pattern)) : Query :=
  if base.strategy == .xpath then
    .xpath (base.text ++ String.join
      ((patterns.flatMap fun (key, pattern) => narrowingConditions key pattern).map
        (·.renderStep)))
  else base

end Query

end ElementSearch
