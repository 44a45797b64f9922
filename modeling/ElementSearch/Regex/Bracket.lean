/-
# Bracketed classes

A class in brackets is a set of characters: items side by side are united, brackets
nest, and operators between them intersect, subtract, or keep what is in exactly one of
the two. A closing bracket that comes first stands for itself.
-/

import ElementSearch.Regex.Escape

namespace ElementSearch.Regex

/-- The operators between the operands of a class. -/
inductive SetOp
  | inter
  | diff
  | symmDiff
  deriving DecidableEq, Repr

/-- What an operator makes of two sets. -/
def SetOp.apply : SetOp → CharSet → CharSet → CharSet
  | .inter => .inter
  | .diff => .diff
  | .symmDiff => .symmDiff

/-- A finished part of a class: its characters, and how deeply it nests. -/
structure ClassPart where
  set : CharSet
  depth : Nat

/-- A bracket that is still open: whether it is negated, the operand being read with its number
of items and the deepest of them, and the operator and operand that wait on its left. -/
structure OpenBracket where
  negated : Bool
  items : CharSet
  count : Nat
  depth : Nat
  left : Option (SetOp × ClassPart)

namespace OpenBracket

/-- A bracket without items. -/
def start (negated : Bool) : OpenBracket := ⟨negated, .empty, 0, 0, none⟩

/-- Add an item to the operand being read. -/
def add (bracket : OpenBracket) (part : ClassPart) : OpenBracket :=
  { bracket with
    items := bracket.items.union part.set
    count := bracket.count + 1
    depth := max bracket.depth part.depth }

/-- The operand being read; several items nest once more than the deepest of them. -/
def operand (bracket : OpenBracket) : ClassPart :=
  ⟨bracket.items, if 2 ≤ bracket.count then bracket.depth + 1 else bracket.depth⟩

/-- The set with both cases of its letters where case is ignored. -/
def folded (flags : Flags) (set : CharSet) : CharSet :=
  if flags.ignoreCase then
    if flags.unicode then set.foldCase else set.foldAsciiCase
  else set

/-- The operand being read, joined with what waits on its left. -/
def joined (flags : Flags) (bracket : OpenBracket) : ClassPart :=
  match bracket.left with
  | none => bracket.operand
  | some (op, left) =>
      ⟨op.apply (folded flags left.set) (folded flags bracket.operand.set),
        max left.depth bracket.operand.depth + 1⟩

/-- Start the next operand after an operator. -/
def operator (flags : Flags) (bracket : OpenBracket) (op : SetOp) : OpenBracket :=
  ⟨bracket.negated, .empty, 0, 0, some (op, bracket.joined flags)⟩

/-- The finished class. Outside Unicode mode it must not be negated. -/
def close (flags : Flags) (bracket : OpenBracket) : Option ClassPart :=
  if bracket.negated && !flags.unicode then none
  else
    let part := bracket.joined flags
    some ⟨(folded flags part.set).complIf bracket.negated, part.depth + 1⟩

end OpenBracket

/-- The ASCII classes that have a name. -/
def asciiClass? : String → Option CharSet
  | "alnum" => some (.ofIntervals [('0', '9'), ('A', 'Z'), ('a', 'z')])
  | "alpha" => some (.ofIntervals [('A', 'Z'), ('a', 'z')])
  | "ascii" => some (.ofIntervals [('\u0000', '\u007F')])
  | "blank" => some (.ofIntervals [('\t', '\t'), (' ', ' ')])
  | "cntrl" => some (.ofIntervals [('\u0000', '\u001F'), ('\u007F', '\u007F')])
  | "digit" => some (.ofIntervals [('0', '9')])
  | "graph" => some (.ofIntervals [('!', '~')])
  | "lower" => some (.ofIntervals [('a', 'z')])
  | "print" => some (.ofIntervals [(' ', '~')])
  | "punct" => some (.ofIntervals [('!', '/'), (':', '@'), ('[', '\u0060'), ('\x7b', '~')])
  | "space" => some (.ofIntervals [('\t', '\r'), (' ', ' ')])
  | "upper" => some (.ofIntervals [('A', 'Z')])
  | "word" => some (.ofIntervals [('0', '9'), ('A', 'Z'), ('_', '_'), ('a', 'z')])
  | "xdigit" => some (.ofIntervals [('0', '9'), ('A', 'F'), ('a', 'f')])
  | _ => none

/-- The name of an ASCII class, after its colon and a caret that negates it: `some none` if the
class may not be used here. -/
def readAsciiName (flags : Flags) (negated : Bool) (pattern : List Char) :
    Option (Option (CharSet × List Char)) :=
  match pattern.dropWhile (· != ':') with
  | ':' :: ']' :: after =>
      (asciiClass? (String.ofList (pattern.takeWhile (· != ':')))).map fun set =>
        if negated && !flags.unicode then none
        else some ((OpenBracket.folded flags set).complIf negated, after)
  | _ => none

/-- A named ASCII class, after its bracket: `some none` if it may not be used here, and `none`
if what stands there is no such class. -/
def readAsciiClass (flags : Flags) : List Char → Option (Option (CharSet × List Char))
  | ':' :: '^' :: rest => readAsciiName flags true rest
  | ':' :: rest => readAsciiName flags false rest
  | _ => none

/-- Hyphens that come first in a bracket stand for themselves. -/
def readHyphens (flags : Flags) : Nat → OpenBracket → List Char → OpenBracket × List Char
  | fuel + 1, bracket, '-' :: rest =>
      readHyphens flags fuel (bracket.add ⟨.single '-', 0⟩) (flags.skip rest)
  | _, bracket, pattern => (bracket, pattern)

/-- The start of a bracket, after a caret that negates it: hyphens or a closing bracket that come
first stand for themselves. -/
def openNegated (flags : Flags) (negated : Bool) (pattern : List Char) :
    Option (OpenBracket × List Char) :=
  let (bracket, pattern) := readHyphens flags pattern.length (.start negated) pattern
  match bracket.count, pattern with
  | _, [] => none
  | 0, ']' :: rest =>
      match flags.skip rest with
      | [] => none
      | pattern => some (bracket.add ⟨.single ']', 0⟩, pattern)
  | _, pattern => some (bracket, pattern)

/-- The start of a bracket, after the bracket itself: a caret negates it. -/
def openBracket (flags : Flags) (pattern : List Char) : Option (OpenBracket × List Char) :=
  match flags.skip pattern with
  | '^' :: rest => openNegated flags true (flags.skip rest)
  | pattern => openNegated flags false pattern

/-- An escape or a character that stands for itself. -/
def readPrimitive (names : PropertyNames) (flags : Flags) :
    List Char → Option (Primitive × List Char)
  | [] => none
  | '\\' :: rest => readEscape names flags rest
  | c :: rest => some (.char c, rest)

/-- Whether a character may be an item of a class: outside Unicode mode only ASCII may. -/
def mayList (flags : Flags) (c : Char) : Bool := flags.unicode || c.toNat < 0x80

/-- A primitive as an item of a class; assertions are none. -/
def itemSet? (flags : Flags) : Primitive → Option CharSet
  | .char c => if mayList flags c then some (.single c) else none
  | .set chars => some chars
  | .look _ => none

/-- A range, or a single item of a class. A hyphen makes a range unless a closing bracket or
another hyphen follows it. -/
def readItem (names : PropertyNames) (flags : Flags) (pattern : List Char) :
    Option (CharSet × List Char) := do
  let (first, rest) ← readPrimitive names flags pattern
  match flags.skip rest with
  | [] => none
  | '-' :: rest =>
      if flags.peek rest == some ']' || flags.peek rest == some '-' then
        (itemSet? flags first).map (·, '-' :: rest)
      else do
        let (second, rest) ← readPrimitive names flags (flags.skip rest)
        match first, second with
        | .char low, .char high =>
            if low ≤ high && mayList flags low && mayList flags high then
              some (.interval low high, rest)
            else none
        | _, _ => none
  | rest => (itemSet? flags first).map (·, rest)

/-- Read to the end of the outermost open bracket. `fuel` is at least the number of characters
left, since every round takes one. -/
def readBrackets (names : PropertyNames) (flags : Flags) :
    Nat → OpenBracket → List OpenBracket → List Char → Option (ClassPart × List Char)
  | 0, _, _, _ => none
  | fuel + 1, bracket, outer, pattern =>
      match flags.skip pattern with
      | [] => none
      | '[' :: rest =>
          match readAsciiClass flags rest with
          | some found => found.bind fun (set, rest) =>
              readBrackets names flags fuel (bracket.add ⟨set, 0⟩) outer rest
          | none => (openBracket flags rest).bind fun (inner, rest) =>
              readBrackets names flags fuel inner (bracket :: outer) rest
      | ']' :: rest =>
          (bracket.close flags).bind fun part =>
            match outer with
            | [] => some (part, rest)
            | parent :: others => readBrackets names flags fuel (parent.add part) others rest
      | '&' :: '&' :: rest =>
          readBrackets names flags fuel (bracket.operator flags .inter) outer rest
      | '-' :: '-' :: rest =>
          readBrackets names flags fuel (bracket.operator flags .diff) outer rest
      | '~' :: '~' :: rest =>
          readBrackets names flags fuel (bracket.operator flags .symmDiff) outer rest
      | pattern =>
          (readItem names flags pattern).bind fun (set, rest) =>
            readBrackets names flags fuel (bracket.add ⟨set, 0⟩) outer rest

/-- A class in brackets, after its opening bracket, and what follows its closing one. -/
def readClass (names : PropertyNames) (flags : Flags) (pattern : List Char) :
    Option (ClassPart × List Char) :=
  (openBracket flags pattern).bind fun (bracket, rest) =>
    readBrackets names flags (rest.length + 1) bracket [] rest

end ElementSearch.Regex
