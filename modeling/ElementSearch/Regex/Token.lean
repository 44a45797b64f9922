/-
# Tokens of a pattern

A pattern is read from left to right into tokens, which settles what the flags in force
at each place make of it: items are complete expressions, and only grouping,
alternation and repetition are left to be put together.
-/

import ElementSearch.Regex.Bracket

namespace ElementSearch.Regex

/-- What a pattern consists of. -/
inductive Token
  /-- An item that matches by itself. -/
  | item (piece : Piece)
  /-- A switch of flags. -/
  | flagSwitch
  /-- The start of a group, and the name it captures under. -/
  | groupStart (name : Option String)
  | groupEnd
  | bar
  /-- Repetition of what comes before. -/
  | times (least : Nat) (most : Option Nat)

/-- A character that stands for itself. -/
def literalPiece (flags : Flags) (c : Char) : Piece :=
  if flags.ignoreCase then
    if flags.unicode then
      if (Unicode.caseVariants c).all (· == c) then .ofChar c
      else .ofSet (CharSet.foldCase (.single c)) 0
    else if c.isAlpha then .ofSet (CharSet.foldAsciiCase (.single c)) 0
    else .ofChar c
  else .ofChar c

/-- A primitive as an item. -/
def Primitive.piece (flags : Flags) : Primitive → Piece
  | .char c => literalPiece flags c
  | .set chars => .ofSet chars 0
  | .look assertion => .ofLook assertion

/-- What the dot matches: any character but line ends, or any at all. -/
def dotSet (flags : Flags) : CharSet :=
  if flags.dotAll then .full
  else if flags.crlf then (CharSet.union (.single '\r') (.single '\n')).compl
  else (CharSet.single '\n').compl

/-- What the caret asserts. -/
def caretLook (flags : Flags) : Look :=
  if flags.multiLine then (if flags.crlf then .lineStartCrlf else .lineStart) else .textStart

/-- What the dollar sign asserts. -/
def dollarLook (flags : Flags) : Look :=
  if flags.multiLine then (if flags.crlf then .lineEndCrlf else .lineEnd) else .textEnd

/-- Drop the question mark that makes a repetition prefer short runs. -/
def dropShort : List Char → List Char
  | '?' :: rest => rest
  | pattern => pattern

/-- Whether a character may stand in the name of a group. -/
def isNameChar (first : Bool) (c : Char) : Bool :=
  let letter := if c.toNat < 0x80 then c.isAlpha else Unicode.Property.alphabetic.has c
  let numeral := if c.toNat < 0x80 then c.isDigit
    else Unicode.Category.hasAny Unicode.Category.numbers c
  c == '_' || letter || (!first && (c == '.' || c == '[' || c == ']' || numeral))

/-- The name of a group, up to its closing angle bracket. -/
def readGroupName (pattern : List Char) : Option (String × List Char) :=
  match pattern.takeWhile (· != '>'), pattern.dropWhile (· != '>') with
  | first :: others, '>' :: rest =>
      if isNameChar true first && others.all (isNameChar false) then
        some (String.ofList (first :: others), rest)
      else none
  | _, _ => none

/-- What an opening parenthesis starts, with the flags that hold from there on: a group, or a
switch of flags for the rest of the group it stands in. Looking around is not supported. -/
def readGroup (flags : Flags) (pattern : List Char) : Option (Token × Flags × List Char) :=
  match flags.skip pattern with
  | '?' :: '=' :: _ | '?' :: '!' :: _ | '?' :: '<' :: '=' :: _ | '?' :: '<' :: '!' :: _ => none
  | '?' :: 'P' :: '<' :: rest | '?' :: '<' :: rest =>
      (readGroupName rest).map fun (name, rest) => (.groupStart (some name), flags, rest)
  | '?' :: rest =>
      match Flags.read [] flags rest with
      | some (seen, switched, ')' :: rest) =>
          if seen.isEmpty then none else some (.flagSwitch, switched, rest)
      | some (_, switched, ':' :: rest) => some (.groupStart none, switched, rest)
      | _ => none
  | pattern => some (.groupStart none, flags, pattern)

/-- Decimal digits, each followed by what does not count. -/
def readDigits (flags : Flags) : Nat → List Char → List Char × List Char
  | fuel + 1, c :: rest =>
      if c.isDigit then
        let (digits, rest) := readDigits flags fuel (flags.skip rest)
        (c :: digits, rest)
      else ([], c :: rest)
  | _, pattern => ([], pattern)

/-- The number that decimal digits denote. -/
def decimalValue (digits : List Char) : Nat :=
  digits.foldl (fun value d => 10 * value + (d.toNat - '0'.toNat)) 0

/-- A repetition count, with blanks around it. -/
def readCount (flags : Flags) (pattern : List Char) : Option (Nat × List Char) :=
  let pattern := pattern.dropWhile Text.isBlank
  let (digits, rest) := readDigits flags (pattern.length + 1) pattern
  if digits.isEmpty || Piece.countLimit < decimalValue digits then none
  else some (decimalValue digits, rest.dropWhile Text.isBlank)

/-- A counted repetition, after its opening brace: how often at least and at most. -/
def readTimes (flags : Flags) (pattern : List Char) :
    Option (Nat × Option Nat × List Char) := do
  let (least, rest) ← readCount flags (flags.skip pattern)
  let (most, rest) ← match rest with
    | ',' :: rest =>
        match flags.skip rest with
        | '\x7d' :: rest => pure (none, '\x7d' :: rest)
        | rest => do
            let (most, rest) ← readCount flags rest
            if most < least then none else pure (some most, rest)
    | rest => pure (some least, rest)
  match rest with
  | '\x7d' :: rest => some (least, most, rest)
  | _ => none

/-- Read a pattern into tokens. `outer` holds the flags of the groups around this place. `fuel`
is more than the number of characters left, since every token takes at least one. -/
def tokenize (names : PropertyNames) : Nat → Flags → List Flags → List Char → Option (List Token)
  | 0, _, _, _ => none
  | fuel + 1, flags, outer, pattern =>
      match flags.skip pattern with
      | [] => some []
      | '(' :: rest =>
          (readGroup flags rest).bind fun (token, inner, rest) =>
            match token with
            | .groupStart _ => (tokenize names fuel inner (flags :: outer) rest).map (token :: ·)
            | _ => (tokenize names fuel inner outer rest).map (token :: ·)
      | ')' :: rest =>
          match outer with
          | [] => none
          | flags :: outer => (tokenize names fuel flags outer rest).map (.groupEnd :: ·)
      | '|' :: rest => (tokenize names fuel flags outer rest).map (.bar :: ·)
      | '[' :: rest =>
          (readClass names flags rest).bind fun (part, rest) =>
            (tokenize names fuel flags outer rest).map (.item (.ofSet part.set part.depth) :: ·)
      | '?' :: rest =>
          (tokenize names fuel flags outer (dropShort rest)).map (.times 0 (some 1) :: ·)
      | '*' :: rest => (tokenize names fuel flags outer (dropShort rest)).map (.times 0 none :: ·)
      | '+' :: rest => (tokenize names fuel flags outer (dropShort rest)).map (.times 1 none :: ·)
      | '\x7b' :: rest =>
          (readTimes flags rest).bind fun (least, most, rest) =>
            (tokenize names fuel flags outer (dropShort (flags.skip rest))).map
              (.times least most :: ·)
      | '\\' :: rest =>
          (readEscape names flags rest).bind fun (primitive, rest) =>
            (tokenize names fuel flags outer rest).map (.item (primitive.piece flags) :: ·)
      | '.' :: rest =>
          if flags.unicode then
            (tokenize names fuel flags outer rest).map (.item (.ofSet (dotSet flags) 0) :: ·)
          else none
      | '^' :: rest =>
          (tokenize names fuel flags outer rest).map (.item (.ofLook (caretLook flags)) :: ·)
      | '$' :: rest =>
          (tokenize names fuel flags outer rest).map (.item (.ofLook (dollarLook flags)) :: ·)
      | c :: rest => (tokenize names fuel flags outer rest).map (.item (literalPiece flags c) :: ·)

end ElementSearch.Regex
