/-
# Escapes

What a backslash starts: a character, a class of characters, or an assertion.
-/

import ElementSearch.Regex.Flags
import ElementSearch.Regex.Piece
import ElementSearch.Regex.Property

namespace ElementSearch.Regex

/-- What an escape, or a character that stands for itself, denotes. -/
inductive Primitive
  | char (c : Char)
  | set (set : CharSet)
  | look (assertion : Look)

/-- The characters with a meaning of their own in patterns. -/
def isMeta (c : Char) : Bool :=
  ['\\', '.', '+', '*', '?', '(', ')', '|', '[', ']', '\x7b', '\x7d', '^', '$', '#', '&', '-',
    '~'].contains c

/-- Whether a backslash may stand before `c` without changing it: any ASCII character but
letters, digits and angle brackets. -/
def isEscapable (c : Char) : Bool :=
  isMeta c || (c.toNat < 0x80 && !c.isAlphanum && c != '<' && c != '>')

/-- Exactly `count` hexadecimal digits, after the value of the digits before them. -/
def readHexDigits (flags : Flags) : Nat → Nat → List Char → Option (Nat × List Char)
  | 0, value, pattern => some (value, pattern)
  | count + 1, value, pattern =>
      match flags.skip pattern with
      | [] => none
      | c :: rest =>
          (Text.hexDigit? c).bind fun d => readHexDigits flags count (16 * value + d) rest

/-- Hexadecimal digits up to a closing brace; `value` is that of the digits before them. -/
def readHexBraces (flags : Flags) : Nat → Option Nat → List Char → Option (Nat × List Char)
  | 0, _, _ => none
  | fuel + 1, value, pattern =>
      match flags.skip pattern with
      | [] => none
      | '\x7d' :: rest => value.map (·, rest)
      | c :: rest =>
          (Text.hexDigit? c).bind fun d =>
            readHexBraces flags fuel (some (16 * value.getD 0 + d)) rest

/-- A character by its code point: `digits` of them, or any number in braces. Outside Unicode
mode the short form denotes a byte, which must be ASCII. -/
def readHex (flags : Flags) (digits : Nat) (pattern : List Char) :
    Option (Primitive × List Char) :=
  match flags.skip pattern with
  | '\x7b' :: rest =>
      (readHexBraces flags (rest.length + 1) none rest).bind fun (value, rest) =>
        (Text.charOfNat? value).map (.char ·, rest)
  | pattern =>
      (readHexDigits flags digits 0 pattern).bind fun (value, rest) =>
        if digits == 2 && !flags.unicode && 0x80 ≤ value then none
        else (Text.charOfNat? value).map (.char ·, rest)

/-- The characters up to a closing brace that count, and what follows the brace. -/
def readBraced (flags : Flags) : Nat → List Char → Option (List Char × List Char)
  | 0, _ => none
  | fuel + 1, pattern =>
      match flags.skip pattern with
      | [] => none
      | '\x7d' :: rest => some ([], rest)
      | c :: rest => (readBraced flags fuel rest).map fun (name, rest) => (c :: name, rest)

/-- The parts of `name` before and after the first place where `sign` stands. -/
def splitAtSign (sign : List Char) : List Char → Option (List Char × List Char)
  | [] => none
  | c :: rest =>
      if sign.isPrefixOf (c :: rest) then some ([], (c :: rest).drop sign.length)
      else (splitAtSign sign rest).map fun (name, value) => (c :: name, value)

/-- The set that the text between braces denotes: a name, or a name and a value. -/
def bracedSet? (names : PropertyNames) (name : List Char) : Option CharSet :=
  match splitAtSign ['!', '='] name <|> splitAtSign [':'] name <|> splitAtSign ['='] name with
  | some (name, value) => names.valueSet? name value
  | none => names.set? name

/-- A class by property, after its letter: one letter, or a name in braces. Only Unicode mode
has them. -/
def readProperty (names : PropertyNames) (flags : Flags) (negated : Bool) (pattern : List Char) :
    Option (Primitive × List Char) := do
  let (set, rest) ← match flags.skip pattern with
    | [] => none
    | '\x7b' :: rest => do
        let (name, rest) ← readBraced flags (rest.length + 1) rest
        let set ← bracedSet? names name
        pure (set, rest)
    | '\\' :: _ => none
    | c :: rest => (names.set? [c]).map (·, rest)
  if flags.unicode then
    let set := if flags.ignoreCase then set.foldCase else set
    some (.set (set.complIf negated), rest)
  else none

/-- The assertions that are named in braces after `\b`. -/
def wordAssertion? (ascii : Bool) (name : List Char) : Option Look :=
  match String.ofList name with
  | "start" => some (.wordStart ascii)
  | "end" => some (.wordEnd ascii)
  | "start-half" => some (.wordStartHalf ascii)
  | "end-half" => some (.wordEndHalf ascii)
  | _ => none

/-- Whether a character may stand in the name of an assertion. -/
def isAssertionLetter (c : Char) : Bool := c.isAlpha || c == '-'

/-- A word boundary, after its letter. A brace belongs to it only where a letter or hyphen
follows; otherwise the brace starts a repetition. -/
def readBoundary (flags : Flags) (pattern : List Char) : Option (Primitive × List Char) :=
  let plain := Primitive.look (.wordBoundary !flags.unicode)
  match pattern with
  | '\x7b' :: rest =>
      match flags.skip rest with
      | [] => none
      | c :: rest =>
          if isAssertionLetter c then
            (readBraced flags (rest.length + 2) (c :: rest)).bind fun (name, rest) =>
              if name.all isAssertionLetter then
                (wordAssertion? (!flags.unicode) name).map (.look ·, rest)
              else none
          else some (plain, pattern)
  | _ => some (plain, pattern)

/-- A class that is one letter. Outside Unicode mode it must not be negated, since what it
would match is not a character. -/
def shorthand (flags : Flags) (negated : Bool) (set : Bool → CharSet) (rest : List Char) :
    Option (Primitive × List Char) :=
  if flags.unicode then some (.set ((set false).complIf negated), rest)
  else if negated then none
  else some (.set (set true), rest)

/-- What the characters after a backslash denote, and what follows them. -/
def readEscape (names : PropertyNames) (flags : Flags) :
    List Char → Option (Primitive × List Char)
  | [] => none
  | c :: rest =>
      if isEscapable c then some (.char c, rest)
      else match c with
      | 'x' => readHex flags 2 rest
      | 'u' => readHex flags 4 rest
      | 'U' => readHex flags 8 rest
      | 'p' => readProperty names flags false rest
      | 'P' => readProperty names flags true rest
      | 'd' => shorthand flags false .digit rest
      | 'D' => shorthand flags true .digit rest
      | 's' => shorthand flags false .blank rest
      | 'S' => shorthand flags true .blank rest
      | 'w' => shorthand flags false .word rest
      | 'W' => shorthand flags true .word rest
      | 'a' => some (.char '\u0007', rest)
      | 'f' => some (.char '\u000C', rest)
      | 't' => some (.char '\t', rest)
      | 'n' => some (.char '\n', rest)
      | 'r' => some (.char '\r', rest)
      | 'v' => some (.char '\u000B', rest)
      | 'A' => some (.look .textStart, rest)
      | 'z' => some (.look .textEnd, rest)
      | 'b' => readBoundary flags rest
      | 'B' => some (.look (.notWordBoundary !flags.unicode), rest)
      | '<' => some (.look (.wordStart !flags.unicode), rest)
      | '>' => some (.look (.wordEnd !flags.unicode), rest)
      | _ => none

end ElementSearch.Regex
