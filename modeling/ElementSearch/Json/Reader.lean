/-
# Reading JSON

The reader is strict: no trailing commas, no comments, no control characters inside
strings, no lone surrogates, and no nesting beyond a limit. Numbers that would not fit
a double are refused.
-/

import ElementSearch.Json.Writer
import ElementSearch.Text.Basic

namespace ElementSearch.Json

/-- How many arrays and objects may stand inside one another. -/
def nestingLimit : Nat := 127

/-- Blanks between the parts of a text. -/
def isSpace (c : Char) : Bool := c == ' ' || c == '\n' || c == '\t' || c == '\r'

/-- The text from its next part on. -/
def skipSpace (text : List Char) : List Char := text.dropWhile isSpace

/-- The unit that four hexadecimal digits denote. -/
def readUnit : List Char → Option (Nat × List Char)
  | a :: b :: c :: d :: rest => do
      let a ← Text.hexDigit? a
      let b ← Text.hexDigit? b
      let c ← Text.hexDigit? c
      let d ← Text.hexDigit? d
      some (((a * 16 + b) * 16 + c) * 16 + d, rest)
  | _ => none

/-- A character by its units: two for a character beyond the first plane. A surrogate on its own
denotes nothing. -/
def readUnits (text : List Char) : Option (Char × List Char) := do
  let (high, rest) ← readUnit text
  if 0xD800 ≤ high ∧ high < 0xDC00 then
    match rest with
    | '\\' :: 'u' :: rest => do
        let (low, rest) ← readUnit rest
        if 0xDC00 ≤ low ∧ low < 0xE000 then
          some (Char.ofNat (0x10000 + (high - 0xD800) * 0x400 + (low - 0xDC00)), rest)
        else none
    | _ => none
  else if 0xDC00 ≤ high ∧ high < 0xE000 then none
  else some (Char.ofNat high, rest)

/-- What follows a backslash. -/
def readEscape : List Char → Option (Char × List Char)
  | '"' :: rest => some ('"', rest)
  | '\\' :: rest => some ('\\', rest)
  | '/' :: rest => some ('/', rest)
  | 'b' :: rest => some ('\u0008', rest)
  | 'f' :: rest => some ('\u000C', rest)
  | 'n' :: rest => some ('\n', rest)
  | 'r' :: rest => some ('\r', rest)
  | 't' :: rest => some ('\t', rest)
  | 'u' :: rest => readUnits rest
  | _ => none

/-- The characters up to the closing quote. `fuel` is more than the number of characters left,
since every round takes at least one. -/
def readChars : Nat → List Char → Option (List Char × List Char)
  | 0, _ => none
  | _ + 1, [] => none
  | fuel + 1, c :: rest =>
      if c == '"' then some ([], rest)
      else if c == '\\' then
        (readEscape rest).bind fun (c, rest) =>
          (readChars fuel rest).map fun (chars, rest) => (c :: chars, rest)
      else if c.toNat < 0x20 then none
      else (readChars fuel rest).map fun (chars, rest) => (c :: chars, rest)

/-- A string, after its opening quote. -/
def readString (text : List Char) : Option (String × List Char) :=
  (readChars (text.length + 1) text).map fun (chars, rest) => (String.ofList chars, rest)

/-- The number that decimal digits denote. -/
def digitsValue (digits : List Char) : Nat :=
  digits.foldl (fun value d => 10 * value + (d.toNat - '0'.toNat)) 0

/-- Whether `mantissa * 10 ^ exponent` rounds to a double. -/
def fitsDouble (mantissa : Nat) (exponent : Int) : Bool :=
  let digits := (Nat.toDigits 10 mantissa).length
  if mantissa == 0 || exponent + digits < 300 then true
  else if 310 < exponent + digits then false
  else
    mantissa * Nat.pow 10 exponent.toNat <
      (Nat.pow 2 1024 - Nat.pow 2 970) * Nat.pow 10 (-exponent).toNat

/-- The digits after a decimal point, if there is one; then there must be some. -/
def readFraction : List Char → Option (List Char × List Char)
  | '.' :: rest =>
      let digits := rest.takeWhile Char.isDigit
      if digits.isEmpty then none else some (digits, rest.dropWhile Char.isDigit)
  | text => some ([], text)

/-- An exponent, if there is one; then it must have digits. -/
def readExponent : List Char → Option (Option Int × List Char)
  | mark :: rest =>
      if mark == 'e' || mark == 'E' then
        let (negative, rest) := match rest with
          | '-' :: rest => (true, rest)
          | '+' :: rest => (false, rest)
          | rest => (false, rest)
        let digits := rest.takeWhile Char.isDigit
        if digits.isEmpty then none
        else
          let value : Int := digitsValue digits
          some (some (if negative then -value else value), rest.dropWhile Char.isDigit)
      else some (none, mark :: rest)
  | [] => some (none, [])

/-- The part of `text` before `rest`, which it ends with. -/
def takenFrom (text rest : List Char) : String :=
  String.ofList (text.take (text.length - rest.length))

/-- A number. Its first digit is zero only if no other follows before the point. Minus zero is
not an integer. -/
def readNumber (text : List Char) : Option (Json × List Char) := do
  let (negative, unsigned) := match text with
    | '-' :: rest => (true, rest)
    | rest => (false, rest)
  let whole := unsigned.takeWhile Char.isDigit
  if whole.isEmpty || (whole.head? == some '0' && whole.length != 1) then none
  else do
    let (fraction, rest) ← readFraction (unsigned.dropWhile Char.isDigit)
    let (exponent, rest) ← readExponent rest
    let mantissa := digitsValue (whole ++ fraction)
    if fitsDouble mantissa (exponent.getD 0 - fraction.length) then
      if fraction.isEmpty && exponent.isNone && !(negative && mantissa == 0) then
        some (.int (if negative then -(mantissa : Int) else mantissa), rest)
      else some (.real (takenFrom text rest), rest)
    else none

mutual

/-- A value. `room` is how many more arrays and objects may open inside one another; `fuel` is
more than twice the number of characters left, since of two calls in a row one takes a
character. -/
def readValue : Nat → Nat → List Char → Option (Json × List Char)
  | 0, _, _ => none
  | fuel + 1, room, text =>
      match text with
      | 'n' :: 'u' :: 'l' :: 'l' :: rest => some (.null, rest)
      | 't' :: 'r' :: 'u' :: 'e' :: rest => some (.bool true, rest)
      | 'f' :: 'a' :: 'l' :: 's' :: 'e' :: rest => some (.bool false, rest)
      | '"' :: rest => (readString rest).map fun (text, rest) => (.str text, rest)
      | '[' :: rest =>
          match room with
          | 0 => none
          | room + 1 =>
              match skipSpace rest with
              | ']' :: rest => some (.arr [], rest)
              | rest => (readItems fuel room rest).map fun (items, rest) => (.arr items, rest)
      | '\x7b' :: rest =>
          match room with
          | 0 => none
          | room + 1 =>
              match skipSpace rest with
              | '\x7d' :: rest => some (.obj [], rest)
              | rest =>
                  (readMembers fuel room rest).map fun (members, rest) => (.obj members, rest)
      | text => readNumber text

/-- The items of an array that is not empty, up to its closing bracket. -/
def readItems : Nat → Nat → List Char → Option (List Json × List Char)
  | 0, _, _ => none
  | fuel + 1, room, text =>
      (readValue fuel room text).bind fun (item, rest) =>
        match skipSpace rest with
        | ',' :: rest =>
            (readItems fuel room (skipSpace rest)).map fun (items, rest) => (item :: items, rest)
        | ']' :: rest => some ([item], rest)
        | _ => none

/-- The members of an object that is not empty, up to its closing brace. -/
def readMembers : Nat → Nat → List Char → Option (List (String × Json) × List Char)
  | 0, _, _ => none
  | fuel + 1, room, text =>
      match text with
      | '"' :: rest =>
          (readString rest).bind fun (name, rest) =>
            match skipSpace rest with
            | ':' :: rest =>
                (readValue fuel room (skipSpace rest)).bind fun (value, rest) =>
                  match skipSpace rest with
                  | ',' :: rest =>
                      (readMembers fuel room (skipSpace rest)).map fun (members, rest) =>
                        ((name, value) :: members, rest)
                  | '\x7d' :: rest => some ([(name, value)], rest)
                  | _ => none
            | _ => none
      | _ => none

end

/-- The value that a whole text denotes. -/
def parse (text : String) : Option Json :=
  let chars := skipSpace text.toList
  (readValue (2 * chars.length + 2) nestingLimit chars).bind fun (value, rest) =>
    if (skipSpace rest).isEmpty then some value else none

end ElementSearch.Json
