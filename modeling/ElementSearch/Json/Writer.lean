/-
# JSON values

Values as JSON has them, and how they are written: without blanks, with quotes,
backslashes and control characters escaped inside a string, where all other characters
stand for themselves.
-/

namespace ElementSearch

/-- JSON values. Members of an object keep their order and may repeat a name; a number that is
not written as an integer keeps its text. -/
inductive Json
  | null
  | bool (value : Bool)
  | int (value : Int)
  | real (written : String)
  | str (text : String)
  | arr (items : List Json)
  | obj (members : List (String × Json))
  deriving Repr, Inhabited

namespace Json

/-- The value of the first member with a name. -/
def member? : Json → String → Option Json
  | .obj members, name => (members.find? (·.1 == name)).map (·.2)
  | _, _ => none

/-! ## Writing -/

/-- The hexadecimal digit of a number below sixteen. -/
def hexDigit (n : Nat) : Char :=
  if n < 10 then Char.ofNat ('0'.toNat + n) else Char.ofNat ('a'.toNat + n - 10)

/-- How one character is written inside a string. -/
def escapeChar (c : Char) : List Char :=
  if c == '"' then ['\\', '"']
  else if c == '\\' then ['\\', '\\']
  else if c == '\u0008' then ['\\', 'b']
  else if c == '\u000C' then ['\\', 'f']
  else if c == '\n' then ['\\', 'n']
  else if c == '\r' then ['\\', 'r']
  else if c == '\t' then ['\\', 't']
  else if c.toNat < 0x20 then
    ['\\', 'u', '0', '0', hexDigit (c.toNat / 16), hexDigit (c.toNat % 16)]
  else [c]

/-- A string in its quotes. -/
def writeString (text : String) : List Char :=
  '"' :: (text.toList.flatMap escapeChar ++ ['"'])

/-- Written parts with commas between them. -/
def separated : List (List Char) → List Char
  | [] => []
  | [only] => only
  | first :: rest => first ++ ',' :: separated rest

mutual

/-- The characters a value is written with. -/
def write : Json → List Char
  | .null => "null".toList
  | .bool true => "true".toList
  | .bool false => "false".toList
  | .int value => (toString value).toList
  | .real written => written.toList
  | .str text => writeString text
  | .arr items => '[' :: (separated (writeItems items) ++ [']'])
  | .obj members => '\x7b' :: (separated (writeMembers members) ++ ['\x7d'])

/-- The items of an array, each written. -/
def writeItems : List Json → List (List Char)
  | [] => []
  | item :: items => item.write :: writeItems items

/-- The members of an object, each written with its name. -/
def writeMembers : List (String × Json) → List (List Char)
  | [] => []
  | (name, value) :: members =>
      (writeString name ++ ':' :: value.write) :: writeMembers members

end

/-- A value as text. -/
def render (value : Json) : String := String.ofList value.write

end Json

end ElementSearch
