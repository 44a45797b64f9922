/-
# Flags of a pattern

Flags say how what follows them is read. They are switched by letters, for the rest of
a group or for a group of its own.
-/

import ElementSearch.Text.Basic

namespace ElementSearch.Regex

/-- The flags in force at some place of a pattern. -/
structure Flags where
  /-- Letters match in either case. -/
  ignoreCase : Bool
  /-- The caret and the dollar sign match at lines. -/
  multiLine : Bool
  /-- The dot matches line ends. -/
  dotAll : Bool
  /-- Carriage returns end lines too. -/
  crlf : Bool
  /-- Blanks and comments in the pattern do not count. -/
  verbose : Bool
  /-- Classes and letters are those of Unicode, and not only of ASCII. -/
  unicode : Bool
  deriving DecidableEq, Repr

namespace Flags

/-- The flags a pattern starts with. -/
def initial (ignoreCase : Bool) : Flags :=
  ⟨ignoreCase, false, false, false, false, true⟩

/-- Switch the flag of a letter. Preferring short runs, `U`, does not change what matches. -/
def switch (flags : Flags) (on : Bool) : Char → Option Flags
  | 'i' => some { flags with ignoreCase := on }
  | 'm' => some { flags with multiLine := on }
  | 's' => some { flags with dotAll := on }
  | 'R' => some { flags with crlf := on }
  | 'x' => some { flags with verbose := on }
  | 'u' => some { flags with unicode := on }
  | 'U' => some flags
  | _ => none

/-- Read flag letters up to a colon or a closing parenthesis. No letter and no minus sign may
come twice, and a letter follows the minus sign. The result has the letters that were read,
latest first, the flags, and the text from the colon or parenthesis on. -/
def read (seen : List Char) (flags : Flags) : List Char → Option (List Char × Flags × List Char)
  | [] => none
  | c :: rest =>
      if c == ':' || c == ')' then
        if seen.head? == some '-' then none else some (seen, flags, c :: rest)
      else if seen.contains c then none
      else if c == '-' then read ('-' :: seen) flags rest
      else (flags.switch (!seen.contains '-') c).bind fun flags => read (c :: seen) flags rest

/-- Drop what does not count at the front of a verbose pattern; `comment` says whether the
text starts inside a comment. -/
def skipFrom (comment : Bool) : List Char → List Char
  | [] => []
  | c :: rest =>
      if comment then skipFrom (c != '\n') rest
      else if Text.isBlank c then skipFrom false rest
      else if c == '#' then skipFrom true rest
      else c :: rest

/-- The pattern from its next character that counts. -/
def skip (flags : Flags) (pattern : List Char) : List Char :=
  if flags.verbose then skipFrom false pattern else pattern

/-- The characters after `pattern`'s next character that look past blanks and comment signs: a
comment hides only the sign that opens it. -/
def peekFrom (comment : Bool) : List Char → Option Char
  | [] => none
  | c :: rest =>
      if Text.isBlank c then peekFrom comment rest
      else if !comment && c == '#' then peekFrom true rest
      else some c

/-- The next character that counts when a hyphen in brackets looks ahead. -/
def peek (flags : Flags) (pattern : List Char) : Option Char :=
  if flags.verbose then (peekFrom false pattern).or pattern.head? else pattern.head?

end Flags

end ElementSearch.Regex
