/-
# Writing XPath

XPath 1.0 has no escapes inside strings: a string stands between quotes of the kind it
does not contain, and one that contains both is joined from parts.
-/

import ElementSearch.XPath.Basic

namespace ElementSearch.XPath

/-- The parts of a text between its apostrophes. -/
def apostropheParts : List Char → List (List Char)
  | [] => [[]]
  | c :: rest =>
      if c == '\'' then [] :: apostropheParts rest
      else match apostropheParts rest with
        | [] => [[c]]
        | part :: parts => (c :: part) :: parts

/-- A text between apostrophes. -/
def inApostrophes (text : List Char) : List Char := '\'' :: (text ++ ['\''])

/-- The parts of a text between apostrophes, with a quoted apostrophe between neighbours. -/
def joinedParts : List (List Char) → List Char
  | [] => []
  | [part] => inApostrophes part
  | part :: parts => inApostrophes part ++ ", \"'\", ".toList ++ joinedParts parts

/-- The characters of a string expression that denotes a text. -/
def quoteChars (text : List Char) : List Char :=
  if !text.contains '\'' then inApostrophes text
  else if !text.contains '"' then '"' :: (text ++ ['"'])
  else "concat(".toList ++ joinedParts (apostropheParts text) ++ [')']

/-- A string expression that denotes a text. -/
def quote (text : String) : String := String.ofList (quoteChars text.toList)

/-- The upper-case ASCII letters. -/
def upperLetters : String := "ABCDEFGHIJKLMNOPQRSTUVWXYZ"

/-- The lower-case ASCII letters. -/
def lowerLetters : String := "abcdefghijklmnopqrstuvwxyz"

/-- How a reading is written. -/
def Reading.render : Reading → String
  | .attr name => "@" ++ name
  | .localName => "local-name()"
  | .text => "normalize-space()"
  | .normalized reading => "normalize-space(" ++ reading.render ++ ")"
  | .lowered reading =>
      "translate(" ++ reading.render ++ ", '" ++ upperLetters ++ "', '" ++ lowerLetters ++ "')"
  | .padded reading => "concat(' ', " ++ reading.render ++ ", ' ')"

namespace Reading

variable (name : String) (reading : Reading)

@[simp] theorem render_attr : (attr name).render = "@" ++ name := rfl

@[simp] theorem render_localName : localName.render = "local-name()" := rfl

@[simp] theorem render_text : text.render = "normalize-space()" := rfl

@[simp] theorem render_normalized :
    reading.normalized.render = "normalize-space(" ++ reading.render ++ ")" := rfl

@[simp] theorem render_lowered :
    reading.lowered.render =
      "translate(" ++ reading.render ++ ", '" ++ upperLetters ++ "', '" ++ lowerLetters ++ "')" :=
  rfl

@[simp] theorem render_padded :
    reading.padded.render = "concat(' ', " ++ reading.render ++ ", ' ')" := rfl

end Reading

mutual

/-- How a condition is written. -/
def Condition.render : Condition → String
  | .equals reading text => reading.render ++ " = " ++ quote text
  | .includes reading text => "contains(" ++ reading.render ++ ", " ++ quote text ++ ")"
  | .labelled text =>
      "(@id = //label[normalize-space() = " ++ quote text ++ "]/@for or " ++
        "parent::label[normalize-space() = " ++ quote text ++ "])"
  | .never => "false()"
  | .anyOf first others => "(" ++ first.render ++ renderOthers others ++ ")"

/-- How further alternatives are written. -/
def renderOthers : List Condition → String
  | [] => ""
  | condition :: others => " or " ++ condition.render ++ renderOthers others

end

namespace Condition

variable (reading : Reading) (text : String)

@[simp] theorem render_equals :
    (equals reading text).render = reading.render ++ " = " ++ quote text := rfl

@[simp] theorem render_includes :
    (includes reading text).render =
      "contains(" ++ reading.render ++ ", " ++ quote text ++ ")" := rfl

@[simp] theorem render_labelled :
    (labelled text).render =
      "(@id = //label[normalize-space() = " ++ quote text ++ "]/@for or " ++
        "parent::label[normalize-space() = " ++ quote text ++ "])" := rfl

@[simp] theorem render_never : never.render = "false()" := rfl

@[simp] theorem render_anyOf (first : Condition) (others : List Condition) :
    (anyOf first others).render = "(" ++ first.render ++ renderOthers others ++ ")" := rfl

end Condition

@[simp] theorem renderOthers_nil : renderOthers [] = "" := rfl

@[simp] theorem renderOthers_cons (condition : Condition) (others : List Condition) :
    renderOthers (condition :: others) = " or " ++ condition.render ++ renderOthers others := rfl

/-- How a condition is written in brackets of its own. -/
def Condition.renderStep (condition : Condition) : String := "[" ++ condition.render ++ "]"

/-- How a path is written: its conditions stand in one pair of brackets. -/
def Path.render (path : Path) : String :=
  ".//" ++ path.tag.getD "*" ++
    match path.conditions with
    | [] => ""
    | conditions => "[" ++ " and ".intercalate (conditions.map (·.render)) ++ "]"

end ElementSearch.XPath
