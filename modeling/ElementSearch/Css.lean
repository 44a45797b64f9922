/-
# CSS selectors

The part of CSS that searches are written in: a tag or any element, a class token, and
tests of attributes.
-/

namespace ElementSearch.Css

/-- A test of an attribute. -/
inductive AttributeTest
  /-- The attribute has exactly this value. -/
  | equals (name value : String)
  /-- The value is one of the words of the attribute. -/
  | hasWord (name value : String)
  deriving DecidableEq, Repr

/-- Elements of a tag, or all of them, with a class token and tests of attributes. -/
structure Query where
  tag : Option String
  token : Option String
  tests : List AttributeTest
  deriving DecidableEq, Repr

/-- A character inside a quoted string. -/
def escapeChar (c : Char) : List Char :=
  if c == '\\' then ['\\', '\\'] else if c == '"' then ['\\', '"'] else [c]

/-- A text as the contents of a quoted string. -/
def escape (text : String) : String := String.ofList (text.toList.flatMap escapeChar)

/-- How a test is written. -/
def AttributeTest.render : AttributeTest → String
  | .equals name value => "[" ++ name ++ "=\"" ++ escape value ++ "\"]"
  | .hasWord name value => "[" ++ name ++ "~=\"" ++ escape value ++ "\"]"

/-- How a query is written. -/
def Query.render (query : Query) : String :=
  query.tag.getD "*" ++ (query.token.elim "" ("." ++ ·)) ++
    String.join (query.tests.map (·.render))

/-- Whether a class can be written behind a dot: an optional hyphen, letters or underscores, and
then also digits and hyphens, all of them ASCII. -/
def isToken (text : String) : Bool :=
  let start (c : Char) : Bool := c.isAlpha || c == '_'
  let name := match text.toList with
    | '-' :: rest => rest
    | chars => chars
  match name with
  | [] => false
  | first :: rest => start first && rest.all fun c => start c || c.isDigit || c == '-'

end ElementSearch.Css
