/-
# Selectors in JSON

A selector is an object with a member for each criterion. A position is an integer, a
literal is a string, several literals are an array of strings, and a pattern is an
object that gives its source and perhaps whether it ignores case, or an array of the
two.
-/

import ElementSearch.Json.Reader
import ElementSearch.Json.Writer
import ElementSearch.Selector.Basic

namespace ElementSearch

variable [Compiler]

namespace Value

/-- The texts of an array that holds nothing else. -/
def texts? : List Json → Option (List String)
  | [] => some []
  | .str text :: rest => (texts? rest).map (text :: ·)
  | _ :: _ => none

/-- The number that fits a position. -/
def position? (n : Int) : Option Int64 :=
  if Int64.minValue.toInt ≤ n ∧ n ≤ Int64.maxValue.toInt then some (Int64.ofInt n)
  else none

/-- The value of a member that must come at most once: `some none` if it is absent. -/
def onlyMember? (members : List (String × Json)) (name : String) : Option (Option Json) :=
  match members.filter (·.1 == name) with
  | [] => some none
  | [member] => some (some member.2)
  | _ => none

/-- The pattern that an object denotes. Members with other names do not matter. -/
def patternOfMembers? (members : List (String × Json)) : Option Pattern := do
  let source ← onlyMember? members "pattern"
  let ignoreCase ← onlyMember? members "case_insensitive"
  match source, ignoreCase with
  | some (.str source), none => Pattern.ofSource? source false
  | some (.str source), some (.bool ignoreCase) => Pattern.ofSource? source ignoreCase
  | _, _ => none

/-- The value that a JSON value denotes. An array of strings is taken for literals first. -/
def ofJson? : Json → Option Value
  | .int n => (position? n).map .index
  | .str text => some (.literal text)
  | .arr items =>
      match texts? items with
      | some texts => some (.oneOf texts)
      | none =>
          match items with
          | [.str source, .bool ignoreCase] =>
              (Pattern.ofSource? source ignoreCase).map .pattern
          | _ => none
  | .obj members => (patternOfMembers? members).map .pattern
  | _ => none

/-- The JSON value that denotes a value. -/
def toJson : Value → Json
  | .index position => .int position.toInt
  | .literal text => .str text
  | .oneOf texts => .arr (texts.map .str)
  | .pattern asked =>
      .obj [("pattern", .str asked.source), ("case_insensitive", .bool asked.ignoreCase)]

end Value

namespace Selector

/-- The pairs that the members of an object denote. -/
def pairs? : List (String × Json) → Option (List (String × Value))
  | [] => some []
  | (name, json) :: rest => do
      let value ← Value.ofJson? json
      let others ← pairs? rest
      some ((name, value) :: others)

/-- The selector that a JSON value denotes; the last of several members with a name counts, at
the place of the first. -/
def ofJson? : Json → Option Selector
  | .obj members => (pairs? members).map OrderedMap.ofList
  | _ => none

/-- The JSON value that denotes a selector. -/
def toJson (selector : Selector) : Json :=
  .obj (selector.entries.map fun (name, value) => (name, value.toJson))

/-- Read a selector. -/
def parse (text : String) : Option Selector := (Json.parse text).bind ofJson?

/-- Write a selector. -/
def render (selector : Selector) : String := selector.toJson.render

end Selector

end ElementSearch
