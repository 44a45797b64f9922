/-
# Queries

What criteria are turned into: a query in CSS or XPath that a page can answer.
-/

import ElementSearch.Css
import ElementSearch.Kind
import ElementSearch.Selector.Basic
import ElementSearch.Strategy
import ElementSearch.Text.Basic
import ElementSearch.XPath.Printer

namespace ElementSearch

/-- A query that a page can answer. -/
structure Query where
  strategy : Strategy
  text : String
  deriving DecidableEq, Repr

namespace Query

/-- A query in CSS. -/
def css (text : String) : Query := ⟨.css, text⟩

/-- A query in XPath. -/
def xpath (text : String) : Query := ⟨.xpath, text⟩

end Query

/-- What a criterion is compared with, read off an element. -/
def Key.reading (key : Key) : XPath.Reading :=
  match key with
  | .text => .text
  | .tagName => .localName
  | .className => .attr "class"
  | .attr name _ =>
      if name == "href" then .normalized (.attr "href")
      else if name == "type" then .lowered (.attr "type")
      else .attr key.htmlName
  | _ => .attr key.htmlName

/-- Whether white space is normalized in what a criterion is compared with. -/
def Key.normalizesSpace (key : Key) : Bool := key == .text || key.isAttribute "href"

namespace Criteria

/-- The condition that a key has one given value. -/
def condition (kind : ElementKind) (key : Key) (value : String) : XPath.Condition :=
  match key with
  | .className => .includes (.padded (.attr "class")) (" " ++ value ++ " ")
  | .label =>
      if kind.hasNativeLabel then .equals key.reading value else .labelled value
  | .attr name _ =>
      .equals key.reading (if name == "type" then Text.lowercase value else value)
  | _ => .equals key.reading value

/-- The condition that a criterion is met. Patterns and positions are no conditions on one
element; no query is written for them. -/
def conditionFor (kind : ElementKind) (key : Key) : Value → XPath.Condition
  | .literal text => condition kind key text
  | .oneOf [] => .never
  | .oneOf (first :: others) =>
      .anyOf (condition kind key first) (others.map (condition kind key))
  | .pattern _ | .index _ => .never

/-- Whether a criterion is the tag of a path and not one of its conditions. -/
def isTag (key : Key) (value : Value) : Bool := key == .tagName && value.literal?.isSome

/-- The path that selects by the criteria. -/
def path (kind : ElementKind) (criteria : Criteria) : XPath.Path where
  tag := (criteria.get? .tagName).bind Value.literal?
  conditions := (criteria.entries.filter fun entry => !isTag entry.1 entry.2).map
    fun entry => conditionFor kind entry.1 entry.2

/-- The value of a key as a single literal: `some none` if the key is absent, and `none` if its
value is something else. -/
def literalOrAbsent? (criteria : Criteria) (key : Key) : Option (Option String) :=
  match criteria.get? key with
  | none => some none
  | some value => value.literal?.map some

/-- The test of an attribute, if the criterion is an attribute with a single literal. The
attribute that links point with is tested ahead of the others. -/
def attributeTests? : List (Key × Value) → Option (List Css.AttributeTest)
  | [] => some []
  | (key, value) :: rest =>
      match key with
      | .attr name _ =>
          if name == "href" then attributeTests? rest
          else value.literal?.bind fun text =>
            (attributeTests? rest).map (.equals key.htmlName text :: ·)
      | _ => attributeTests? rest

/-- The CSS query that selects by the criteria, where CSS can say what they mean. -/
def css? (criteria : Criteria) : Option Css.Query := do
  if criteria.contains .text || criteria.contains .label || criteria.contains .index then none
  else do
    let tag ← criteria.literalOrAbsent? .tagName
    if tag == some "input" && criteria.keys.any (·.isAttribute "type") then none
    else do
      let token ← criteria.literalOrAbsent? .className
      if token.all Css.isToken then do
        let href ← criteria.literalOrAbsent? .href
        let tests ← attributeTests? criteria.entries
        some ⟨tag, token, (href.map (Css.AttributeTest.hasWord "href")).toList ++ tests⟩
      else none

end Criteria

end ElementSearch
