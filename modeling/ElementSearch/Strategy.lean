/-
# Lookup strategies

The ways in which a page can be asked for elements.
-/

import ElementSearch.Text.Quoted

namespace ElementSearch

/-- How a page is asked for elements. -/
inductive Strategy
  | id
  | name
  | className
  | css
  | xpath
  | tagName
  | linkText
  | partialLinkText
  deriving DecidableEq, Repr

namespace Strategy

/-- The strategy as messages and protocols show it. -/
def display : Strategy → String
  | .id => "id"
  | .name => "name"
  | .className => "class name"
  | .css => "css selector"
  | .xpath => "xpath"
  | .tagName => "tag name"
  | .linkText => "link text"
  | .partialLinkText => "partial link text"

/-- The strategy that answers a criterion with this name when it stands alone. -/
def forName? : String → Option Strategy
  | "id" => some .id
  | "name" => some .name
  | "class" | "class_name" => some .className
  | "css" => some .css
  | "xpath" => some .xpath
  | "tag_name" => some .tagName
  | "link" | "link_text" => some .linkText
  | "partial_link_text" => some .partialLinkText
  | _ => none

/-- A lookup as messages show it. -/
def displayLookup (strategy : Strategy) (value : String) : String :=
  strategy.display ++ " " ++ Text.quoted value

end Strategy

end ElementSearch
