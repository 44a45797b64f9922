/-
# Kinds of elements

A kind says which attributes a selector may name for elements of one tag. The generic
kind accepts every attribute and stands in for tags that no kind is registered for.
-/

import ElementSearch.OrderedMap

namespace ElementSearch

/-- Attributes that every element has. -/
def globalAttributes : List String :=
  ["id", "class", "title", "lang", "dir", "style", "hidden", "tabindex", "accesskey",
    "draggable", "contenteditable", "spellcheck", "translate", "role", "name"]

/-- The beginnings of attribute families that every element has. -/
def wildcardFamilies : List String := ["data_", "aria_"]

/-- Whether a name belongs to a family of attributes that every element has. -/
def isWildcardAttribute (name : String) : Bool :=
  wildcardFamilies.any fun family =>
    family.toList.isPrefixOf name.toList && family.length < name.length

/-- The attributes that selectors may name for one category of elements. -/
structure ElementKind where
  tag : String
  attributes : List String
  /-- Whether any attribute at all is accepted. -/
  acceptsAll : Bool

namespace ElementKind

/-- The kind of a tag with further attributes beside the global ones. -/
def ofTag (tag : String) (further : List String) : ElementKind :=
  ⟨tag, globalAttributes ++ further, false⟩

/-- The kind that accepts every attribute. -/
def generic : ElementKind := { ofTag "element" [] with acceptsAll := true }

/-- The kind with one more attribute. -/
def withAttribute (kind : ElementKind) (name : String) : ElementKind :=
  { kind with attributes := kind.attributes ++ [name] }

/-- Whether a selector may name the attribute. -/
def accepts (kind : ElementKind) (name : String) : Bool :=
  kind.acceptsAll || kind.attributes.contains name || isWildcardAttribute name

/-- Whether a label is an attribute of these elements and not an element of its own. -/
def hasNativeLabel (kind : ElementKind) : Bool := kind.attributes.contains "label"

/-- Whether two kinds have the same tag and accept the same attributes. -/
def sameAs (first second : ElementKind) : Bool :=
  first.tag == second.tag && first.acceptsAll == second.acceptsAll &&
    first.attributes.all second.attributes.contains &&
    second.attributes.all first.attributes.contains

end ElementKind

/-- The registered kinds, by tag. -/
structure KindRegistry where
  kinds : OrderedMap String ElementKind

namespace KindRegistry

/-- A registry without kinds. -/
def empty : KindRegistry := ⟨.empty⟩

/-- Add a kind, in place of one with the same tag. -/
def register (registry : KindRegistry) (kind : ElementKind) : KindRegistry :=
  ⟨registry.kinds.insert kind.tag kind⟩

/-- The kinds of HTML elements that are registered from the start. -/
def htmlKinds : List ElementKind :=
  [.ofTag "a" ["href", "target", "rel", "download", "hreflang", "type"],
    .ofTag "button" ["type", "value", "disabled", "form", "autofocus"],
    .ofTag "input"
      ["type", "value", "disabled", "checked", "placeholder", "readonly", "required",
        "maxlength", "min", "max", "step", "pattern", "size", "src", "alt", "multiple",
        "accept", "autocomplete", "form"],
    .ofTag "label" ["for", "form"],
    .ofTag "option" ["value", "label", "selected", "disabled"],
    .ofTag "optgroup" ["label", "disabled"],
    .ofTag "track" ["kind", "src", "srclang", "label", "default"],
    .ofTag "select" ["multiple", "size", "disabled", "required"],
    .ofTag "textarea"
      ["rows", "cols", "placeholder", "disabled", "readonly", "required", "maxlength", "wrap"],
    .ofTag "img" ["src", "alt", "width", "height"],
    .ofTag "form" ["action", "method", "enctype", "target"],
    .ofTag "div" [],
    .ofTag "span" []]

/-- The registry of HTML kinds. -/
def html : KindRegistry := htmlKinds.foldl register empty

/-- The kind registered for a tag. -/
def get? (registry : KindRegistry) (tag : String) : Option ElementKind :=
  registry.kinds.get? tag

/-- The kind for a tag, which is the generic one where none is registered. -/
def kindFor (registry : KindRegistry) (tag : String) : ElementKind :=
  (registry.get? tag).getD .generic

/-- How many kinds are registered. -/
def size (registry : KindRegistry) : Nat := registry.kinds.size

end KindRegistry

end ElementSearch
