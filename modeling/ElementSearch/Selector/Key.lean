/-
# Keys of criteria

A criterion is filed under a key. A few names have a meaning of their own; every other
name is an attribute, spelled with underscores where the document has hyphens. The keys
and their names are in bijection.
-/

namespace ElementSearch

/-- The names of criteria that are not attributes. -/
def reservedNames : List String :=
  ["tag_name", "text", "xpath", "css", "index", "class", "label"]

/-- What a criterion is about. -/
inductive Key
  | tagName
  | text
  | xpath
  | css
  | index
  | className
  | label
  | attr (name : String) (free : reservedNames.contains name = false)
  deriving DecidableEq

namespace Key

/-- The key with a name. -/
def ofName (name : String) : Key :=
  if reserved : reservedNames.contains name then
    if name = "tag_name" then .tagName
    else if name = "text" then .text
    else if name = "xpath" then .xpath
    else if name = "css" then .css
    else if name = "index" then .index
    else if name = "class" then .className
    else .label
  else .attr name (by simpa using reserved)

/-- The name of a key. -/
def name : Key → String
  | .tagName => "tag_name"
  | .text => "text"
  | .xpath => "xpath"
  | .css => "css"
  | .index => "index"
  | .className => "class"
  | .label => "label"
  | .attr name _ => name

@[simp] theorem name_ofName (name : String) : (ofName name).name = name := by
  unfold ofName
  split
  · next reserved =>
      simp only [reservedNames, List.contains_eq_mem, List.mem_cons, List.not_mem_nil, or_false,
        decide_eq_true_eq] at reserved
      rcases reserved with rfl | rfl | rfl | rfl | rfl | rfl | rfl <;> rfl
  · rfl

@[simp] theorem ofName_name (key : Key) : ofName key.name = key := by
  cases key with
  | attr name free => exact dif_neg (by simp only [Key.name, free]; exact Bool.false_ne_true)
  | _ => rfl

/-- Keys with the same name are the same. -/
theorem name_injective {first second : Key} (same : first.name = second.name) :
    first = second := by
  rw [← ofName_name first, ← ofName_name second, same]

/-- Whether the key has a meaning of its own. -/
def isReserved : Key → Bool
  | .attr _ _ => false
  | _ => true

/-- Whether the key is the attribute with a name. -/
def isAttribute (key : Key) (name : String) : Bool :=
  match key with
  | .attr own _ => own == name
  | _ => false

/-- The name as documents spell it, with hyphens. -/
def htmlName (key : Key) : String :=
  String.ofList (key.name.toList.map fun c => if c == '_' then '-' else c)

/-- The attribute that names one element of a document. -/
def id : Key := .attr "id" (by decide)

/-- The attribute that a link points with. -/
def href : Key := .attr "href" (by decide)

end Key

end ElementSearch
