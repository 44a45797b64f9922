/-
# Lookups read back from their queries

A browser is asked for an identifier, a name, a class or a link by an XPath query. The query is a
fixed text for each of these with a string expression in it, and that denotes the value that is
looked for, with a space on both sides for a class. As the expression is read to its end and no
further, no value can change what stands around it, and the lookup can be read off the query.
-/

import ElementSearch.Browser.Remote
import ElementSearch.Proofs.XPath.StringExpression

namespace ElementSearch

open XPath

/-- How a lookup of one sort is written in XPath. -/
structure LookupTemplate where
  strategy : Strategy
  /-- What stands before the string expression. -/
  before : String
  /-- What stands behind the string expression. -/
  after : String
  /-- What the string expression denotes. -/
  content : String → String

/-- The lookups that are written in XPath. -/
def lookupTemplates : List LookupTemplate :=
  [⟨.id, ".//*[@id = ", "]", id⟩,
    ⟨.name, ".//*[@name = ", "]", id⟩,
    ⟨.className, ".//*[contains(concat(' ', normalize-space(@class), ' '), ", ")]",
      fun value => " " ++ value ++ " "⟩,
    ⟨.linkText, ".//a[normalize-space() = ", "]", id⟩,
    ⟨.partialLinkText, ".//a[contains(normalize-space(), ", ")]", id⟩]

/-- What a query is written for that is a template with a string expression in it. -/
def LookupTemplate.read (template : LookupTemplate) (input : List Char) : Option String := do
  let rest ← expect template.before input
  let (expression, rest) ← readExpression rest
  let rest ← expect template.after rest
  if rest.isEmpty then some expression.string else none

/-- The lookup that a query is written for, and what its string expression denotes. -/
def readLookup (text : String) : Option (Strategy × String) :=
  lookupTemplates.findSome? fun template =>
    (template.read text.toList).map fun content => (template.strategy, content)

/-- A list that differs from the front of another is not at the front of that. -/
theorem isPrefixOf?_append_eq_none {first second : List Char}
    (differ : ((first.zip second).any fun pair => pair.1 != pair.2) = true) (rest : List Char) :
    first.isPrefixOf? (second ++ rest) = none := by
  induction first generalizing second with
  | nil => cases differ
  | cons c first ih =>
      cases second with
      | nil => cases differ
      | cons d second =>
          rw [List.zip_cons_cons, List.any_cons, Bool.or_eq_true] at differ
          rw [List.cons_append, List.isPrefixOf?]
          split
          · next same =>
              have later := differ.resolve_left fun other => bne_iff_ne.1 other (beq_iff_eq.1 same)
              exact ih later
          · rfl

namespace LookupTemplate

variable (template : LookupTemplate)

/-- A template with a value in it. -/
def write (value : String) : String :=
  template.before ++ quote (template.content value) ++ template.after

theorem toList_write (value : String) :
    (template.write value).toList =
      template.before.toList ++
        ((quote (template.content value)).toList ++ (template.after.toList ++ [])) := by
  simp only [write, String.toList_append, List.append_assoc, List.append_nil]

/-- A template is read back to what stands in it. -/
theorem read_write (value : String) :
    template.read (template.write value).toList = some (template.content value) := by
  obtain ⟨expression, read, denoted, -⟩ :=
    exists_readExpression_quote (template.content value) (template.after.toList ++ [])
  simp only [LookupTemplate.read, toList_write, expect_append, read, bind, Option.bind_some,
    denoted]
  rfl

/-- What stands in front of two templates differs within both. -/
def IsApartFrom (first second : LookupTemplate) : Prop :=
  ((first.before.toList.zip second.before.toList).any fun pair => pair.1 != pair.2) = true

instance (first second : LookupTemplate) : Decidable (first.IsApartFrom second) :=
  inferInstanceAs (Decidable (_ = true))

variable {template}

/-- A template is not read off what is written by one that it is apart from. -/
theorem read_write_of_isApartFrom {other : LookupTemplate} (apart : other.IsApartFrom template)
    (value : String) : other.read (template.write value).toList = none := by
  have unread : expect other.before (template.write value).toList = none := by
    rw [toList_write, expect]
    exact isPrefixOf?_append_eq_none apart _
  rw [LookupTemplate.read, unread]
  rfl

end LookupTemplate

/-- A path with one condition has it in brackets. -/
theorem XPath.toList_render_single (tag : Option String) (condition : Condition) :
    (Path.render ⟨tag, [condition]⟩).toList =
      ".//".toList ++ ((tag.getD "*").toList ++
        ("[".toList ++ (condition.render.toList ++ "]".toList))) := by
  simp only [Path.render, List.map_cons, List.map_nil, String.intercalate_singleton,
    String.toList_append, List.append_assoc]

/-- A lookup is written as its template has it. -/
theorem BrowserQuery.ofLookup_eq_write {template : LookupTemplate}
    (member : template ∈ lookupTemplates) (value : String) :
    ofLookup template.strategy value = .xpath (template.write value) := by
  have written {tag : Option String} {condition : Condition} {text : String}
      (same : (Path.render ⟨tag, [condition]⟩).toList = text.toList) :
      BrowserQuery.xpath (Path.render ⟨tag, [condition]⟩) = .xpath text :=
    congrArg BrowserQuery.xpath (String.toList_inj.1 same)
  simp only [lookupTemplates, List.mem_cons, List.not_mem_nil, or_false] at member
  obtain rfl | rfl | rfl | rfl | rfl := member
  all_goals
    apply written
    simp only [toList_render_single, LookupTemplate.toList_write, Condition.render_equals,
      Condition.render_includes, Reading.render_attr, Reading.render_text,
      Reading.render_normalized, Reading.render_padded, String.toList_append, List.append_assoc]
    rfl

/-- The templates differ in front of their string expressions. -/
theorem pairwise_lookupTemplates :
    lookupTemplates.Pairwise LookupTemplate.IsApartFrom := by
  decide

/-- What is written by one of several templates is read by that and by none before it, where
each is apart from those behind it. -/
theorem findSome?_read_write {template : LookupTemplate} {templates : List LookupTemplate}
    (apart : templates.Pairwise LookupTemplate.IsApartFrom) (member : template ∈ templates)
    (value : String) :
    (templates.findSome? fun other => (other.read (template.write value).toList).map
      fun content => (other.strategy, content)) =
        some (template.strategy, template.content value) := by
  induction templates with
  | nil => cases member
  | cons first others ih =>
      obtain ⟨here, later⟩ := List.pairwise_cons.1 apart
      obtain rfl | behind := List.mem_cons.1 member
      · rw [List.findSome?_cons, template.read_write]
        rfl
      · rw [List.findSome?_cons,
          LookupTemplate.read_write_of_isApartFrom (here template behind)]
        exact ih later behind

/-- String expressions are read off the front of any text: for every string one is written that is
read to its end, whatever follows, that denotes the string, and that joins two strings or more if
it joins any. So whatever a browser is asked for by an identifier, a name, a class or a link, the
query is the template for that with a string expression for the value in it, and is read back to
the sort of lookup and the value, which has a space on both sides for a class. -/
theorem BrowserQuery.readLookup_ofLookup :
    (∀ (text : String) (rest : List Char), ∃ expression,
      readExpression ((quote text).toList ++ rest) = some (expression, rest) ∧
        expression.string = text ∧
        ∀ arguments, expression = .concat arguments → 2 ≤ arguments.length) ∧
    ∀ template ∈ lookupTemplates, ∀ value : String,
      ofLookup template.strategy value = .xpath (template.write value) ∧
        readLookup (template.write value) =
          some (template.strategy, template.content value) := by
  constructor
  · intro text rest
    obtain ⟨expression, read, denoted, valid⟩ := exists_readExpression_quote text rest
    refine ⟨expression, read, denoted, ?_⟩
    rintro arguments rfl
    exact valid
  · intro template member value
    exact ⟨ofLookup_eq_write member value,
      findSome?_read_write pairwise_lookupTemplates member value⟩

/-- The text of a link with quotes of both kinds in it is joined from its parts. -/
theorem BrowserQuery.readLookup_ofLookup_quotes :
    ofLookup .linkText "it's \"x\"" =
        .xpath ".//a[normalize-space() = concat('it', \"'\", 's \"x\"')]" ∧
      readLookup ".//a[normalize-space() = concat('it', \"'\", 's \"x\"')]" =
        some (.linkText, "it's \"x\"") :=
  readLookup_ofLookup.2 ⟨.linkText, ".//a[normalize-space() = ", "]", id⟩
    (by simp [lookupTemplates]) "it's \"x\""

end ElementSearch
