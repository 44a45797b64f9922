/-
# Queries read back to their criteria

An XPath query says no more and no less than the criteria that it was made from: read
back, it has their tag, and one condition for each of the others, in their order. Names
have to be plain, since they are written as they are; texts may be any, since they are
quoted.
-/

import Mathlib.Data.List.Forall2
import ElementSearch.Proofs.XPath.Reader
import ElementSearch.Query.Plan

namespace ElementSearch

open XPath

/-- The condition that what a key reads is compared with one text. -/
inductive Key.Compares (kind : ElementKind) : Key → String → Condition → Prop
  /-- A list of tags is compared with the name of the element. -/
  | tag (value : String) : Compares kind .tagName value (.equals .localName value)
  | text (value : String) : Compares kind .text value (.equals .text value)
  /-- A class is searched for among the classes, with a space on both sides. -/
  | word (value : String) :
      Compares kind .className value (.includes (.padded (.attr "class")) (" " ++ value ++ " "))
  /-- A label is an attribute for kinds that have one. -/
  | nativeLabel (value : String) (native : kind.hasNativeLabel = true) :
      Compares kind .label value (.equals (.attr "label") value)
  | label (value : String) (foreign : kind.hasNativeLabel = false) :
      Compares kind .label value (.labelled value)
  | href (value : String) (free : reservedNames.contains "href" = false) :
      Compares kind (.attr "href" free) value (.equals (.normalized (.attr "href")) value)
  /-- A type is compared in lower case. -/
  | type (value : String) (free : reservedNames.contains "type" = false) :
      Compares kind (.attr "type" free) value
        (.equals (.lowered (.attr "type")) (Text.lowercase value))
  /-- Any other attribute is compared as it is. -/
  | other {name : String} (value : String) (free : reservedNames.contains name = false)
      (noHref : name ≠ "href") (noType : name ≠ "type") :
      Compares kind (.attr name free) value (.equals (.attr (Key.attr name free).htmlName) value)

/-- The condition that a key has a value: one text, or any of several. -/
inductive Key.Asks (kind : ElementKind) (key : Key) : Value → Condition → Prop
  | one {text : String} {condition : Condition} (compares : key.Compares kind text condition) :
      Asks kind key (.literal text) condition
  | nothing : Asks kind key (.oneOf []) .never
  | oneOf {first : String} {others : List String} {condition : Condition}
      {conditions : List Condition} (compares : key.Compares kind first condition)
      (each : List.Forall₂ (key.Compares kind) others conditions) :
      Asks kind key (.oneOf (first :: others)) (.anyOf condition conditions)

namespace Criteria

/-- Criteria that are a query by themselves: texts and lists of texts, under keys with plain
names. -/
structure IsPlain (criteria : Criteria) : Prop where
  /-- Nothing asks for a position or a pattern. -/
  texts : ∀ entry ∈ criteria.entries,
    (∃ text, entry.2 = .literal text) ∨ ∃ texts, entry.2 = .oneOf texts
  /-- No query is given by the caller. -/
  synthesized : ∀ key ∈ criteria.keys, key ≠ .index ∧ key ≠ .xpath ∧ key ≠ .css
  tag : ∀ name, criteria.get? .tagName = some (.literal name) → isName name = true
  attributes : ∀ name free, .attr name free ∈ criteria.keys → isName name = true

/-- The criteria but for a single tag, which is no condition. -/
def conditional (criteria : Criteria) : List (Key × Value) :=
  criteria.entries.filter fun entry => !isTag entry.1 entry.2

theorem compares_condition {kind : ElementKind} {key : Key}
    (synthesized : key ≠ .index ∧ key ≠ .xpath ∧ key ≠ .css) (value : String) :
    key.Compares kind value (condition kind key value) := by
  obtain ⟨noIndex, noXPath, noCss⟩ := synthesized
  cases key with
  | tagName => exact .tag value
  | text => exact .text value
  | xpath => exact absurd rfl noXPath
  | css => exact absurd rfl noCss
  | index => exact absurd rfl noIndex
  | className => exact .word value
  | label =>
      by_cases native : kind.hasNativeLabel = true
      · rw [condition, if_pos native]
        exact .nativeLabel value native
      · rw [condition, if_neg native]
        exact .label value (Bool.eq_false_iff.2 native)
  | attr name free =>
      by_cases href : name = "href"
      · subst href
        exact .href value free
      by_cases type : name = "type"
      · subst type
        exact .type value free
      have made : condition kind (.attr name free) value =
          .equals (.attr (Key.attr name free).htmlName) value := by
        simp [condition, Key.reading, href, type]
      rw [made]
      exact .other value free href type

/-- The condition of a criterion asks for what the criterion does. -/
theorem asks_conditionFor {kind : ElementKind} {key : Key} {value : Value}
    (synthesized : key ≠ .index ∧ key ≠ .xpath ∧ key ≠ .css)
    (texts : (∃ text, value = .literal text) ∨ ∃ texts, value = .oneOf texts) :
    key.Asks kind value (conditionFor kind key value) := by
  rcases texts with ⟨text, rfl⟩ | ⟨texts, rfl⟩
  · exact .one (compares_condition synthesized text)
  · cases texts with
    | nil => exact .nothing
    | cons first others =>
        refine .oneOf (compares_condition synthesized first) ?_
        rw [List.forall₂_map_right_iff, List.forall₂_same]
        exact fun text _ => compares_condition synthesized text

/-- The name of an attribute in the document is plain where its own name is. -/
theorem isName_htmlName {name : String} (plain : isName name = true)
    (free : reservedNames.contains name = false) : isName (Key.attr name free).htmlName = true := by
  unfold isName at plain
  split at plain
  · cases plain
  · next first rest chars =>
      rw [Bool.and_eq_true, List.all_eq_true] at plain
      have kept : (first == '_') = false := by
        rw [beq_eq_false_iff_ne]
        rintro rfl
        cases plain.1
      rw [isName, Key.htmlName, Key.name, chars, String.toList_ofList, List.map_cons, kept]
      simp only [Bool.false_eq_true, if_false, plain.1, Bool.true_and, List.all_map, List.all_eq_true]
      intro c member
      have nameChar := plain.2 c member
      rw [Function.comp_apply]
      split
      · rfl
      · exact nameChar

theorem isSimple_of_compares {kind : ElementKind} {key : Key} {value : String}
    {condition : Condition} (plain : ∀ name free, key = .attr name free → isName name = true)
    (compares : key.Compares kind value condition) : condition.IsSimple := by
  cases compares with
  | tag => exact .equals .localName value
  | text => exact .equals .text value
  | word => exact .includes (.padded (by decide)) _
  | nativeLabel => exact .equals (.attr (by decide)) value
  | label => exact .labelled value
  | href => exact .equals (.normalized (by decide)) value
  | type => exact .equals (.lowered (by decide)) _
  | other value free => exact .equals (.attr (isName_htmlName (plain _ free rfl) free)) value

theorem forall_isSimple_of_compares {kind : ElementKind} {key : Key} {values : List String}
    {conditions : List Condition}
    (plain : ∀ name free, key = .attr name free → isName name = true)
    (each : List.Forall₂ (key.Compares kind) values conditions) :
    ∀ condition ∈ conditions, condition.IsSimple := by
  induction each with
  | nil => exact List.forall_mem_nil _
  | cons compares _ ih => exact List.forall_mem_cons.2 ⟨isSimple_of_compares plain compares, ih⟩

/-- The conditions of criteria with plain names can be read back. -/
theorem isPlain_of_asks {kind : ElementKind} {key : Key} {value : Value}
    {condition : Condition} (plain : ∀ name free, key = .attr name free → isName name = true)
    (asks : key.Asks kind value condition) : condition.IsPlain := by
  cases asks with
  | one compares => exact .simple (isSimple_of_compares plain compares)
  | nothing => exact .simple .never
  | oneOf compares each =>
      exact .anyOf (isSimple_of_compares plain compares) (forall_isSimple_of_compares plain each)

theorem forall₂_asks (kind : ElementKind) {criteria : Criteria} (plain : criteria.IsPlain) :
    List.Forall₂ (fun entry condition => entry.1.Asks kind entry.2 condition)
      criteria.conditional (criteria.path kind).conditions := by
  rw [path, List.forall₂_map_right_iff, ← conditional, List.forall₂_same]
  intro entry member
  have listed := (List.mem_filter.1 member).1
  exact asks_conditionFor (plain.synthesized entry.1 (List.mem_map_of_mem listed))
    (plain.texts entry listed)

theorem isPlain_path (kind : ElementKind) {criteria : Criteria} (plain : criteria.IsPlain) :
    (criteria.path kind).IsPlain where
  tag := by
    intro name found
    obtain ⟨value, held, literal⟩ := Option.bind_eq_some_iff.1 found
    rw [Value.literal?_eq_some_iff.1 literal] at held
    exact plain.tag name held
  conditions := by
    intro condition member
    obtain ⟨entry, kept, rfl⟩ := List.mem_map.1 member
    have listed := (List.mem_filter.1 kept).1
    refine isPlain_of_asks (fun name free same => ?_) (asks_conditionFor
      (plain.synthesized entry.1 (List.mem_map_of_mem listed)) (plain.texts entry listed))
    refine plain.attributes name free ?_
    rw [← same]
    exact List.mem_map_of_mem listed

theorem exactQuery_eq_xpath (kind : ElementKind) {criteria : Criteria} (plain : criteria.IsPlain) :
    criteria.exactQuery kind false = .ok (.xpath (criteria.path kind).render) := by
  have noIndex : criteria.contains .index = false := by
    rw [Bool.eq_false_iff, ne_eq, OrderedMap.contains_iff_mem_keys]
    exact fun member => (plain.synthesized .index member).1 rfl
  have noPattern : criteria.hasPattern = false := by
    rw [hasPattern, List.any_eq_false]
    intro entry member
    rcases plain.texts entry member with ⟨text, same⟩ | ⟨texts, same⟩
    · simp [same, Value.isPattern, Value.pattern?]
    · simp [same, Value.isPattern, Value.pattern?]
  exact exactQuery_false kind noIndex noPattern

/-- The XPath query of criteria reads back to them: to their tag, and to one condition for each
other criterion, in order. -/
theorem readPath_exactQuery (kind : ElementKind) {criteria : Criteria} (plain : criteria.IsPlain) :
    ∃ text path, criteria.exactQuery kind false = .ok (.xpath text) ∧ readPath text = some path ∧
      path.tag = (criteria.get? .tagName).bind Value.literal? ∧
      List.Forall₂ (fun entry condition => entry.1.Asks kind entry.2 condition)
        criteria.conditional path.conditions :=
  ⟨(criteria.path kind).render, criteria.path kind, exactQuery_eq_xpath kind plain,
    readPath_render (isPlain_path kind plain), rfl, forall₂_asks kind plain⟩

/-- Texts that look like a part of the query are read back as texts. -/
theorem readPath_exactQuery_quoted :
    ∃ criteria : Criteria, criteria.entries = [(.tagName, .literal "a"),
      (.text, .oneOf ["it's", "\"it's\""]), (.href, .literal "'] and ["), (.label, .oneOf [])] ∧
      criteria.IsPlain ∧ ∃ text path,
        criteria.exactQuery .generic false = .ok (.xpath text) ∧ readPath text = some path ∧
          path.tag = (criteria.get? .tagName).bind Value.literal? ∧
          List.Forall₂ (fun entry condition => entry.1.Asks .generic entry.2 condition)
            criteria.conditional path.conditions := by
  let criteria : Criteria := ⟨[(.tagName, .literal "a"), (.text, .oneOf ["it's", "\"it's\""]),
    (.href, .literal "'] and ["), (.label, .oneOf [])], by decide⟩
  have plain : criteria.IsPlain := {
    texts := by simp [criteria]
    synthesized := by simp [criteria, OrderedMap.keys, Key.href]
    tag := by
      intro name same
      obtain rfl := Value.literal.inj (Option.some.inj same)
      decide
    attributes := by
      intro name free member
      simp only [criteria, OrderedMap.keys, Key.href, List.map_cons, List.map_nil, List.mem_cons,
        List.not_mem_nil, or_false, reduceCtorEq, false_or, Key.attr.injEq] at member
      rw [member]
      decide }
  exact ⟨criteria, rfl, plain, readPath_exactQuery .generic plain⟩

end Criteria

end ElementSearch
