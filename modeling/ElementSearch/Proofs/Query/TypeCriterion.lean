/-
# Types in any case

A type is compared in any case, by the query and once more by the check of a single result. The
query lowers the ASCII letters of the attribute, with a missing one read as empty, and compares
it with the lower case of what is asked for; the check lowers all letters on both sides and lets
no missing type pass. So the query finds what the check lets pass only where the attribute has
no other letters to lower, and an empty type that is not there besides.
-/

import ElementSearch.Proofs.Query.Languages
import ElementSearch.Proofs.Search.Filter
import ElementSearch.Proofs.Text.Lowercase

namespace ElementSearch

open XPath

namespace Value

/-- In any case, a text is accepted where it is one of those asked for. -/
theorem acceptsAnyCase_iff {value : Value} (plain : value.isPattern = false) {actual : String} :
    value.AcceptsAnyCase actual ↔
      ∃ text ∈ value.texts, Text.lowercase text = Text.lowercase actual := by
  cases value with
  | pattern asked => cases plain
  | _ => simp [AcceptsAnyCase, texts]

/-- The value does not set the query and the check at odds over this type: nothing empty is asked
for where there is none, and a type that is accepted has no letters to lower but those of
ASCII. -/
def AgreesOn (value : Value) : Option String → Prop
  | none => ¬ value.AcceptsAnyCase ""
  | some type => value.AcceptsAnyCase type → Text.lowerAscii type = Text.lowercase type

end Value

namespace Criteria

variable (labelled : String → Bool) (kind : ElementKind) {element : Element}

/-- The query finds a type where the check accepts it, if lowering its ASCII letters makes it lower
case. What is missing is read as empty. -/
theorem holds_conditionFor_type_iff {value : Value} (plain : value.isPattern = false) :
    (conditionFor kind .type value).holds labelled element = true ↔
      value.AcceptsAnyCase ((element.attribute? "type").getD "") ∧
        Text.lowerAscii ((element.attribute? "type").getD "") =
          Text.lowercase ((element.attribute? "type").getD "") := by
  have single (text : String) : (condition kind .type text).holds labelled element = true ↔
      Text.lowerAscii ((element.attribute? "type").getD "") = Text.lowercase text :=
    holds_conditionFor_type labelled kind text
  rw [holds_conditionFor_iff, Value.acceptsAnyCase_iff plain]
  simp only [single]
  constructor
  · rintro ⟨text, asked, same⟩
    -- Lowering the ASCII letters has led to lower case, so there was nothing else to lower.
    have lower := Text.lowercase_of_lowerAscii_eq same
    exact ⟨⟨text, asked, same.symm.trans lower.symm⟩, lower.symm⟩
  · rintro ⟨⟨text, asked, same⟩, lower⟩
    exact ⟨text, asked, lower.trans same.symm⟩

/-- The tag of an element that the path selects is what the criteria ask for. -/
theorem acceptsAnyCase_of_selects {criteria : Criteria} {value : Value}
    (selected : (criteria.path kind).selects labelled element = true)
    (asked : criteria.get? .tagName = some value) : value.AcceptsAnyCase element.tag := by
  obtain ⟨tagged, met⟩ := (selects_path_iff_holds labelled kind).1 selected
  cases value with
  | literal text =>
      rw [tagged text asked]
      rfl
  | oneOf texts =>
      have holds := met .tagName _ asked rfl
      obtain ⟨text, listed, same⟩ := (holds_conditionFor_iff labelled kind _ _).1 holds
      have tag : element.tag = text := beq_iff_eq.1 same
      exact ⟨text, listed, congrArg Text.lowercase tag.symm⟩
  | _ =>
      have holds := met .tagName _ asked rfl
      cases holds

end Criteria

/-! ## The query and the check -/

namespace Document

section Agreement

variable {document : Document} {node : Nat} {selector : Selector} {value : Value}

/-- An input passes the check of its type if it has one that is accepted. -/
theorem typeSuits_iff {element : Element} (asked : selector.get? "type" = some value)
    (input : Text.sameAsciiLetters element.tag "input" = true) :
    selector.typeSuits element = true ↔
      ∃ type, element.attribute? "type" = some type ∧ value.AcceptsAnyCase type := by
  rw [Selector.typeSuits, asked, Option.all_some, input]
  exact Value.acceptsLowered_iff

/-- An element that the path for a selector selects passes the check of a single result, unless its
type is missing. -/
theorem fits_of_selects {labelled : String → Bool} {kind : ElementKind} {criteria : Criteria}
    (normalized : selector.normalize kind = .ok criteria)
    (selected : (criteria.path kind).selects labelled (document.tree.element node) = true)
    (typed : ((document.tree.element node).attribute? "type").isSome)
    (fresh : document.stale.contains node = false) :
    document.reader.fits selector node = .ok true := by
  obtain ⟨type, present⟩ := Option.isSome_iff_exists.1 typed
  have tag : criteria.get? .tagName = selector.get? "tag_name" :=
    Selector.get?_of_normalize normalized (by decide)
  have sameType : criteria.get? .type = selector.get? "type" :=
    Selector.get?_of_normalize normalized (by decide)
  have suits : selector.Suits (document.tree.element node) := {
    tag := by
      intro asked sought
      exact Criteria.acceptsAnyCase_of_selects labelled kind selected (tag.trans sought)
    type := by
      intro asked sought _
      have holds := ((Criteria.selects_path_iff_holds labelled kind).1 selected).2 .type asked
        (sameType.trans sought) rfl
      have plain : asked.isPattern = false := by
        cases asked with
        | pattern _ => cases holds
        | _ => rfl
      have accepted := (Criteria.holds_conditionFor_type_iff labelled kind plain).1 holds
      rw [present] at accepted
      exact ⟨type, present, accepted.1⟩ }
  rw [fits_of_fresh fresh]
  exact congrArg Except.ok (Selector.suits_iff.1 suits)

/-- On inputs whose tag passes, the condition that the query puts on the type and the check of a
single result agree exactly where the value does not set them at odds. And whatever the query
for a selector selects passes the check, if only it has a type. -/
theorem holds_type_iff_fits (labelled : String → Bool) (kind : ElementKind)
    (plain : value.isPattern = false) (asked : selector.get? "type" = some value)
    (fresh : document.stale.contains node = false)
    (input : Text.sameAsciiLetters (document.tree.element node).tag "input" = true) :
    (document.reader.tagFits selector node = .ok true →
      (((Criteria.conditionFor kind .type value).holds labelled
            (document.tree.element node) = true ↔
          document.reader.fits selector node = .ok true) ↔
        value.AgreesOn ((document.tree.element node).attribute? "type"))) ∧
      ∀ criteria, selector.normalize kind = .ok criteria →
        (criteria.path kind).selects labelled (document.tree.element node) = true →
        ((document.tree.element node).attribute? "type").isSome →
          document.reader.fits selector node = .ok true := by
  constructor
  · intro tagged
    have suited : selector.tagSuits (document.tree.element node) = true :=
      (gives_tagFits document node selector true tagged).symm
    rw [fits_of_fresh fresh, suited, Bool.true_and, Except.ok.injEq, typeSuits_iff asked input,
      Criteria.holds_conditionFor_type_iff labelled kind plain]
    cases (document.tree.element node).attribute? "type" with
    | none =>
        have lower : Text.lowerAscii "" = Text.lowercase "" := rfl
        simp [Value.AgreesOn, lower]
    | some type => simp [Value.AgreesOn]
  · intro criteria normalized selected typed
    exact fits_of_selects normalized selected typed fresh

end Agreement

/-- A page with one input. -/
def onlyInput (attributes : List (String × String)) : Document where
  tree := ⟨[⟨0, "input", attributes, ""⟩], by simp⟩
  stubs := .empty
  stale := []
  calls := []

/-- Selectors that ask for a type. -/
def ofType (type : String) : Selector := ⟨[("type", .literal type)], by simp⟩

/-- Of an input with these attributes, `found` says whether the condition on the type holds, and
`kept` what the check of a single result says. -/
def IsJudged (type : String) (attributes : List (String × String)) (found kept : Bool) : Prop :=
  (Criteria.conditionFor .generic .type (.literal type)).holds (fun _ => false)
      ((onlyInput attributes).tree.element 1) = found ∧
    (onlyInput attributes).reader.fits (ofType type) 1 = .ok kept

/-- A type in capital letters is found and kept. -/
theorem holds_type_iff_fits_email :
    (Value.literal "Email").AgreesOn (some "EMAIL") ∧
      IsJudged "Email" [("type", "EMAIL")] true true := by
  let document := onlyInput [("type", "EMAIL")]
  have asked : (ofType "Email").get? "type" = some (.literal "Email") := rfl
  have fresh : document.stale.contains 1 = false := rfl
  have input : Text.sameAsciiLetters (document.tree.element 1).tag "input" = true := by
    decide +kernel
  have tagged : document.reader.tagFits (ofType "Email") 1 = .ok true := rfl
  have agrees : (Value.literal "Email").AgreesOn (some "EMAIL") := by
    intro _
    decide +kernel
  have holds : (Criteria.conditionFor .generic .type (.literal "Email")).holds (fun _ => false)
      (document.tree.element 1) = true := by
    decide +kernel
  have both := holds_type_iff_fits (fun _ => false) .generic rfl asked fresh input
  exact ⟨agrees, holds, ((both.1 tagged).2 agrees).1 holds⟩

/-- Where an empty type is asked for, an input without a type is found and not kept. Where a type
with an accented capital is asked for, an input of just that type is not found, though it would
be kept. -/
theorem exists_type_torn :
    IsJudged "" [] true false ∧ IsJudged "\u00C9" [("type", "\u00C9")] false true := by
  constructor
  · exact ⟨by decide +kernel, rfl⟩
  · exact ⟨by decide +kernel, rfl⟩

end Document

end ElementSearch
