/-
# Two tests of a text

A text that is asked for as it stands is compared by the page, which normalizes the white space
of the element's text; a pattern is compared by the search itself, which collapses the blanks
of the text that it reads. White space is space, tab, carriage return and line feed; the blanks
are more, the no-break space among them, which the page keeps and the search takes for a space.
Where the text has no blanks but white space the two come to the same, and a text and the
pattern for exactly that text are then found in the same elements.
-/

import Mathlib.Data.List.Infix
import ElementSearch.Document
import ElementSearch.Proofs.Regex.Exact
import ElementSearch.Proofs.Text.Squeezed
import ElementSearch.Proofs.XPath.Meaning
import ElementSearch.Query.Compiled
import ElementSearch.Search.Check

namespace ElementSearch

open XPath

/-! ## Blanks and white space -/

namespace XPath

/-- The only blanks of the text are white space. -/
def IsPlainlySpaced (text : String) : Prop :=
  ∀ c ∈ text.toList, Text.isBlank c = true → isSpace c = true

/-- Collapsing a text normalizes its white space exactly if it has no other blanks. -/
theorem collapse_eq_normalizeSpace_iff (text : String) :
    Text.collapse text = normalizeSpace text ↔ IsPlainlySpaced text := by
  constructor
  · intro same c member blank
    by_contra solid
    -- Another blank is kept by the page, but a collapsed text has no blanks other than spaces.
    have kept : [c] <:+: (normalizeSpace text).toList := by
      apply infix_normalizeSpace
      · intro d here
        rw [List.mem_singleton.1 here]
        exact Bool.not_eq_true _ ▸ solid
      · exact (List.singleton_infix_iff c _).2 member
    rw [← same] at kept
    have single := Text.eq_space_of_mem_collapse ((List.singleton_infix_iff c _).1 kept) blank
    exact solid (isSpace_of_eq_space (beq_iff_eq.2 single))
  · intro plain
    rw [← String.toList_inj, Text.toList_collapse, toList_normalizeSpace]
    congr 1
    apply Text.wordsBy_congr
    intro c member
    rw [Bool.eq_iff_iff]
    exact ⟨plain c member, isBlank_of_isSpace⟩

end XPath

/-! ## A text alone -/

namespace XPath

/-- The condition that an element has a text. -/
def hasText (asked : String) : Condition := .equals .text asked

/-- The path to the elements with a text. -/
def textPath (asked : String) : Path := ⟨none, [hasText asked]⟩

variable (labelled : String → Bool) (element : Element) (asked : String)

/-- An element has the text that its own is once the white space is normalized. -/
theorem holds_hasText_iff :
    (hasText asked).holds labelled element = true ↔ normalizeSpace element.text = asked :=
  beq_iff_eq

theorem selects_textPath_iff :
    (textPath asked).selects labelled element = true ↔ normalizeSpace element.text = asked := by
  rw [← holds_hasText_iff labelled]
  exact Bool.eq_iff_iff.1 (Bool.and_true _)

end XPath

namespace Selector

/-- A selector that asks for a text and nothing else. -/
def ofText (value : Value) : Selector := ⟨[("text", value)], by simp⟩

/-- A text is asked for by one query. -/
theorem compile_ofText_literal (kind : ElementKind) (preferCss : Bool) (asked : String) :
    (ofText (.literal asked)).compile kind preferCss =
      .ok ⟨.exact (.xpath (textPath asked).render), none⟩ := by
  cases preferCss with
  | true => rfl
  | false => rfl

/-- A pattern for a text is checked on every element. -/
theorem compile_ofText_pattern (kind : ElementKind) (preferCss : Bool) (pattern : Pattern) :
    (ofText (.pattern pattern)).compile kind preferCss =
      let every : Query := if preferCss then .css "*" else .xpath ".//*"
      .ok ⟨.filtered every every [(.text, pattern)], none⟩ := by
  cases preferCss with
  | true => rfl
  | false => rfl

end Selector

namespace ElementReader

variable {m : Type → Type} [Monad m] [LawfulMonad m] {η : Type} {reader : ElementReader m η}
  {handle : η} {text : String}

theorem fetch_text (read : reader.readText handle = pure text) :
    reader.fetch handle .text = pure (some (Text.collapse text)) := by
  simp only [fetch, read, pure_bind]

theorem meetsPatterns_text (read : reader.readText handle = pure text) (pattern : Pattern) :
    reader.meetsPatterns [(.text, pattern)] handle =
      pure (pattern.matchesIn (Text.collapse text)) := by
  simp only [meetsPatterns, meetsPattern, fetch_text read, pure_bind, Option.any_some]
  cases pattern.matchesIn (Text.collapse text) with
  | true => rfl
  | false => rfl

end ElementReader

/-! ## Where they agree -/

/-- What a search reads as the text of an element is the text with its white space normalized
exactly if that has no other blanks. A text that is asked for as it stands is a query for the
normalized text, and the pattern for exactly that text is checked on what the search reads; so
the two find the same texts exactly where there are no other blanks, or where the text is not
the one in either way. -/
theorem text_tests_agree_iff {m : Type → Type} [Monad m] [LawfulMonad m] {η : Type}
    {reader : ElementReader m η} {handle : η} {element : Element}
    (read : reader.readText handle = pure element.text) (labelled : String → Bool)
    (kind : ElementKind) (preferCss : Bool) :
    reader.fetch handle .text = pure (some (Text.collapse element.text)) ∧
      (Text.collapse element.text = normalizeSpace element.text ↔
        IsPlainlySpaced element.text) ∧
      ∀ (asked : String) (pattern : Pattern), pattern.IsExactly asked →
        (Selector.ofText (.literal asked)).compile kind preferCss =
            .ok ⟨.exact (.xpath (textPath asked).render), none⟩ ∧
          (∃ every : Query, (Selector.ofText (.pattern pattern)).compile kind preferCss =
            .ok ⟨.filtered every every [(.text, pattern)], none⟩) ∧
          ∃ accepted, reader.meetsPatterns [(.text, pattern)] handle = pure accepted ∧
            (accepted = true ↔ Text.collapse element.text = asked) ∧
            ((textPath asked).selects labelled element = true ↔
              normalizeSpace element.text = asked) ∧
            (accepted = (textPath asked).selects labelled element ↔
              IsPlainlySpaced element.text ∨
                Text.collapse element.text ≠ asked ∧ normalizeSpace element.text ≠ asked) := by
  refine ⟨ElementReader.fetch_text read, collapse_eq_normalizeSpace_iff element.text, ?_⟩
  intro asked pattern exactly
  have selected := selects_textPath_iff labelled element asked
  refine ⟨Selector.compile_ofText_literal kind preferCss asked,
    ⟨_, Selector.compile_ofText_pattern kind preferCss pattern⟩, _,
    ElementReader.meetsPatterns_text read pattern,
    Pattern.matchesIn_iff_of_isExactly exactly _, selected, ?_⟩
  rw [Pattern.matchesIn_eq_iff_of_isExactly exactly selected, collapse_eq_normalizeSpace_iff]

/-- A page with one element. -/
def onlyElement (tag : String) (attributes : List (String × String)) (text : String) :
    Document where
  tree := ⟨[⟨0, tag, attributes, text⟩], by simp⟩
  stubs := .empty
  stale := []
  calls := []

/-- A page with one paragraph. -/
def onlyParagraph (text : String) : Document := onlyElement "p" [] text

/-- Of a paragraph with this text, `filtered` says whether the pattern for exactly what is asked for
is found in it, and `selected` whether the query for that selects it. -/
def FindsText (asked text : String) (filtered selected : Bool) : Prop :=
  (∃ pattern : Pattern, pattern.IsExactly asked ∧
    (onlyParagraph text).reader.meetsPatterns [(.text, pattern)] 1 = .ok filtered) ∧
  (textPath asked).selects (fun _ => false) ((onlyParagraph text).tree.element 1) = selected

/-- A text over two lines is read as one line, and found either way. -/
theorem text_tests_agree_iff_lines :
    (onlyParagraph " Go\n  back ").reader.fetch 1 .text = .ok (some "Go back") ∧
      IsPlainlySpaced " Go\n  back " ∧ FindsText "Go back" " Go\n  back " true true := by
  have read : (onlyParagraph " Go\n  back ").reader.readText 1 =
      pure ((onlyParagraph " Go\n  back ").tree.element 1).text := rfl
  obtain ⟨fetched, plain, tests⟩ := text_tests_agree_iff read (fun _ => false) .generic false
  obtain ⟨pattern, exactly⟩ := Pattern.exists_isExactly "Go back"
  obtain ⟨-, -, accepted, checked, matched, selected, -⟩ := tests "Go back" pattern exactly
  have collapsed : Text.collapse " Go\n  back " = "Go back" := by decide +kernel
  have normalized : normalizeSpace " Go\n  back " = "Go back" := by decide +kernel
  rw [matched.2 collapsed] at checked
  exact ⟨rfl, plain.1 (collapsed.trans normalized.symm), ⟨pattern, exactly, checked⟩,
    selected.2 normalized⟩

/-- A no-break space is read as a space, so that the text is found by a pattern that is not its
own and not by the one that is, while the query selects it by its own. -/
theorem exists_text_misread :
    (onlyParagraph "a\u00A0b").reader.fetch 1 .text = .ok (some "a b") ∧
      normalizeSpace "a\u00A0b" = "a\u00A0b" ∧
      FindsText "a b" "a\u00A0b" true false ∧ FindsText "a\u00A0b" "a\u00A0b" false true := by
  have collapsed : Text.collapse "a\u00A0b" = "a b" := by decide +kernel
  have read : (onlyParagraph "a\u00A0b").reader.readText 1 = pure "a\u00A0b" := rfl
  have found (asked : String) :
      ∃ pattern : Pattern, pattern.IsExactly asked ∧
        (onlyParagraph "a\u00A0b").reader.meetsPatterns [(.text, pattern)] 1 =
          .ok (decide ("a b" = asked)) := by
    obtain ⟨pattern, exactly⟩ := Pattern.exists_isExactly asked
    refine ⟨pattern, exactly, ?_⟩
    rw [ElementReader.meetsPatterns_text read, collapsed,
      Bool.eq_iff_iff.2 ((Pattern.matchesIn_iff_of_isExactly exactly _).trans decide_eq_true_iff.symm)]
    rfl
  refine ⟨rfl, by decide +kernel, ⟨found "a b", by decide +kernel⟩,
    ⟨found "a\u00A0b", by decide +kernel⟩⟩

end ElementSearch
