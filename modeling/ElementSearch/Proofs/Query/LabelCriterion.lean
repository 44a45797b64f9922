/-
# Two tests of a label

A label that is asked for as it stands is compared by the page, which normalizes the white space
of its text; for a pattern, the search reads one label after the other and takes off no more than
the blanks at both ends of the text. White space between the words is then left as it is, so that
the two come to the same where no more than single spaces are there.
-/

import Mathlib.Data.List.Find
import ElementSearch.Proofs.Query.TextCriterion
import ElementSearch.Search.Check

namespace ElementSearch

open XPath

/-! ## The first label with a text -/

/-- What a label with this pointer says about its element. -/
def LabelTarget.ofPointer {η : Type} (label : η) : Option String → LabelTarget η
  | some id => if id == "" then .inside label else .identified id
  | none => .inside label

/-- Whether a search takes a label with this text for the one that the pattern asks for. -/
def Pattern.matchesLabel (pattern : Pattern) (text : String) : Bool :=
  pattern.matchesIn (Text.trim text)

namespace ElementReader

variable {m : Type → Type} [Monad m] {η : Type}

/-- What the first label that passes a test says about its element. -/
def targetOfFirst (reader : ElementReader m η) (passes : η → Bool) (labels : List η) :
    m (LabelTarget η) :=
  match labels.find? passes with
  | some label => LabelTarget.ofPointer label <$> reader.readAttribute label "for"
  | none => pure .nowhere

theorem targetOfFirst_cons (reader : ElementReader m η) (passes : η → Bool) (label : η)
    (rest : List η) :
    reader.targetOfFirst passes (label :: rest) =
      if passes label then LabelTarget.ofPointer label <$> reader.readAttribute label "for"
      else reader.targetOfFirst passes rest := by
  rw [targetOfFirst, List.find?_cons]
  cases passes label with
  | true => rfl
  | false => rfl

/-- Tests that agree on the labels let the same one through first. -/
theorem targetOfFirst_congr {reader : ElementReader m η} {first second : η → Bool}
    {labels : List η} (same : ∀ label ∈ labels, first label = second label) :
    reader.targetOfFirst first labels = reader.targetOfFirst second labels := by
  rw [targetOfFirst, targetOfFirst, List.find?_congr same]

variable [LawfulMonad m] {reader : ElementReader m η}

/-- A label is the one that is looked for if the pattern is found in its text, and is passed over
otherwise. -/
theorem labelTarget_cons {label : η} {text : String}
    (read : reader.readText label = pure text) (pattern : Pattern) (rest : List η) :
    reader.labelTarget pattern (label :: rest) =
      if pattern.matchesLabel text
      then LabelTarget.ofPointer label <$> reader.readAttribute label "for"
      else reader.labelTarget pattern rest := by
  rw [labelTarget, read, pure_bind, map_eq_pure_bind]
  congr 1
  congr 1
  funext pointer
  cases pointer with
  | none => rfl
  | some id => rfl

/-- Reading labels one after the other finds the first one with a text for the pattern. -/
theorem labelTarget_eq_targetOfFirst {labels : List η} {textOf : η → String}
    (read : ∀ label ∈ labels, reader.readText label = pure (textOf label)) (pattern : Pattern) :
    reader.labelTarget pattern labels =
      reader.targetOfFirst (fun label => pattern.matchesLabel (textOf label)) labels := by
  induction labels with
  | nil => rfl
  | cons label rest ih =>
      have ⟨here, later⟩ := List.forall_mem_cons.1 read
      rw [labelTarget_cons here, targetOfFirst_cons, ih later]

end ElementReader

/-! ## Where they agree -/

namespace XPath

/-- A label that is no attribute is asked for by this condition on it, whether it points at the
element or contains it. -/
theorem render_condition_label {kind : ElementKind} (foreign : kind.hasNativeLabel = false)
    (asked : String) :
    (Criteria.condition kind .label asked).render =
      "(@id = //label" ++ (hasText asked).renderStep ++ "/@for or parent::label" ++
        (hasText asked).renderStep ++ ")" := by
  have labelled : Criteria.condition kind .label asked = .labelled asked := by
    rw [Criteria.condition, foreign]
    rfl
  rw [labelled, Condition.renderStep, hasText, Condition.render_labelled, Condition.render_equals,
    Reading.render_text, ← String.toList_inj]
  simp only [String.toList_append, List.append_assoc]
  rfl

end XPath

/-- A trimmed label is a normalized one exactly if no more than single spaces are left between its
words, where it has no blanks but white space. -/
theorem trim_eq_normalizeSpace_iff {text : String} (plain : IsPlainlySpaced text) :
    Text.trim text = normalizeSpace text ↔ Text.isSqueezed (Text.trim text).toList = true := by
  rw [← (collapse_eq_normalizeSpace_iff text).2 plain]
  exact Text.trim_eq_collapse_iff text

/-- A label that is asked for as it stands is looked for by its normalized text, and by the pattern
for exactly that by its trimmed text. Of labels without blanks that are no white space, those pass
both tests or neither in which no more than single spaces are left once they are trimmed, and those
that are not the asked one in either way. So where all labels are spaced like that, the pattern
leads to the first label that the query would find. -/
theorem label_tests_agree_iff {m : Type → Type} [Monad m] [LawfulMonad m] {η : Type}
    {reader : ElementReader m η} {labels : List η} {element : η → Element}
    (read : ∀ label ∈ labels, reader.readText label = pure (element label).text)
    (plain : ∀ label ∈ labels, IsPlainlySpaced (element label).text)
    {kind : ElementKind} (foreign : kind.hasNativeLabel = false) {asked : String}
    {pattern : Pattern} (exactly : pattern.IsExactly asked) (labelled : String → Bool) :
    (Criteria.condition kind .label asked).render =
        "(@id = //label" ++ (hasText asked).renderStep ++ "/@for or parent::label" ++
          (hasText asked).renderStep ++ ")" ∧
      reader.labelTarget pattern labels =
        reader.targetOfFirst (fun label => pattern.matchesLabel (element label).text) labels ∧
      (∀ label ∈ labels,
        (pattern.matchesLabel (element label).text = true ↔
          Text.trim (element label).text = asked) ∧
        ((hasText asked).holds labelled (element label) = true ↔
          normalizeSpace (element label).text = asked) ∧
        (pattern.matchesLabel (element label).text =
            (hasText asked).holds labelled (element label) ↔
          Text.isSqueezed (Text.trim (element label).text).toList = true ∨
            Text.trim (element label).text ≠ asked ∧
              normalizeSpace (element label).text ≠ asked)) ∧
      ((∀ label ∈ labels, Text.isSqueezed (Text.trim (element label).text).toList = true) →
        reader.labelTarget pattern labels =
          reader.targetOfFirst
            (fun label => (hasText asked).holds labelled (element label)) labels) := by
  have tests (label : η) (member : label ∈ labels) :
      pattern.matchesLabel (element label).text =
          (hasText asked).holds labelled (element label) ↔
        Text.isSqueezed (Text.trim (element label).text).toList = true ∨
          Text.trim (element label).text ≠ asked ∧
            normalizeSpace (element label).text ≠ asked := by
    rw [Pattern.matchesLabel, Pattern.matchesIn_eq_iff_of_isExactly exactly
      (holds_hasText_iff labelled (element label) asked),
      trim_eq_normalizeSpace_iff (plain label member)]
  have resolved := ElementReader.labelTarget_eq_targetOfFirst read pattern
  refine ⟨render_condition_label foreign asked, resolved, ?_, ?_⟩
  · intro label member
    exact ⟨Pattern.matchesIn_iff_of_isExactly exactly _,
      holds_hasText_iff labelled (element label) asked, tests label member⟩
  · intro squeezed
    rw [resolved]
    apply ElementReader.targetOfFirst_congr
    intro label member
    exact (tests label member).2 (.inl (squeezed label member))

/-- A page with one label, which points at an element. -/
def onlyLabel (text : String) : Document := onlyElement "label" [("for", "f")] text

/-- A label over two lines whose words are a space apart is found by the pattern and by the query. -/
theorem label_tests_agree_iff_lines :
    IsPlainlySpaced "\n  First name\n" ∧ ElementKind.generic.hasNativeLabel = false ∧
      (hasText "First name").holds (fun _ => false)
        ((onlyLabel "\n  First name\n").tree.element 1) = true ∧
      ∃ pattern : Pattern, pattern.IsExactly "First name" ∧
        (onlyLabel "\n  First name\n").reader.labelTarget pattern [1] =
          .ok (.identified "f") := by
  have normalized : normalizeSpace "\n  First name\n" = "First name" := by decide +kernel
  have plain : IsPlainlySpaced "\n  First name\n" := by
    rw [← collapse_eq_normalizeSpace_iff, normalized]
    decide +kernel
  have found : (hasText "First name").holds (fun _ => false)
      ((onlyLabel "\n  First name\n").tree.element 1) = true :=
    (holds_hasText_iff _ _ _).2 normalized
  obtain ⟨pattern, exactly⟩ := Pattern.exists_isExactly "First name"
  have read : ∀ label ∈ [1], (onlyLabel "\n  First name\n").reader.readText label =
      pure ((onlyLabel "\n  First name\n").tree.element label).text := by
    intro label member
    rw [List.mem_singleton.1 member]
    rfl
  have spaced : ∀ label ∈ [1],
      IsPlainlySpaced ((onlyLabel "\n  First name\n").tree.element label).text := by
    intro label member
    rw [List.mem_singleton.1 member]
    exact plain
  have foreign : ElementKind.generic.hasNativeLabel = false := rfl
  obtain ⟨-, -, -, leads⟩ := label_tests_agree_iff read spaced foreign exactly (fun _ => false)
  refine ⟨plain, foreign, found, pattern, exactly, ?_⟩
  rw [leads fun label member => by rw [List.mem_singleton.1 member]; decide +kernel,
    ElementReader.targetOfFirst, List.find?_cons, found]
  rfl

/-- A label with two spaces between its words is found by the query for one space, and the pattern
for that leads nowhere; the pattern for two leads to what it points at, and no query finds it. -/
theorem exists_label_torn :
    IsPlainlySpaced "First  name" ∧ ElementKind.generic.hasNativeLabel = false ∧
      (∃ pattern : Pattern, pattern.IsExactly "First name" ∧
        (onlyLabel "First  name").reader.labelTarget pattern [1] = .ok .nowhere ∧
        (hasText "First name").holds (fun _ => false)
          ((onlyLabel "First  name").tree.element 1) = true) ∧
      ∃ pattern : Pattern, pattern.IsExactly "First  name" ∧
        (onlyLabel "First  name").reader.labelTarget pattern [1] = .ok (.identified "f") ∧
        (hasText "First  name").holds (fun _ => false)
          ((onlyLabel "First  name").tree.element 1) = false := by
  have normalized : normalizeSpace "First  name" = "First name" := by decide +kernel
  have trimmed : Text.trim "First  name" = "First  name" := by decide +kernel
  have plain : IsPlainlySpaced "First  name" := by
    rw [← collapse_eq_normalizeSpace_iff, normalized]
    decide +kernel
  have read : (onlyLabel "First  name").reader.readText 1 = pure "First  name" := rfl
  have matched {asked : String} {pattern : Pattern} (exactly : pattern.IsExactly asked) :
      pattern.matchesLabel "First  name" = true ↔ "First  name" = asked := by
    rw [Pattern.matchesLabel, Pattern.matchesIn_iff_of_isExactly exactly, trimmed]
  obtain ⟨one, exactlyOne⟩ := Pattern.exists_isExactly "First name"
  obtain ⟨two, exactlyTwo⟩ := Pattern.exists_isExactly "First  name"
  refine ⟨plain, rfl, ⟨one, exactlyOne, ?_, by decide +kernel⟩, two, exactlyTwo, ?_,
    by decide +kernel⟩
  · rw [ElementReader.labelTarget_cons read, if_neg (mt (matched exactlyOne).1 (by decide))]
    rfl
  · rw [ElementReader.labelTarget_cons read, if_pos ((matched exactlyTwo).2 rfl)]
    rfl

end ElementSearch
