/-
# Single spaces between words

Trimming a text takes the blanks at its ends and leaves those between its words; collapsing
it makes one space of these too. So the two give the same exactly where no more than single
spaces stand between the words. The only blanks of a collapsed text are its spaces.
-/

import ElementSearch.Proofs.Text.Words

namespace ElementSearch.Text

/-! ## Trimmed texts -/

/-- No blank stands at either end. -/
structure IsTrimmed (text : List Char) : Prop where
  first : ∀ c ∈ text.head?, isBlank c = false
  last : ∀ c ∈ text.getLast?, isBlank c = false

theorem not_isBlank_of_mem_head?_dropWhile (text : List Char) :
    ∀ c ∈ (text.dropWhile isBlank).head?, isBlank c = false := by
  intro c first
  have solid := List.head?_dropWhile_not isBlank text
  rw [Option.mem_def.1 first] at solid
  exact solid

theorem isTrimmed_trim (text : String) : IsTrimmed (trim text).toList := by
  rw [trim, String.toList_ofList]
  constructor
  · intro c first
    -- What is kept at the front is the front of what was kept before the end was trimmed.
    have kept : ((text.toList.dropWhile isBlank).reverse.dropWhile isBlank).reverse <+:
        text.toList.dropWhile isBlank := by
      have suffix := List.dropWhile_suffix isBlank (l := (text.toList.dropWhile isBlank).reverse)
      rw [← List.reverse_prefix, List.reverse_reverse] at suffix
      exact suffix
    obtain ⟨rest, whole⟩ := kept
    apply not_isBlank_of_mem_head?_dropWhile text.toList
    rw [Option.mem_def] at first ⊢
    rw [← whole, List.head?_append, first, Option.some_or]
  · intro c last
    rw [List.getLast?_reverse] at last
    exact not_isBlank_of_mem_head?_dropWhile _ c last

/-- A text is its trimmed text with blanks on both sides. -/
theorem exists_eq_append_trim (text : String) : ∃ before after,
    text.toList = before ++ ((trim text).toList ++ after) ∧
      (∀ c ∈ before, isBlank c = true) ∧ ∀ c ∈ after, isBlank c = true := by
  let middle := text.toList.dropWhile isBlank
  refine ⟨text.toList.takeWhile isBlank, (middle.reverse.takeWhile isBlank).reverse, ?_, ?_, ?_⟩
  · have tail : (middle.reverse.dropWhile isBlank).reverse ++
        (middle.reverse.takeWhile isBlank).reverse = middle := by
      rw [← List.reverse_append, List.takeWhile_append_dropWhile, List.reverse_reverse]
    rw [trim, String.toList_ofList, tail, List.takeWhile_append_dropWhile]
  · exact List.all_eq_true.1 List.all_takeWhile
  · intro c member
    exact List.all_eq_true.1 List.all_takeWhile c (List.mem_reverse.1 member)

section Separators

variable {separator : Char → Bool} {blanks : List Char}

theorem wordsBy_of_separators (separate : ∀ c ∈ blanks, separator c = true) :
    wordsBy separator blanks = [] := by
  induction blanks with
  | nil => rfl
  | cons c blanks ih =>
      have ⟨here, later⟩ := List.forall_mem_cons.1 separate
      rw [wordsBy_cons_separator here, ih later]

/-- Separators at the front of a text leave its words. -/
theorem wordsBy_separators_append (separate : ∀ c ∈ blanks, separator c = true)
    (text : List Char) : wordsBy separator (blanks ++ text) = wordsBy separator text := by
  induction blanks with
  | nil => rfl
  | cons c blanks ih =>
      have ⟨here, later⟩ := List.forall_mem_cons.1 separate
      rw [List.cons_append, wordsBy_cons_separator here, ih later]

/-- Separators at the end of a text leave its words. -/
theorem wordsBy_append_separators (separate : ∀ c ∈ blanks, separator c = true)
    (text : List Char) : wordsBy separator (text ++ blanks) = wordsBy separator text := by
  cases blanks with
  | nil => rw [List.append_nil]
  | cons c blanks =>
      have ⟨here, later⟩ := List.forall_mem_cons.1 separate
      rw [wordsBy_append_separator here, wordsBy_of_separators later, List.append_nil]

end Separators

theorem wordsBy_trim (text : String) :
    wordsBy isBlank (trim text).toList = wordsBy isBlank text.toList := by
  obtain ⟨before, after, whole, front, back⟩ := exists_eq_append_trim text
  rw [whole, wordsBy_separators_append front, wordsBy_append_separators back]

/-! ## Squeezed texts -/

/-- Whether every blank is a space with no blank behind it. -/
def isSqueezed : List Char → Bool
  | [] => true
  | [c] => !isBlank c || c == ' '
  | c :: d :: rest => (!isBlank c || c == ' ' && !isBlank d) && isSqueezed (d :: rest)

theorem isSqueezed_append {run : List Char} (solid : ∀ c ∈ run, isBlank c = false)
    (rest : List Char) : isSqueezed (run ++ rest) = isSqueezed rest := by
  induction run with
  | nil => rfl
  | cons c run ih =>
      have ⟨here, later⟩ := List.forall_mem_cons.1 solid
      have single : isSqueezed (c :: (run ++ rest)) = isSqueezed (run ++ rest) := by
        cases run ++ rest with
        | nil => rw [isSqueezed, isSqueezed, here]; rfl
        | cons d others => rw [isSqueezed, here]; rfl
      rw [List.cons_append, single, ih later]

theorem isSqueezed_space_cons {d : Char} (solid : isBlank d = false) (rest : List Char) :
    isSqueezed (' ' :: d :: rest) = isSqueezed (d :: rest) := by
  rw [isSqueezed, solid]
  rfl

/-- A blank at the front of a squeezed text is a space, and no blank follows it. -/
theorem eq_space_of_isSqueezed {c : Char} {rest : List Char} (blank : isBlank c = true)
    (squeezed : isSqueezed (c :: rest) = true) :
    c = ' ' ∧ (∀ d ∈ rest.head?, isBlank d = false) ∧ isSqueezed rest = true := by
  cases rest with
  | nil =>
      rw [isSqueezed, blank] at squeezed
      exact ⟨beq_iff_eq.1 squeezed, (fun d member => nomatch member), rfl⟩
  | cons d rest =>
      rw [isSqueezed, blank] at squeezed
      simp only [Bool.not_true, Bool.false_or, Bool.and_eq_true, beq_iff_eq,
        Bool.not_eq_true'] at squeezed
      obtain ⟨⟨space, solid⟩, later⟩ := squeezed
      refine ⟨space, fun e first => ?_, later⟩
      rw [List.head?_cons, Option.mem_some] at first
      exact first ▸ solid

/-- Words that are joined by spaces are a squeezed text. -/
theorem isSqueezed_intercalate {words : List (List Char)}
    (each : ∀ word ∈ words, word ≠ [] ∧ ∀ c ∈ word, isBlank c = false) :
    isSqueezed ([' '].intercalate words) = true := by
  induction words with
  | nil => rfl
  | cons first rest ih =>
      obtain ⟨⟨-, solid⟩, later⟩ := List.forall_mem_cons.1 each
      have joined := ih later
      cases rest with
      | nil =>
          rw [List.intercalate_singleton, ← List.append_nil first, isSqueezed_append solid]
          rfl
      | cons second rest =>
          obtain ⟨⟨nonempty, solid'⟩, -⟩ := List.forall_mem_cons.1 later
          obtain ⟨d, others, rfl⟩ := List.exists_cons_of_ne_nil nonempty
          obtain ⟨more, begins⟩ : ∃ more, [' '].intercalate ((d :: others) :: rest) = d :: more := by
            cases rest with
            | nil => exact ⟨others, List.intercalate_singleton⟩
            | cons third rest => exact ⟨_, List.intercalate_cons_cons⟩
          rw [begins] at joined
          rw [List.intercalate_cons_cons, List.append_assoc, List.singleton_append,
            isSqueezed_append solid, begins,
            isSqueezed_space_cons (solid' d (List.mem_cons_self ..))]
          exact joined

/-- A squeezed text without blanks at its ends is its words with spaces between them. -/
theorem intercalate_wordsBy {text : List Char} (trimmed : IsTrimmed text)
    (squeezed : isSqueezed text = true) : [' '].intercalate (wordsBy isBlank text) = text := by
  induction text using runs_induction isBlank with
  | last run solid =>
      by_cases empty : run = []
      · rw [empty]
        rfl
      · rw [wordsBy_of_solid empty solid, List.intercalate_singleton]
  | step run c rest solid blank ih =>
      rw [isSqueezed_append solid] at squeezed
      obtain ⟨rfl, first, later⟩ := eq_space_of_isSqueezed blank squeezed
      -- The space is not at an end, so words stand on both sides of it.
      have before : run ≠ [] := by
        rintro rfl
        cases trimmed.first ' ' rfl
      obtain ⟨d, others, rfl⟩ : ∃ d others, rest = d :: others := by
        apply List.exists_cons_of_ne_nil
        rintro rfl
        cases trimmed.last ' ' (by simp)
      have last : ∀ e ∈ (d :: others).getLast?, isBlank e = false := by
        intro e member
        apply trimmed.last e
        rw [List.getLast?_append, List.getLast?_cons_cons, Option.mem_def.1 member]
        rfl
      have joined := ih ⟨first, last⟩ later
      obtain ⟨word, words, split⟩ := List.exists_cons_of_ne_nil
        (wordsBy_ne_nil (first d rfl) others)
      rw [split] at joined
      rw [wordsBy_append_separator blank, wordsBy_of_solid before solid, split,
        List.singleton_append, List.intercalate_cons_cons, joined, List.append_assoc]
      rfl

/-! ## Collapsed texts -/

theorem toList_collapse (text : String) :
    (collapse text).toList = [' '].intercalate (wordsBy isBlank text.toList) := by
  have same : String.toList ∘ String.ofList = id := funext fun _ => String.toList_ofList
  rw [collapse, words, String.toList_intercalate, List.map_map, same, List.map_id]
  rfl

theorem solid_words (text : List Char) :
    ∀ word ∈ wordsBy isBlank text, word ≠ [] ∧ ∀ c ∈ word, isBlank c = false :=
  fun _ member => ⟨ne_nil_of_mem_wordsBy member, solid_of_mem_wordsBy member⟩

/-- The only blanks of words that are joined by spaces are the spaces. -/
theorem eq_space_of_mem_intercalate {words : List (List Char)} {c : Char}
    (each : ∀ word ∈ words, word ≠ [] ∧ ∀ c ∈ word, isBlank c = false)
    (member : c ∈ [' '].intercalate words) (blank : isBlank c = true) : c = ' ' := by
  induction words with
  | nil => cases member
  | cons first rest ih =>
      obtain ⟨⟨-, solid⟩, later⟩ := List.forall_mem_cons.1 each
      have outside : c ∉ first := by
        intro inside
        rw [solid c inside] at blank
        cases blank
      cases rest with
      | nil =>
          rw [List.intercalate_singleton] at member
          exact absurd member outside
      | cons second rest =>
          rw [List.intercalate_cons_cons, List.mem_append, List.mem_append] at member
          obtain (inside | space) | behind := member
          · exact absurd inside outside
          · exact List.mem_singleton.1 space
          · exact ih later behind

theorem eq_space_of_mem_collapse {text : String} {c : Char} (member : c ∈ (collapse text).toList)
    (blank : isBlank c = true) : c = ' ' := by
  rw [toList_collapse] at member
  exact eq_space_of_mem_intercalate (solid_words text.toList) member blank

/-- Trimming a text collapses it exactly if no more than single spaces are left between its
words. -/
theorem trim_eq_collapse_iff (text : String) :
    trim text = collapse text ↔ isSqueezed (trim text).toList = true := by
  rw [← String.toList_inj, toList_collapse]
  constructor
  · intro same
    rw [same]
    exact isSqueezed_intercalate (solid_words text.toList)
  · intro squeezed
    rw [← wordsBy_trim]
    exact (intercalate_wordsBy (isTrimmed_trim text) squeezed).symm

end ElementSearch.Text
