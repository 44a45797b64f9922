/-
# Words of a text

The words of a text before a separator and those behind it are the words of the whole, and
a text without separators is one word. So the words are the runs of other characters that
stand between separators or the ends of the text.
-/

import ElementSearch.Text.Basic

namespace ElementSearch.Text

variable {separator : Char → Bool}

@[simp] theorem wordsBy_nil : wordsBy separator [] = [] := rfl

theorem wordsBy_cons_separator {c : Char} (separates : separator c = true) (text : List Char) :
    wordsBy separator (c :: text) = wordsBy separator text := by
  cases text with
  | nil => exact if_pos separates
  | cons d rest => exact if_pos separates

theorem wordsBy_singleton {c : Char} (solid : separator c = false) :
    wordsBy separator [c] = [[c]] := by
  rw [wordsBy, solid]
  rfl

/-- A word ends where a separator follows. -/
theorem wordsBy_cons_cons_separator {c d : Char} (solid : separator c = false)
    (separates : separator d = true) (text : List Char) :
    wordsBy separator (c :: d :: text) = [c] :: wordsBy separator text := by
  rw [wordsBy, solid, if_neg Bool.false_ne_true, if_pos separates,
    wordsBy_cons_separator separates]

/-- A word goes on where no separator follows. -/
theorem wordsBy_cons_cons_solid {c d : Char} (solid : separator c = false)
    (next : separator d = false) (text : List Char) :
    wordsBy separator (c :: d :: text) = consWord c (wordsBy separator (d :: text)) := by
  rw [wordsBy, solid, next, if_neg Bool.false_ne_true, if_neg Bool.false_ne_true]

theorem wordsBy_ne_nil {c : Char} (solid : separator c = false) (text : List Char) :
    wordsBy separator (c :: text) ≠ [] := by
  cases text with
  | nil =>
      rw [wordsBy_singleton solid]
      exact List.cons_ne_nil _ _
  | cons d rest =>
      cases next : separator d with
      | true =>
          rw [wordsBy_cons_cons_separator solid next]
          exact List.cons_ne_nil _ _
      | false =>
          rw [wordsBy_cons_cons_solid solid next]
          cases wordsBy separator (d :: rest) <;> exact List.cons_ne_nil _ _

theorem consWord_append {c : Char} {words : List (List Char)} (nonempty : words ≠ [])
    (others : List (List Char)) : consWord c (words ++ others) = consWord c words ++ others := by
  cases words with
  | nil => exact absurd rfl nonempty
  | cons word words => rfl

/-- The words of a text end at a separator. -/
theorem wordsBy_append_separator {c : Char} (separates : separator c = true)
    (before after : List Char) :
    wordsBy separator (before ++ c :: after) =
      wordsBy separator before ++ wordsBy separator after := by
  induction before with
  | nil => exact wordsBy_cons_separator separates after
  | cons first rest ih =>
      cases blank : separator first with
      | true =>
          rw [List.cons_append, wordsBy_cons_separator blank, wordsBy_cons_separator blank]
          exact ih
      | false =>
          cases rest with
          | nil =>
              rw [List.singleton_append, wordsBy_cons_cons_separator blank separates,
                wordsBy_singleton blank]
              rfl
          | cons second rest =>
              rw [List.cons_append] at ih
              rw [List.cons_append, List.cons_append]
              cases next : separator second with
              | true =>
                  rw [wordsBy_cons_separator next, wordsBy_cons_separator next] at ih
                  rw [wordsBy_cons_cons_separator blank next,
                    wordsBy_cons_cons_separator blank next, ih]
                  rfl
              | false =>
                  rw [wordsBy_cons_cons_solid blank next, wordsBy_cons_cons_solid blank next, ih,
                    consWord_append (wordsBy_ne_nil next rest)]

/-- A text without separators is one word. -/
theorem wordsBy_of_solid {text : List Char} (nonempty : text ≠ [])
    (solid : ∀ c ∈ text, separator c = false) : wordsBy separator text = [text] := by
  induction text with
  | nil => exact absurd rfl nonempty
  | cons c rest ih =>
      rw [List.forall_mem_cons] at solid
      cases rest with
      | nil => exact wordsBy_singleton solid.1
      | cons d rest =>
          rw [wordsBy_cons_cons_solid solid.1 (solid.2 d (List.mem_cons_self ..)),
            ih (List.cons_ne_nil _ _) solid.2]
          rfl

theorem eq_of_mem_wordsBy {text word : List Char} (solid : ∀ c ∈ text, separator c = false)
    (member : word ∈ wordsBy separator text) : word = text := by
  cases text with
  | nil => exact absurd member List.not_mem_nil
  | cons first others =>
      rw [wordsBy_of_solid (List.cons_ne_nil _ _) solid] at member
      exact List.mem_singleton.1 member

/-- Only what separates in the text matters. -/
theorem wordsBy_congr {other : Char → Bool} {text : List Char}
    (same : ∀ c ∈ text, separator c = other c) : wordsBy separator text = wordsBy other text := by
  induction text with
  | nil => rfl
  | cons c rest ih =>
      rw [List.forall_mem_cons] at same
      cases rest with
      | nil => rw [wordsBy, wordsBy, same.1]
      | cons d rest =>
          rw [wordsBy, wordsBy, same.1, same.2 d (List.mem_cons_self ..), ih same.2]

/-- A text is a run without separators, or such a run, a separator and another text. -/
theorem runs_induction (separator : Char → Bool) {holds : List Char → Prop}
    (last : ∀ run, (∀ c ∈ run, separator c = false) → holds run)
    (step : ∀ run c rest, (∀ c ∈ run, separator c = false) → separator c = true → holds rest →
      holds (run ++ c :: rest)) (text : List Char) : holds text := by
  suffices later : ∀ run, (∀ c ∈ run, separator c = false) → holds (run ++ text) from
    later [] fun c member => absurd member List.not_mem_nil
  induction text with
  | nil =>
      intro run solid
      rw [List.append_nil]
      exact last run solid
  | cons first others ih =>
      intro run solid
      cases blank : separator first with
      | true =>
          have rest := ih [] fun c member => absurd member List.not_mem_nil
          exact step run first others solid blank rest
      | false =>
          rw [List.append_cons]
          apply ih
          intro c member
          obtain before | here := List.mem_append.1 member
          · exact solid c before
          · rw [List.mem_singleton.1 here]
            exact blank

/-- The separators of a text stand in none of its words. -/
theorem solid_of_mem_wordsBy {text word : List Char} (member : word ∈ wordsBy separator text) :
    ∀ c ∈ word, separator c = false := by
  induction text using runs_induction separator with
  | last run solid =>
      rw [eq_of_mem_wordsBy solid member]
      exact solid
  | step run c rest solid separates ih =>
      rw [wordsBy_append_separator separates, List.mem_append] at member
      obtain here | later := member
      · rw [eq_of_mem_wordsBy solid here]
        exact solid
      · exact ih later

/-- A word stays one where more characters separate, if it has none of them. -/
theorem mem_wordsBy_of_imp {other : Char → Bool} {text word : List Char}
    (finer : ∀ c, separator c = true → other c = true) (solid : ∀ c ∈ word, other c = false)
    (member : word ∈ wordsBy separator text) : word ∈ wordsBy other text := by
  induction text using runs_induction separator with
  | last run whole =>
      obtain rfl := eq_of_mem_wordsBy whole member
      rw [wordsBy_of_solid (ne_nil_of_mem_wordsBy member) solid]
      exact List.mem_singleton_self _
  | step run c rest whole separates ih =>
      rw [wordsBy_append_separator separates, List.mem_append] at member
      rw [wordsBy_append_separator (finer c separates), List.mem_append]
      obtain here | later := member
      · obtain rfl := eq_of_mem_wordsBy whole here
        rw [wordsBy_of_solid (ne_nil_of_mem_wordsBy here) solid]
        exact .inl (List.mem_singleton_self _)
      · exact .inr (ih later)

/-- What stands in a text and has no separators stands in one of its words. -/
theorem exists_word_of_infix {part text : List Char} (nonempty : part ≠ [])
    (solid : ∀ c ∈ part, separator c = false) (inside : part <:+: text) :
    ∃ word ∈ wordsBy separator text, part <:+: word := by
  induction text using runs_induction separator with
  | last run whole =>
      have some : run ≠ [] := by
        rintro rfl
        exact nonempty (List.infix_nil.1 inside)
      rw [wordsBy_of_solid some whole]
      exact ⟨run, List.mem_singleton_self run, inside⟩
  | step run c rest whole separates ih =>
      have words : wordsBy separator (run ++ c :: rest) =
          wordsBy separator run ++ wordsBy separator rest :=
        wordsBy_append_separator separates run rest
      -- The part cannot reach across the separator.
      have outside : c ∉ part := by
        intro member
        rw [solid c member] at separates
        cases separates
      have apart : part <:+: run ∨ part <:+: rest := by
        obtain before | after | ⟨first, second, rfl, ends, begins⟩ := List.infix_append_iff.1 inside
        · exact .inl before
        · obtain begins | later := List.infix_cons_iff.1 after
          · obtain empty | ⟨others, rfl, _⟩ := List.prefix_cons_iff.1 begins
            · exact absurd empty nonempty
            · exact absurd (List.mem_cons_self ..) outside
          · exact .inr later
        · obtain rfl | ⟨others, rfl, _⟩ := List.prefix_cons_iff.1 begins
          · rw [List.append_nil]
            exact .inl ends.isInfix
          · exact absurd (List.mem_append_right first (List.mem_cons_self ..)) outside
      obtain before | after := apart
      · have some : run ≠ [] := by
          rintro rfl
          exact nonempty (List.infix_nil.1 before)
        rw [words, wordsBy_of_solid some whole]
        exact ⟨run, List.mem_append_left _ (List.mem_singleton_self run), before⟩
      · obtain ⟨word, member, within⟩ := ih after
        rw [words]
        exact ⟨word, List.mem_append_right _ member, within⟩

/-! ## Words that are joined -/

section Joined

variable {c : Char} {words : List (List Char)}

theorem infix_intercalate {word : List Char} (member : word ∈ words) :
    word <:+: [c].intercalate words := by
  induction words with
  | nil => exact absurd member List.not_mem_nil
  | cons first rest ih =>
      cases rest with
      | nil =>
          refine ⟨[], [], ?_⟩
          rw [List.mem_singleton.1 member, List.intercalate_singleton, List.nil_append,
            List.append_nil]
      | cons second rest =>
          rw [List.intercalate_cons_cons]
          obtain rfl | later := List.mem_cons.1 member
          · rw [List.append_assoc]
            exact (List.prefix_append word _).isInfix
          · exact (ih later).trans (List.suffix_append _ _).isInfix

/-- Words that are joined by a separator are the words of the whole. -/
theorem wordsBy_intercalate (separates : separator c = true)
    (each : ∀ word ∈ words, word ≠ [] ∧ ∀ c ∈ word, separator c = false) :
    wordsBy separator ([c].intercalate words) = words := by
  induction words with
  | nil => rfl
  | cons first rest ih =>
      obtain ⟨⟨nonempty, solid⟩, each⟩ := List.forall_mem_cons.1 each
      have single := wordsBy_of_solid nonempty solid
      cases rest with
      | nil =>
          rw [List.intercalate_singleton]
          exact single
      | cons second rest =>
          rw [List.intercalate_cons_cons, List.append_assoc, List.singleton_append,
            wordsBy_append_separator separates, single, ih each]
          rfl

end Joined

/-! ## Words between spaces -/

/-- A text with a space on both sides. -/
def pad (text : List Char) : List Char := ' ' :: (text ++ [' '])

/-- Between spaces, a text stands in another if it is one of the words between spaces. -/
theorem pad_infix_pad_iff {word text : List Char} (nonempty : word ≠ [])
    (solid : ∀ c ∈ word, (c == ' ') = false) :
    pad word <:+: pad text ↔ word ∈ wordsBy (· == ' ') text := by
  constructor
  · rintro ⟨before, after, whole⟩
    -- The words of the padded text are counted in two ways.
    have padded : wordsBy (· == ' ') (pad text) = wordsBy (· == ' ') text := by
      rw [pad, wordsBy_cons_separator rfl, wordsBy_append_separator rfl, wordsBy_nil,
        List.append_nil]
    have split : before ++ pad word ++ after = before ++ ' ' :: (word ++ ' ' :: after) := by
      simp [pad]
    rw [← padded, ← whole, split, wordsBy_append_separator rfl, wordsBy_append_separator rfl,
      wordsBy_of_solid nonempty solid]
    exact List.mem_append_right _ (List.mem_append_left _ (List.mem_singleton_self word))
  · intro member
    induction text using runs_induction (· == ' ') with
    | last run whole =>
        obtain rfl := eq_of_mem_wordsBy whole member
        exact List.infix_rfl
    | step run c rest whole separates ih =>
        obtain rfl := beq_iff_eq.1 separates
        have parts : wordsBy (· == ' ') (run ++ ' ' :: rest) =
            wordsBy (· == ' ') run ++ wordsBy (· == ' ') rest := wordsBy_append_separator rfl run rest
        rw [parts, List.mem_append] at member
        have split : pad (run ++ ' ' :: rest) = ' ' :: (run ++ pad rest) := by
          rw [pad, List.append_assoc]
          rfl
        rw [split]
        obtain here | later := member
        · rw [eq_of_mem_wordsBy whole here]
          exact ⟨[], rest ++ [' '], by simp [pad]⟩
        · exact (ih later).trans ((List.suffix_append run _).trans (List.suffix_cons ' ' _)).isInfix

/-! ## Words as strings -/

theorem mem_map_ofList_iff {words : List (List Char)} {text : String} :
    text ∈ words.map String.ofList ↔ text.toList ∈ words := by
  rw [List.mem_map]
  constructor
  · rintro ⟨chars, member, rfl⟩
    rw [String.toList_ofList]
    exact member
  · intro member
    exact ⟨text.toList, member, String.ofList_toList⟩

end ElementSearch.Text
