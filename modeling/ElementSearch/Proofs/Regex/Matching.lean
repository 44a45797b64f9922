/-
# What matches

A match lies inside the text and never ends before it starts. A repetition is a number of runs
in a row; as runs that stay where they are can be left out, no more of them are needed than
there are characters. A row of expressions matches where its parts match one after the other,
and a row of given characters where these stand, so that what a row holds as given characters
stands in every text that the row accepts.
-/

import ElementSearch.Regex.Basic

namespace ElementSearch.Regex

variable {text : List Char}

/-! ## Where matches lie -/

theorem Matches.bounds {regex : Regex} {start stop : Nat} (found : Matches text regex start stop) :
    start ≤ stop ∧ stop ≤ text.length := by
  induction found with
  | empty inside => exact ⟨Nat.le_refl _, inside⟩
  | one here => exact ⟨Nat.le_succ _, (List.getElem?_eq_some_iff.1 here).1⟩
  | look inside => exact ⟨Nat.le_refl _, inside⟩
  | seq _ _ headIh tailIh => exact ⟨Nat.le_trans headIh.1 tailIh.1, tailIh.2⟩
  | altLeft _ ih => exact ih
  | altRight _ ih => exact ih
  | iterateStop inside => exact ⟨Nat.le_refl _, inside⟩
  | iterateLeast _ _ headIh tailIh => exact ⟨Nat.le_trans headIh.1 tailIh.1, tailIh.2⟩
  | iterateExtra _ _ _ headIh tailIh => exact ⟨Nat.le_trans headIh.1 tailIh.1, tailIh.2⟩

theorem matches_empty_iff {start stop : Nat} :
    Matches text .empty start stop ↔ start = stop ∧ stop ≤ text.length := by
  constructor
  · intro found
    cases found with
    | empty inside => exact ⟨rfl, inside⟩
  · rintro ⟨rfl, inside⟩
    exact .empty inside

theorem matches_one_iff {set : CharSet} {start stop : Nat} :
    Matches text (.one set) start stop ↔
      stop = start + 1 ∧ ∃ c, text[start]? = some c ∧ set.has c = true := by
  constructor
  · intro found
    cases found with
    | one here member => exact ⟨rfl, _, here, member⟩
  · rintro ⟨rfl, c, here, member⟩
    exact .one here member

theorem matches_look_iff {assertion : Look} {start stop : Nat} :
    Matches text (.look assertion) start stop ↔
      start = stop ∧ stop ≤ text.length ∧
        assertion.holds (before? text stop) text[stop]? = true := by
  constructor
  · intro found
    cases found with
    | look inside holds => exact ⟨rfl, inside, holds⟩
  · rintro ⟨rfl, inside, holds⟩
    exact .look inside holds

theorem matches_seq_iff {first second : Regex} {start stop : Nat} :
    Matches text (.seq first second) start stop ↔
      ∃ middle, Matches text first start middle ∧ Matches text second middle stop := by
  constructor
  · intro found
    cases found with
    | seq head tail => exact ⟨_, head, tail⟩
  · rintro ⟨middle, head, tail⟩
    exact .seq head tail

theorem matches_alt_iff {first second : Regex} {start stop : Nat} :
    Matches text (.alt first second) start stop ↔
      Matches text first start stop ∨ Matches text second start stop := by
  constructor
  · intro found
    cases found with
    | altLeft chosen => exact .inl chosen
    | altRight chosen => exact .inr chosen
  · intro found
    cases found with
    | inl chosen => exact .altLeft chosen
    | inr chosen => exact .altRight chosen

/-! ## Runs in a row -/

/-- So many steps of a relation lead from one position to another. -/
def Runs (step : Nat → Nat → Prop) : Nat → Nat → Nat → Prop
  | 0, start, stop => start = stop
  | count + 1, start, stop => ∃ middle, step start middle ∧ Runs step count middle stop

theorem runs_add {step : Nat → Nat → Prop} {first second start stop : Nat} :
    Runs step (first + second) start stop ↔
      ∃ middle, Runs step first start middle ∧ Runs step second middle stop := by
  induction first generalizing start with
  | zero => simp [Runs]
  | succ first ih =>
      rw [Nat.succ_add, Runs]
      constructor
      · rintro ⟨next, here, later⟩
        obtain ⟨middle, before, after⟩ := ih.1 later
        exact ⟨middle, ⟨next, here, before⟩, after⟩
      · rintro ⟨middle, ⟨next, here, before⟩, after⟩
        exact ⟨next, here, ih.2 ⟨middle, before, after⟩⟩

/-- Steps that may also stay where they are lead where fewer steps do. -/
theorem runs_or_iff {step : Nat → Nat → Prop} {rounds start stop : Nat} :
    Runs (fun start stop => start = stop ∨ step start stop) rounds start stop ↔
      ∃ count ≤ rounds, Runs step count start stop := by
  induction rounds generalizing start with
  | zero =>
      constructor
      · exact fun same => ⟨0, Nat.le_refl 0, same⟩
      · rintro ⟨count, none, runs⟩
        obtain rfl := Nat.le_zero.1 none
        exact runs
  | succ rounds ih =>
      constructor
      · rintro ⟨middle, rfl | here, later⟩
        · obtain ⟨count, few, runs⟩ := ih.1 later
          exact ⟨count, Nat.le_succ_of_le few, runs⟩
        · obtain ⟨count, few, runs⟩ := ih.1 later
          exact ⟨count + 1, Nat.succ_le_succ few, middle, here, runs⟩
      · rintro ⟨count, few, runs⟩
        cases count with
        | zero => exact ⟨start, .inl rfl, ih.2 ⟨0, Nat.zero_le rounds, runs⟩⟩
        | succ count =>
            obtain ⟨middle, here, later⟩ := runs
            exact ⟨middle, .inr here, ih.2 ⟨count, Nat.le_of_succ_le_succ few, later⟩⟩

/-- Steps that go nowhere can be left out. -/
theorem Runs.exists_le {step : Nat → Nat → Prop}
    (forward : ∀ {start stop}, step start stop → start ≤ stop) {count start stop : Nat}
    (runs : Runs step count start stop) :
    start ≤ stop ∧ ∃ fewer ≤ stop - start, Runs step fewer start stop := by
  induction count generalizing start with
  | zero => exact ⟨Nat.le_of_eq runs, 0, Nat.zero_le _, runs⟩
  | succ count ih =>
      obtain ⟨middle, here, later⟩ := runs
      have ahead := forward here
      obtain ⟨further, fewer, few, later⟩ := ih later
      refine ⟨Nat.le_trans ahead further, ?_⟩
      obtain rfl | moved := Nat.eq_or_lt_of_le ahead
      · exact ⟨fewer, few, later⟩
      · exact ⟨fewer + 1, by omega, middle, here, later⟩

section Iterate

variable {body : Regex} {start stop : Nat}

/-- The runs that a match of a repetition is made of. -/
theorem Matches.runs_of_iterate {regex : Regex} (found : Matches text regex start stop)
    {least : Nat} {extra : Option Nat} (iterated : regex = .iterate body least extra) :
    ∃ more, (∀ bound, extra = some bound → more ≤ bound) ∧
      Runs (Matches text body) (least + more) start stop := by
  induction found generalizing least extra with
  | iterateStop inside =>
      cases iterated
      exact ⟨0, fun _ _ => Nat.zero_le _, rfl⟩
  | iterateLeast head tail _ ih =>
      cases iterated
      obtain ⟨more, few, runs⟩ := ih rfl
      refine ⟨more, few, ?_⟩
      rw [Nat.succ_add]
      exact ⟨_, head, runs⟩
  | iterateExtra room head tail _ ih =>
      cases iterated
      obtain ⟨more, few, runs⟩ := ih rfl
      refine ⟨more + 1, ?_, _, head, by simpa using runs⟩
      rintro bound rfl
      have positive : bound ≠ 0 := fun zero => room (congrArg some zero)
      have below := few (bound - 1) rfl
      omega
  | _ => cases iterated

theorem matches_iterate_extra {extra : Option Nat} {more : Nat} (inside : stop ≤ text.length)
    (few : ∀ bound, extra = some bound → more ≤ bound)
    (runs : Runs (Matches text body) more start stop) :
    Matches text (.iterate body 0 extra) start stop := by
  induction more generalizing start extra with
  | zero =>
      obtain rfl : start = stop := runs
      exact .iterateStop inside
  | succ more ih =>
      obtain ⟨middle, head, tail⟩ := runs
      refine .iterateExtra ?_ head (ih ?_ tail)
      · rintro rfl
        exact absurd (few 0 rfl) (Nat.not_succ_le_zero more)
      · intro bound same
        obtain ⟨wider, rfl, rfl⟩ := Option.map_eq_some_iff.1 same
        have below := few wider rfl
        omega

/-- A repetition is the least number of runs and some more, as many as there may be. -/
theorem matches_iterate_iff {least : Nat} {extra : Option Nat} :
    Matches text (.iterate body least extra) start stop ↔ stop ≤ text.length ∧
      ∃ more, (∀ bound, extra = some bound → more ≤ bound) ∧
        Runs (Matches text body) (least + more) start stop := by
  constructor
  · intro found
    exact ⟨found.bounds.2, found.runs_of_iterate rfl⟩
  · rintro ⟨inside, more, few, runs⟩
    induction least generalizing start with
    | zero =>
        rw [Nat.zero_add] at runs
        exact matches_iterate_extra inside few runs
    | succ least ih =>
        rw [Nat.succ_add] at runs
        obtain ⟨middle, head, tail⟩ := runs
        exact .iterateLeast head (ih tail)

end Iterate

/-! ## Rows -/

section Rows

variable {start stop : Nat}

theorem matches_concat_cons_iff {first : Regex} {rest : List Regex} :
    Matches text (concat (first :: rest)) start stop ↔
      ∃ middle, Matches text first start middle ∧ Matches text (concat rest) middle stop := by
  cases rest with
  | nil =>
      constructor
      · intro found
        exact ⟨stop, found, .empty found.bounds.2⟩
      · rintro ⟨middle, found, ⟨-⟩⟩
        exact found
  | cons second rest => exact matches_seq_iff

/-- A row is matched one part after the other. -/
theorem matches_concat_append_iff {first second : List Regex} :
    Matches text (concat (first ++ second)) start stop ↔
      ∃ middle, Matches text (concat first) start middle ∧
        Matches text (concat second) middle stop := by
  induction first generalizing start with
  | nil =>
      constructor
      · intro found
        exact ⟨start, .empty (Nat.le_trans found.bounds.1 found.bounds.2), found⟩
      · rintro ⟨middle, ⟨-⟩, found⟩
        exact found
  | cons first rest ih =>
      rw [List.cons_append, matches_concat_cons_iff]
      simp only [ih, matches_concat_cons_iff]
      constructor
      · rintro ⟨next, here, middle, before, after⟩
        exact ⟨middle, ⟨next, here, before⟩, after⟩
      · rintro ⟨middle, ⟨next, here, before⟩, after⟩
        exact ⟨next, here, middle, before, after⟩

theorem matches_char_iff {c : Char} :
    Matches text (Regex.char c) start stop ↔ stop = start + 1 ∧ text[start]? = some c := by
  rw [Regex.char, matches_one_iff]
  simp [CharSet.single]

/-- A row of given characters is matched where they stand. -/
theorem matches_chars_iff {chars : List Char} :
    Matches text (concat (chars.map Regex.char)) start stop ↔
      start ≤ text.length ∧ stop = start + chars.length ∧ chars <+: text.drop start := by
  induction chars generalizing start with
  | nil =>
      rw [List.map_nil, concat, matches_empty_iff]
      constructor
      · rintro ⟨rfl, inside⟩
        exact ⟨inside, rfl, List.nil_prefix⟩
      · rintro ⟨inside, rfl, -⟩
        exact ⟨rfl, inside⟩
  | cons c chars ih =>
      rw [List.map_cons, matches_concat_cons_iff]
      simp only [ih, matches_char_iff]
      constructor
      · rintro ⟨middle, ⟨rfl, here⟩, inside, rfl, stands⟩
        obtain ⟨bound, found⟩ := List.getElem?_eq_some_iff.1 here
        refine ⟨Nat.le_of_lt bound, by rw [List.length_cons]; omega, ?_⟩
        rw [List.drop_eq_getElem_cons bound, found]
        exact List.cons_prefix_cons.2 ⟨rfl, stands⟩
      · rintro ⟨-, rfl, rest, whole⟩
        have here : text[start]? = some c := by
          rw [← List.head?_drop, ← whole]
          rfl
        have behind : text.drop (start + 1) = chars ++ rest := by
          rw [← List.tail_drop, ← whole]
          rfl
        have bound := (List.getElem?_eq_some_iff.1 here).1
        exact ⟨start + 1, ⟨rfl, here⟩, bound, by rw [List.length_cons]; omega, rest, behind.symm⟩

/-- What a row holds as given characters stands in every text that the row accepts. -/
theorem Accepts.infix_of_concat {front back : List Regex} {chars : List Char}
    (accepted : Accepts (concat (front ++ chars.map Regex.char ++ back)) text) :
    chars <:+: text := by
  obtain ⟨start, stop, found⟩ := accepted
  obtain ⟨behind, found, -⟩ := matches_concat_append_iff.1 found
  obtain ⟨middle, -, found⟩ := matches_concat_append_iff.1 found
  obtain ⟨-, -, stands⟩ := matches_chars_iff.1 found
  exact stands.isInfix.trans (List.drop_suffix middle text).isInfix

end Rows

end ElementSearch.Regex
