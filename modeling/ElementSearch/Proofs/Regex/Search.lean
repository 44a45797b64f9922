/-
# What a search finds

A search keeps marks of positions. Each expression moves them: it marks where a match ends that
starts at a mark. For a row of runs that is so one run after the other, and a repetition that
adds no marks any more would add none later. So a search finds an expression in a text exactly
if some run of the text matches.
-/

import ElementSearch.Proofs.Regex.Matching
import ElementSearch.Regex.Search

namespace ElementSearch.Regex

namespace Marks

/-- The position belongs to the set. -/
def Marked (marks : Marks) (place : Nat) : Prop := marks[place]? = some true

variable {marks : Marks} {place : Nat}

theorem Marked.lt_length (marked : marks.Marked place) : place < marks.length :=
  (List.getElem?_eq_some_iff.1 marked).1

theorem any_iff : marks.any = true ↔ ∃ place, marks.Marked place := by
  rw [any, List.contains_iff_mem, List.mem_iff_getElem?]
  rfl

theorem marked_replicate_iff {size : Nat} :
    Marked (List.replicate size true) place ↔ place < size := by
  rw [Marked, List.getElem?_replicate]
  split
  · next inside => exact iff_of_true rfl inside
  · next outside => exact iff_of_false nofun outside

/-- A position of the union belongs to one of the sets. -/
theorem marked_union_iff {first second : Marks} (sized : first.length = second.length) :
    (first.union second).Marked place ↔ first.Marked place ∨ second.Marked place := by
  unfold Marked union
  rw [List.getElem?_zipWith]
  by_cases inside : place < first.length
  · rw [List.getElem?_eq_getElem inside, List.getElem?_eq_getElem (sized ▸ inside)]
    simp
  · have outside : second.length ≤ place := sized ▸ Nat.not_lt.1 inside
    rw [List.getElem?_eq_none (Nat.not_lt.1 inside), List.getElem?_eq_none outside]
    simp

end Marks

open Marks

/-! ## Moving marks -/

/-- Marks are moved along a relation: their number stays, and a position is marked where the
relation leads to it from one that was. -/
structure Moves (size : Nat) (move : Marks → Marks) (step : Nat → Nat → Prop) : Prop where
  length {marks : Marks} : marks.length = size → (move marks).length = size
  marked {marks : Marks} {stop : Nat} : marks.length = size →
    ((move marks).Marked stop ↔ ∃ start, marks.Marked start ∧ step start stop)

namespace Moves

variable {size : Nat} {move later : Marks → Marks} {step other : Nat → Nat → Prop}

/-- Only what the relation says of positions matters. -/
theorem congr (moves : Moves size move step)
    (same : ∀ {start stop : Nat}, start < size → (step start stop ↔ other start stop)) :
    Moves size move other where
  length := moves.length
  marked sized := by
    rw [moves.marked sized]
    constructor
    · rintro ⟨start, started, leads⟩
      exact ⟨start, started, (same (sized ▸ started.lt_length)).1 leads⟩
    · rintro ⟨start, started, leads⟩
      exact ⟨start, started, (same (sized ▸ started.lt_length)).2 leads⟩

theorem refl : Moves size id (· = ·) where
  length := id
  marked _ := by
    constructor
    · exact fun marked => ⟨_, marked, rfl⟩
    · rintro ⟨_, marked, rfl⟩
      exact marked

theorem trans (moves : Moves size move step) (next : Moves size later other) :
    Moves size (later ∘ move)
      (fun start stop => ∃ middle, step start middle ∧ other middle stop) where
  length sized := next.length (moves.length sized)
  marked sized := by
    rw [Function.comp, next.marked (moves.length sized)]
    constructor
    · rintro ⟨middle, marked, leads⟩
      obtain ⟨start, started, led⟩ := (moves.marked sized).1 marked
      exact ⟨start, started, middle, led, leads⟩
    · rintro ⟨start, started, middle, led, leads⟩
      exact ⟨middle, (moves.marked sized).2 ⟨start, started, led⟩, leads⟩

theorem union (moves : Moves size move step) (others : Moves size later other) :
    Moves size (fun marks => (move marks).union (later marks))
      (fun start stop => step start stop ∨ other start stop) where
  length sized := by
    rw [Marks.union, List.length_zipWith, moves.length sized, others.length sized, Nat.min_self]
  marked sized := by
    rw [marked_union_iff ((moves.length sized).trans (others.length sized).symm),
      moves.marked sized, others.marked sized, ← exists_or]
    simp only [and_or_left]

/-- What leads on from marks in one more step leads on from where that step takes them. -/
theorem exists_runs_succ (moves : Moves size move step) {marks : Marks} {count stop : Nat}
    (sized : marks.length = size) :
    (∃ start, marks.Marked start ∧ Runs step (count + 1) start stop) ↔
      ∃ middle, (move marks).Marked middle ∧ Runs step count middle stop := by
  constructor
  · rintro ⟨start, started, middle, leads, runs⟩
    exact ⟨middle, (moves.marked sized).2 ⟨start, started, leads⟩, runs⟩
  · rintro ⟨middle, marked, runs⟩
    obtain ⟨start, started, leads⟩ := (moves.marked sized).1 marked
    exact ⟨start, started, middle, leads, runs⟩

/-- Marks that do not move are where any number of steps leads. -/
theorem marked_of_fixed (moves : Moves size move step) {marks : Marks} {count stop : Nat}
    (sized : marks.length = size) (fixed : move marks = marks) :
    marks.Marked stop ↔ ∃ start, marks.Marked start ∧ Runs step count start stop := by
  induction count with
  | zero => exact refl.marked sized
  | succ count ih => rw [moves.exists_runs_succ sized, fixed, ih]

theorem advance (moves : Moves size move step) (count : Nat) :
    Moves size (advance move count) (Runs step count) := by
  induction count with
  | zero => exact refl
  | succ count ih =>
      refine ⟨fun sized => ?_, fun sized => ?_⟩
      · dsimp only [Regex.advance]
        split
        · exact sized
        · exact ih.length (moves.length sized)
      · dsimp only [Regex.advance]
        split
        · next fixed => exact moves.marked_of_fixed sized (eq_of_beq fixed)
        · rw [ih.marked (moves.length sized), moves.exists_runs_succ sized]

theorem grow (moves : Moves size move step) (rounds : Nat) :
    Moves size (grow move rounds)
      (fun start stop => ∃ count ≤ rounds, Runs step count start stop) :=
  ((refl.union moves).advance rounds).congr fun _ => runs_or_iff

end Moves

/-! ## Expressions move marks along their matches -/

variable {text : List Char}

/-- A step leaves a mark where one was set and a character of the set follows. -/
theorem getElem?_stepMarks {set : CharSet} {starts : Marks} {place : Nat} :
    (stepMarks set text starts)[place]? = some true ↔
      starts[place]? = some true ∧ ∃ c, text[place]? = some c ∧ set.has c = true := by
  induction text generalizing starts place with
  | nil => simp [stepMarks]
  | cons c rest ih =>
      cases starts with
      | nil => simp [stepMarks]
      | cons mark starts =>
          cases place with
          | zero => simp [stepMarks]
          | succ place => simpa [stepMarks] using ih

theorem length_stepMarks {set : CharSet} {starts : Marks}
    (sized : starts.length = text.length + 1) :
    (stepMarks set text starts).length = text.length := by
  induction text generalizing starts with
  | nil => simp [stepMarks]
  | cons c rest ih =>
      cases starts with
      | nil => cases sized
      | cons mark starts => simpa [stepMarks] using ih (by simpa using sized)

theorem moves_one (set : CharSet) :
    Moves (text.length + 1) ((one set).ends text) (Matches text (.one set)) where
  length sized := by rw [ends, List.length_cons, length_stepMarks sized]
  marked {marks stop} sized := by
    simp only [matches_one_iff]
    cases stop with
    | zero => simp [ends, Marked]
    | succ place =>
        have moved : ((one set).ends text marks).Marked (place + 1) ↔
            (stepMarks set text marks)[place]? = some true := by
          simp [ends, Marked]
        rw [moved, getElem?_stepMarks]
        constructor
        · rintro ⟨started, here⟩
          exact ⟨place, started, rfl, here⟩
        · rintro ⟨start, started, same, here⟩
          obtain rfl := Nat.succ.inj same
          exact ⟨started, here⟩

/-- An assertion leaves the marks where it holds between the character before and the one after;
`previous` stands before the first of them. -/
theorem getElem?_lookMarks {assertion : Look} {previous : Option Char} {starts : Marks}
    {place : Nat} :
    (lookMarks assertion previous text starts)[place]? = some true ↔
      place ≤ text.length ∧ starts[place]? = some true ∧
        assertion.holds (if place = 0 then previous else before? text place)
          text[place]? = true := by
  induction text generalizing previous starts place with
  | nil =>
      cases starts with
      | nil => simp [lookMarks]
      | cons mark starts =>
          cases place with
          | zero => simp [lookMarks]
          | succ place => simp [lookMarks]
  | cons c rest ih =>
      cases starts with
      | nil => simp [lookMarks]
      | cons mark starts =>
          cases place with
          | zero => simp [lookMarks]
          | succ place =>
              cases place with
              | zero => simp [lookMarks, ih, before?]
              | succ place => simp [lookMarks, ih, before?]

theorem length_lookMarks {assertion : Look} {previous : Option Char} {starts : Marks}
    (sized : starts.length = text.length + 1) :
    (lookMarks assertion previous text starts).length = text.length + 1 := by
  induction text generalizing previous starts with
  | nil =>
      obtain ⟨mark, rfl⟩ := List.length_eq_one_iff.1 sized
      rfl
  | cons c rest ih =>
      cases starts with
      | nil => cases sized
      | cons mark starts => simpa [lookMarks] using ih (by simpa using sized)

theorem moves_look (assertion : Look) :
    Moves (text.length + 1) ((look assertion).ends text) (Matches text (.look assertion)) where
  length sized := length_lookMarks sized
  marked {marks stop} sized := by
    have first : (if stop = 0 then none else before? text stop) = before? text stop := by
      cases stop with
      | zero => rfl
      | succ place => rfl
    unfold Marked
    rw [ends, getElem?_lookMarks, first]
    simp only [matches_look_iff]
    constructor
    · rintro ⟨inside, marked, holds⟩
      exact ⟨stop, marked, rfl, inside, holds⟩
    · rintro ⟨_, marked, rfl, inside, holds⟩
      exact ⟨inside, marked, holds⟩

/-- A repetition takes its least number of runs first, and then as many more as there may be and
as there are characters for. -/
theorem moves_iterate {body : Regex} (least : Nat) (extra : Option Nat)
    (moves : Moves (text.length + 1) (body.ends text) (Matches text body)) :
    Moves (text.length + 1) ((iterate body least extra).ends text)
      (Matches text (.iterate body least extra)) := by
  refine ((moves.advance least).trans (moves.grow (extra.getD text.length))).congr ?_
  intro start stop inside
  have forward {start stop : Nat} (found : Matches text body start stop) : start ≤ stop :=
    found.bounds.1
  have within {count start stop : Nat} (inside : start ≤ text.length)
      (runs : Runs (Matches text body) count start stop) : stop ≤ text.length := by
    induction count generalizing start with
    | zero => exact runs ▸ inside
    | succ count ih =>
        obtain ⟨middle, found, runs⟩ := runs
        exact ih found.bounds.2 runs
  rw [matches_iterate_iff]
  constructor
  · rintro ⟨middle, first, more, few, rest⟩
    have runs := runs_add.2 ⟨middle, first, rest⟩
    refine ⟨within (Nat.le_of_lt_succ inside) runs, more, ?_, runs⟩
    rintro bound rfl
    exact few
  · rintro ⟨ended, more, few, runs⟩
    obtain ⟨middle, first, rest⟩ := runs_add.1 runs
    refine ⟨middle, first, ?_⟩
    cases extra with
    | some bound => exact ⟨more, few bound rfl, rest⟩
    | none =>
        obtain ⟨-, fewer, short, rest⟩ := rest.exists_le forward
        exact ⟨fewer, by rw [Option.getD_none]; omega, rest⟩

/-- An expression marks exactly where its matches end. -/
theorem moves_ends (regex : Regex) :
    Moves (text.length + 1) (regex.ends text) (Matches text regex) := by
  induction regex with
  | empty =>
      refine Moves.refl.congr fun inside => ?_
      rw [matches_empty_iff]
      exact ⟨fun same => ⟨same, same ▸ Nat.le_of_lt_succ inside⟩, And.left⟩
  | one set => exact moves_one set
  | look assertion => exact moves_look assertion
  | seq first second firstIh secondIh =>
      exact (firstIh.trans secondIh).congr fun _ => matches_seq_iff.symm
  | alt first second firstIh secondIh =>
      exact (firstIh.union secondIh).congr fun _ => matches_alt_iff.symm
  | iterate body least extra ih => exact moves_iterate least extra ih

/-- A search finds an expression in a text exactly if some run of the text matches. -/
theorem accepts_iff {regex : Regex} : regex.accepts text = true ↔ Accepts regex text := by
  rw [accepts, Marks.any_iff, Accepts, exists_comm]
  refine exists_congr fun stop => ?_
  rw [(moves_ends regex).marked List.length_replicate]
  refine exists_congr fun start => ?_
  rw [marked_replicate_iff]
  constructor
  · exact And.right
  · exact fun found => ⟨Nat.lt_succ_of_le (Nat.le_trans found.bounds.1 found.bounds.2), found⟩

end ElementSearch.Regex
