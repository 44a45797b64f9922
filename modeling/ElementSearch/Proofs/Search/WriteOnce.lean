/-
# Collections over whole runs

A collection is asked one thing after the other, while the page changes in between. Until a
lookup succeeds nothing is kept, and each operation that needs the matches looks them up on
the page as it then is. From then on the collection is what that lookup made it: no operation
turns to the page again, and all of them answer from the same matches. What these are is said
without the collection, by the first lookup in the run that succeeds.
-/

import ElementSearch.Proofs.Search.Position
import ElementSearch.Proofs.Search.Yields
import ElementSearch.Search.Collection

namespace ElementSearch

namespace Collection

variable {σ η : Type}

/-! ## Answers -/

/-- The answer is a reference by position: it is located where the position denotes a match,
counted from the start or from the end, and holds that match. The number of matches is a 64-bit
number. -/
def Refers (selector : Selector) (found : List η) (position : Int64) (answer : Answer η) : Prop :=
  ∃ taken : Reference η, answer = .reference taken ∧
    taken.selector = selector.withIndex position ∧
    ((found.length : Int) ≤ Int64.maxValue.toInt →
      (taken.isLocated = true ↔
        -(found.length : Int) ≤ position.toInt ∧ position.toInt < found.length) ∧
      ∀ place (bound : place < found.length),
        (place : Int) = position.toInt ∨ (place : Int) = found.length + position.toInt →
          taken.element = some found[place])

/-- What a collection answers that keeps these matches. -/
def Reflects (selector : Selector) (found : List η) : Operation → Answer η → Prop
  | .isFetched, answer => answer = .flag true
  | .fetch, answer | .iterate, answer | .toList, answer => answer = .elements found
  | .size, answer => answer = .count found.length
  | .isEmpty, answer => answer = .flag found.isEmpty
  | .at position, answer => Refers selector found position answer
  | .first, answer => Refers selector found 0 answer
  | .last, answer => Refers selector found (-1) answer

theorem refers_reference (collection : Collection η) (found : List η) (position : Int64) :
    Refers collection.selector found position
      (.reference (collection.reference found position)) := by
  refine ⟨_, rfl, rfl, fun small => ⟨?_, fun place bound denotes => ?_⟩⟩
  · rw [Reference.isLocated, reference, Option.isSome_map, isSome_place?_iff small]
  · rw [reference, place?_eq_some small bound denotes]
    rfl

/-- An operation that needs the matches answers from what it fetches. -/
theorem exists_view {operation : Operation} (needs : operation ≠ .isFetched) :
    ∃ view : List η × Collection η → Answer η,
      (∀ found collection, Reflects collection.selector found operation
        (view (found, collection))) ∧
      ∀ (collection : Collection η) (finder : Finder σ η),
        collection.perform finder operation =
          (fun stored => (view stored, stored.2)) <$> collection.fetch finder := by
  cases operation with
  | isFetched => exact absurd rfl needs
  | fetch | iterate | toList =>
      refine ⟨fun stored => .elements stored.1, fun _ _ => rfl, fun _ _ => ?_⟩
      simp only [perform, map_eq_pure_bind]
  | size =>
      refine ⟨fun stored => .count stored.1.length, fun _ _ => rfl, fun _ _ => ?_⟩
      simp [perform, size]
  | isEmpty =>
      refine ⟨fun stored => .flag stored.1.isEmpty, fun _ _ => rfl, fun _ _ => ?_⟩
      simp [perform, isEmpty]
  | «at» position =>
      refine ⟨fun stored => .reference (stored.2.reference stored.1 position),
        fun found collection => refers_reference collection found position, fun _ _ => ?_⟩
      simp [perform, referenceAt]
  | first =>
      refine ⟨fun stored => .reference (stored.2.reference stored.1 0),
        fun found collection => refers_reference collection found 0, fun _ _ => ?_⟩
      simp [perform, firstReference, referenceAt]
  | last =>
      refine ⟨fun stored => .reference (stored.2.reference stored.1 (-1)),
        fun found collection => refers_reference collection found (-1), fun _ _ => ?_⟩
      simp [perform, lastReference, referenceAt]

/-! ## Runs -/

/-- Something that happens in a run. -/
inductive Step (σ : Type)
  /-- The collection is asked something. -/
  | operation (asked : Operation)
  /-- The page is changed or looked at by others. -/
  | page (change : σ → σ)

/-- A page and a collection in the middle of a run. -/
structure Moment (σ η : Type) where
  state : σ
  collection : Collection η

namespace Moment

/-- Ask the collection something. It is left as it was by what fails. -/
def perform (moment : Moment σ η) (finder : Finder σ η) (operation : Operation) :
    Except Fault (Answer η) × Moment σ η :=
  match (moment.collection.perform finder operation).run moment.state with
  | (.ok (answer, kept), after) => (.ok answer, ⟨after, kept⟩)
  | (.error fault, after) => (.error fault, ⟨after, moment.collection⟩)

/-- The moment after a step. -/
def next (finder : Finder σ η) (moment : Moment σ η) : Step σ → Moment σ η
  | .operation asked => (moment.perform finder asked).2
  | .page change => { moment with state := change moment.state }

/-- The moment after a run. -/
def after (finder : Finder σ η) (moment : Moment σ η) (history : List (Step σ)) : Moment σ η :=
  history.foldl (next finder) moment

end Moment

/-- What the first lookup that succeeds finds, where everything but `isFetched` looks up. -/
def firstFound (finder : Finder σ η) (selector : Selector) : σ → List (Step σ) → Option (List η)
  | _, [] => none
  | state, .page change :: rest => firstFound finder selector (change state) rest
  | state, .operation asked :: rest =>
      if asked = .isFetched then firstFound finder selector state rest
      else
        match (finder.findAll selector).run state with
        | (.ok found, _) => some found
        | (.error _, after) => firstFound finder selector after rest

/-! ## Steps -/

section Steps

variable (finder : Finder σ η) (selector : Selector) (operation : Operation)

/-- A collection that keeps its matches answers from them and does nothing else. -/
theorem perform_of_fetched (found : List η) :
    ∃ answer, (⟨selector, some found⟩ : Collection η).perform finder operation =
        pure (answer, ⟨selector, some found⟩) ∧
      Reflects selector found operation answer := by
  by_cases asked : operation = .isFetched
  · subst asked
    exact ⟨.flag true, rfl, rfl⟩
  · obtain ⟨view, reflects, viewed⟩ := exists_view (σ := σ) (η := η) asked
    refine ⟨_, ?_, reflects found ⟨selector, some found⟩⟩
    rw [viewed]
    rfl

/-- A collection that keeps nothing does what a lookup does, and keeps what that finds. -/
theorem exists_perform_of_unfetched (needs : operation ≠ .isFetched) :
    ∃ answer : List η → Answer η, (∀ found, Reflects selector found operation (answer found)) ∧
      (⟨selector, none⟩ : Collection η).perform finder operation =
        finder.findAll selector >>= fun found => pure (answer found, ⟨selector, some found⟩) := by
  obtain ⟨view, reflects, viewed⟩ := exists_view (σ := σ) (η := η) needs
  refine ⟨fun found => view (found, ⟨selector, some found⟩),
    fun found => reflects found ⟨selector, some found⟩, ?_⟩
  rw [viewed, map_eq_pure_bind]
  exact bind_assoc _ _ _

variable {selector operation} {state after : σ}

/-- The first lookup that succeeds is kept. -/
theorem exists_perform_of_found {found : List η} (needs : operation ≠ .isFetched)
    (ran : (finder.findAll selector).run state = (.ok found, after)) :
    ∃ answer, Moment.perform ⟨state, ⟨selector, none⟩⟩ finder operation =
        (.ok answer, ⟨after, ⟨selector, some found⟩⟩) ∧
      Reflects selector found operation answer := by
  obtain ⟨answer, reflects, performed⟩ :=
    exists_perform_of_unfetched finder selector operation needs
  refine ⟨answer found, ?_, reflects found⟩
  rw [Moment.perform, performed, Work.run_bind, ran]
  rfl

/-- Of a lookup that fails nothing is kept. -/
theorem perform_of_failed {fault : Fault} (needs : operation ≠ .isFetched)
    (ran : (finder.findAll selector).run state = (.error fault, after)) :
    Moment.perform ⟨state, ⟨selector, none⟩⟩ finder operation =
      (.error fault, ⟨after, ⟨selector, none⟩⟩) := by
  obtain ⟨answer, _, performed⟩ := exists_perform_of_unfetched finder selector operation needs
  rw [Moment.perform, performed, Work.run_bind, ran]

end Steps

/-! ## Whole runs -/

section Runs

variable (finder : Finder σ η) (selector : Selector)

/-- No step changes a collection that keeps its matches. -/
theorem exists_next_of_fetched (found : List η) (state : σ) (step : Step σ) :
    ∃ later, Moment.next finder ⟨state, ⟨selector, some found⟩⟩ step =
      ⟨later, ⟨selector, some found⟩⟩ := by
  cases step with
  | page change => exact ⟨change state, rfl⟩
  | operation asked =>
      obtain ⟨answer, performed, _⟩ := perform_of_fetched finder selector asked found
      refine ⟨state, ?_⟩
      show (Moment.perform _ finder asked).2 = _
      unfold Moment.perform
      rw [performed]
      rfl

theorem collection_after_of_fetched (found : List η) (state : σ) (history : List (Step σ)) :
    (Moment.after finder ⟨state, ⟨selector, some found⟩⟩ history).collection =
      ⟨selector, some found⟩ := by
  induction history generalizing state with
  | nil => rfl
  | cons step rest ih =>
      obtain ⟨later, stepped⟩ := exists_next_of_fetched finder selector found state step
      rw [Moment.after, List.foldl_cons, stepped]
      exact ih later

/-- After a run the collection keeps what the first lookup found that succeeded. -/
theorem collection_after (state : σ) (history : List (Step σ)) :
    (Moment.after finder ⟨state, ofSelector selector⟩ history).collection =
      ⟨selector, firstFound finder selector state history⟩ := by
  induction history generalizing state with
  | nil => rfl
  | cons step rest ih =>
      cases step with
      | page change => exact ih (change state)
      | operation asked =>
          unfold firstFound
          by_cases needs : asked = .isFetched
          · subst needs
            exact ih state
          · rw [if_neg needs, Moment.after, List.foldl_cons]
            show (Moment.after finder (Moment.perform _ finder asked).2 rest).collection = _
            cases ran : (finder.findAll selector).run state with
            | mk result after =>
                cases result with
                | ok found =>
                    obtain ⟨answer, performed, _⟩ := exists_perform_of_found finder needs ran
                    rw [ofSelector, performed]
                    exact collection_after_of_fetched finder selector found after rest
                | error fault =>
                    rw [ofSelector, perform_of_failed finder needs ran]
                    exact ih after

/-- What was found first stays what was found first. -/
theorem firstFound_append {state : σ} {history : List (Step σ)} {found : List η}
    (first : firstFound finder selector state history = some found) (later : List (Step σ)) :
    firstFound finder selector state (history ++ later) = some found := by
  induction history generalizing state with
  | nil => cases first
  | cons step rest ih =>
      cases step with
      | page change => exact ih first
      | operation asked =>
          rw [List.cons_append]
          unfold firstFound at first ⊢
          by_cases needs : asked = .isFetched
          · rw [if_pos needs] at first ⊢
            exact ih first
          · rw [if_neg needs] at first ⊢
            cases ran : (finder.findAll selector).run state with
            | mk result after =>
                rw [ran] at first
                cases result with
                | ok own => exact first
                | error fault => exact ih first

/-- Over a whole run the selector of a collection stays the same. Before a lookup succeeds the
collection keeps nothing, says so, and does for each operation that needs the matches what a
lookup on the page as it is does: it fails by the same fault and keeps nothing, or it keeps what
was found and answers from that. Once a lookup has succeeded, however the run goes on, the
collection keeps what that lookup found, and every operation answers from it and does nothing
else. -/
theorem reflects_firstFound (state : σ) (history : List (Step σ)) (operation : Operation) :
    let moment := Moment.after finder ⟨state, ofSelector selector⟩ history
    moment.collection.selector = selector ∧
    (firstFound finder selector state history = none →
      moment.collection.fetched = none ∧
      moment.collection.perform finder .isFetched = pure (.flag false, moment.collection) ∧
      (operation ≠ .isFetched →
        (∀ found after, (finder.findAll selector).run moment.state = (.ok found, after) →
          ∃ answer, moment.perform finder operation =
              (.ok answer, ⟨after, ⟨selector, some found⟩⟩) ∧
            Reflects selector found operation answer) ∧
        ∀ fault after, (finder.findAll selector).run moment.state = (.error fault, after) →
          moment.perform finder operation = (.error fault, ⟨after, ⟨selector, none⟩⟩))) ∧
    ∀ found, firstFound finder selector state history = some found → ∀ later,
      let moment := Moment.after finder ⟨state, ofSelector selector⟩ (history ++ later)
      moment.collection = ⟨selector, some found⟩ ∧
      ∃ answer, moment.collection.perform finder operation = pure (answer, moment.collection) ∧
        Reflects selector found operation answer := by
  intro moment
  have kept : moment.collection = ⟨selector, firstFound finder selector state history⟩ :=
    collection_after finder selector state history
  refine ⟨by rw [kept], fun unfetched => ?_, fun found first later => ?_⟩
  · rw [unfetched] at kept
    have shape : moment = ⟨moment.state, ⟨selector, none⟩⟩ := by rw [← kept]
    refine ⟨by rw [kept], by rw [kept]; rfl, fun needs => ⟨fun found after ran => ?_,
      fun fault after ran => ?_⟩⟩
    · rw [shape]
      exact exists_perform_of_found finder needs ran
    · rw [shape]
      exact perform_of_failed finder needs ran
  · intro moment
    have stays : moment.collection = ⟨selector, some found⟩ := by
      rw [← firstFound_append finder selector first later]
      exact collection_after finder selector state (history ++ later)
    rw [stays]
    exact ⟨rfl, perform_of_fetched finder selector operation found⟩

end Runs

/-! ## A list that changes -/

/-- A page with a list of two items. -/
def listedItems : Document where
  tree := ⟨[⟨0, "ul", [], ""⟩, ⟨1, "li", [], "one"⟩, ⟨1, "li", [], "two"⟩], by decide⟩
  stubs := .empty
  stale := []
  calls := []

/-- The items are asked for before the page can say what they are, and after. -/
def askedTwice : List (Step Document) :=
  [.operation .size, .page (·.stub .css "li" [2, 3]), .operation .isEmpty]

/-- The items are gone, another one is added, and someone else looks for them. -/
def itemsReplaced : List (Step Document) :=
  [.page (·.makeStale 2), .page (·.stub .css "li" [4]),
    .page fun document => document.add ⟨0, "li", [], "three"⟩ (Nat.succ_pos _),
    .page fun document => (Document.driver.findElements none .css "li").run document |>.2]

/-- The second item is the last of the collection, also when it is not the last of the page. -/
theorem reflects_firstFound_items :
    ∃ (finder : Finder Document Nat) (selector : Selector),
      firstFound finder selector listedItems [.operation .size] = none ∧
      Moment.perform ⟨listedItems, ofSelector selector⟩ finder .size =
        (.error (.pageFailed "unstubbed query css selector \"li\""),
          ⟨listedItems.record .css "li", ofSelector selector⟩) ∧
      let moment :=
        Moment.after finder ⟨listedItems, ofSelector selector⟩ (askedTwice ++ itemsReplaced)
      moment.collection = ⟨selector, some [2, 3]⟩ ∧
      ∃ answer, moment.collection.perform finder .last = pure (answer, moment.collection) ∧
        Refers selector [2, 3] (-1) answer := by
  let finder := Document.finder none .generic false
  let selector : Selector := ⟨[("css", .literal "li")], by decide⟩
  have found : firstFound finder selector listedItems askedTwice = some [2, 3] := rfl
  have before := reflects_firstFound finder selector listedItems [] .size
  have after := reflects_firstFound finder selector listedItems askedTwice .last
  exact ⟨finder, selector, rfl, ((before.2.1 rfl).2.2 (by decide)).2 _ _ rfl,
    after.2.2 [2, 3] found itemsReplaced⟩

end Collection

end ElementSearch
