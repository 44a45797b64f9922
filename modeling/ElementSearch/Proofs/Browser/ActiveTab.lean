/-
# The active tab

The tabs of a browser are asked one after the other, first whether they are seen and have the
focus, then whether they are seen. Asking may change the browser, may fail, and may give a value
that is no truth value. As long as it comes to the same in every state, what it comes to in each
tab settles which tab is the active one: the test comes before the place of the tab, and a tab that
cannot be asked only fails its own test.
-/

import ElementSearch.Browser.Tabs
import ElementSearch.Proofs.Search.Yields
import Mathlib.Data.List.Forall2

namespace ElementSearch

variable {σ τ : Type}

/-- Whatever the state is, the work comes to this value. -/
def Returns {α : Type} (work : StateM σ α) (value : α) : Prop :=
  ∀ state, (work.run state).1 = value

theorem Work.run_lift {α : Type} (work : StateM σ α) (state : σ) :
    Work.run (liftM work) state = (.ok (work.run state).1, (work.run state).2) := rfl

namespace Returns

variable {α β : Type} {work : StateM σ α} {value : α}

theorem pure (value : α) : Returns (Pure.pure value : StateM σ α) value := fun _ => rfl

theorem bind {next : α → StateM σ β} {result : β} (first : Returns work value)
    (later : Returns (next value) result) : Returns (work >>= next) result := by
  intro state
  rw [StateT.run_bind]
  have here : (work.run state).1 = value := first state
  show ((next (work.run state).1).run (work.run state).2).1 = result
  rw [here]
  exact later _

theorem firstThat {test : τ → StateM σ Bool} {passes : τ → Bool}
    (each : ∀ tab, Returns (test tab) (passes tab)) (tabs : List τ) :
    Returns (ElementSearch.firstThat test tabs) (tabs.find? passes) := by
  induction tabs with
  | nil => exact .pure none
  | cons first rest ih =>
      apply (each first).bind
      rw [List.find?_cons]
      cases passes first with
      | true => exact .pure (some first)
      | false => exact ih

/-- The tests are gone through in order, each with all tabs. -/
theorem choose {tests : List (τ → StateM σ Bool)} {passes : List (τ → Bool)}
    (each : List.Forall₂ (fun test passes => ∀ tab, Returns (test tab) (passes tab)) tests passes)
    (shown : List τ) :
    Returns (RemoteTabs.choose shown tests)
      (passes.foldr (fun passes others => (shown.find? passes).or others) shown.head?) := by
  induction each with
  | nil => exact .pure _
  | cons here _ ih =>
      apply (Returns.firstThat here shown).bind
      rw [List.foldr_cons]
      cases shown.find? _ with
      | some tab => exact .pure (some tab)
      | none => exact ih

end Returns

/-! ## The first that passes -/

/-- `tab` is the first that passes. -/
def IsFirst (passes : τ → Prop) (tabs : List τ) (tab : τ) : Prop :=
  ∃ before after, tabs = before ++ tab :: after ∧ passes tab ∧ ∀ other ∈ before, ¬ passes other

theorem or_find?_eq_some_iff {passes : τ → Bool} {tabs : List τ} {others : Option τ} {tab : τ} :
    (tabs.find? passes).or others = some tab ↔ IsFirst (passes · = true) tabs tab ∨
      (∀ other ∈ tabs, ¬ passes other = true) ∧ others = some tab := by
  rw [Option.or_eq_some_iff, List.find?_eq_some_iff_append, List.find?_eq_none]
  refine or_congr_left ⟨?_, ?_⟩
  · rintro ⟨passed, before, after, split, failed⟩
    exact ⟨before, after, split, passed, fun other member => by simpa using failed other member⟩
  · rintro ⟨before, after, split, passed, failed⟩
    exact ⟨passed, before, after, split, fun other member => by simpa using failed other member⟩

namespace RemoteTabs

/-- What expressions evaluate to in tabs, whatever the state is. -/
def Evaluates (tabs : RemoteTabs σ τ) (outcome : τ → String → Except Refusal (Option Json)) :
    Prop :=
  ∀ tab expression, Returns (tabs.evaluate tab expression).run (outcome tab expression)

theorem isYes_iff {outcome : Except Refusal (Option Json)} :
    isYes outcome = true ↔ outcome = .ok (some (.bool true)) := by
  constructor
  · intro yes
    unfold isYes at yes
    split at yes
    · rw [yes]
    · cases yes
  · rintro rfl
    rfl

variable {tabs : RemoteTabs σ τ} {outcome : τ → String → Except Refusal (Option Json)}

theorem returns_isTrue (evaluates : tabs.Evaluates outcome) (expression : String) (tab : τ) :
    Returns (tabs.isTrue expression tab) (isYes (outcome tab expression)) :=
  (evaluates tab expression).bind (.pure _)

/-- The tab that the outcomes prefer. -/
def preferredBy (outcome : τ → String → Except Refusal (Option Json)) (shown : List τ) : Option τ :=
  (shown.find? fun tab => isYes (outcome tab isFocused)).or
    ((shown.find? fun tab => isYes (outcome tab isSeen)).or shown.head?)

theorem returns_preferred (evaluates : tabs.Evaluates outcome) (shown : List τ) :
    Returns (tabs.preferred shown) (preferredBy outcome shown) :=
  Returns.choose (List.Forall₂.cons (returns_isTrue evaluates isFocused)
    (List.Forall₂.cons (returns_isTrue evaluates isSeen) List.Forall₂.nil)) shown

theorem run_active_of_error {state : σ} {reason : String}
    (listed : (tabs.list.run state).1 = .error reason) :
    (tabs.active.run state).1 = .error (.tabFailed ("Failed to get tabs: " ++ reason)) := by
  rw [active, Work.run_bind, Work.run_lift]
  dsimp only
  rw [listed]
  rfl

theorem run_active_of_ok (evaluates : tabs.Evaluates outcome) {state : σ} {shown : List τ}
    (listed : (tabs.list.run state).1 = .ok shown) :
    (tabs.active.run state).1 =
      (preferredBy outcome shown).elim (.error (.tabFailed "No active tab found")) .ok := by
  rw [active, Work.run_bind, Work.run_lift]
  dsimp only
  rw [listed]
  dsimp only
  rw [Work.run_bind, Work.run_lift]
  dsimp only
  rw [returns_preferred evaluates shown]
  cases preferredBy outcome shown with
  | none => rfl
  | some tab => rfl

theorem preferredBy_eq_some_iff {shown : List τ} {tab : τ} :
    preferredBy outcome shown = some tab ↔
      IsFirst (fun tab => outcome tab isFocused = .ok (some (.bool true))) shown tab ∨
      (∀ other ∈ shown, outcome other isFocused ≠ .ok (some (.bool true))) ∧
        (IsFirst (fun tab => outcome tab isSeen = .ok (some (.bool true))) shown tab ∨
          (∀ other ∈ shown, outcome other isSeen ≠ .ok (some (.bool true))) ∧
            shown.head? = some tab) := by
  simp only [preferredBy, or_find?_eq_some_iff, isYes_iff, ne_eq]

/-- Only of no tabs none is preferred. -/
theorem preferredBy_eq_none_iff (outcome : τ → String → Except Refusal (Option Json))
    {shown : List τ} : preferredBy outcome shown = none ↔ shown = [] := by
  constructor
  · intro none
    rw [preferredBy, Option.or_eq_none_iff, Option.or_eq_none_iff] at none
    exact List.head?_eq_none_iff.1 none.2.2
  · rintro rfl
    rfl

/-- Let the evaluation of an expression in a tab come to one outcome in every state: to the value
`true`, to another value or none, or to a refusal. Then the active tab is the first that is seen
and has the focus; if there is none, the first that is seen; if there is none either, the first of
all. There is no active tab only where there are no tabs or where they cannot be listed. -/
theorem active_eq_iff {tabs : RemoteTabs σ τ} {outcome : τ → String → Except Refusal (Option Json)}
    (evaluates : tabs.Evaluates outcome) (state : σ) :
    (∀ tab, (tabs.active.run state).1 = .ok tab ↔ ∃ shown, (tabs.list.run state).1 = .ok shown ∧
      (IsFirst (fun tab => outcome tab isFocused = .ok (some (.bool true))) shown tab ∨
      (∀ other ∈ shown, outcome other isFocused ≠ .ok (some (.bool true))) ∧
        (IsFirst (fun tab => outcome tab isSeen = .ok (some (.bool true))) shown tab ∨
          (∀ other ∈ shown, outcome other isSeen ≠ .ok (some (.bool true))) ∧
            shown.head? = some tab))) ∧
    ∀ fault, (tabs.active.run state).1 = .error fault ↔
      (∃ reason, (tabs.list.run state).1 = .error reason ∧
        fault = .tabFailed ("Failed to get tabs: " ++ reason)) ∨
      (tabs.list.run state).1 = .ok [] ∧ fault = .tabFailed "No active tab found" := by
  cases listed : (tabs.list.run state).1 with
  | error reason =>
      rw [run_active_of_error listed]
      refine ⟨fun tab => ?_, fun fault => ?_⟩
      · simp
      · simp [eq_comm]
  | ok shown =>
      rw [run_active_of_ok evaluates listed]
      simp only [← preferredBy_eq_some_iff, Except.ok.injEq, exists_eq_left', reduceCtorEq,
        false_and, exists_const, false_or, ← preferredBy_eq_none_iff outcome]
      cases preferredBy outcome shown with
      | none => simp [eq_comm]
      | some tab => simp

/-- Tabs with given outcomes, which count how often they are asked. -/
def countingTabs (shown : List τ) (outcome : τ → String → Except Refusal (Option Json)) :
    RemoteTabs Nat τ where
  list := return .ok shown
  evaluate tab expression := ExceptT.mk do
    modify (· + 1)
    return outcome tab expression

/-- Outcomes by which no tab has the focus: asking for it fails, or comes to a text, to nothing or
to `false`. Of the third and the fourth tab it can be told that they are seen. -/
def unfocused (tab : Nat) (expression : String) : Except Refusal (Option Json) :=
  match tab, expression == isFocused with
  | 0, true => .error (.failed "connection closed")
  | 1, true => .ok (some (.str "true"))
  | 2, true => .ok none
  | _, true => .ok (some (.bool false))
  | 0, false => .ok (some (.bool false))
  | 1, false => .error (.failed "Target closed")
  | _, false => .ok (some (.bool true))

/-- The third tab is the first that is seen. -/
theorem active_eq_iff_unfocused :
    (countingTabs [0, 1, 2, 3] unfocused).Evaluates unfocused ∧
      ((countingTabs [0, 1, 2, 3] unfocused).active.run 0).1 = .ok 2 := by
  have evaluates : (countingTabs [0, 1, 2, 3] unfocused).Evaluates unfocused := fun _ _ _ => rfl
  have focusless : ∀ tab ∈ [0, 1, 2, 3], unfocused tab isFocused ≠ .ok (some (.bool true)) := by
    simp [unfocused]
  have unseen : ∀ tab ∈ [0, 1], unfocused tab isSeen ≠ .ok (some (.bool true)) := by
    simp [unfocused, isSeen, isFocused]
  exact ⟨evaluates, ((active_eq_iff evaluates 0).1 2).2 ⟨[0, 1, 2, 3], rfl,
    .inr ⟨focusless, .inl ⟨[0, 1], [3], rfl, rfl, unseen⟩⟩⟩⟩

end RemoteTabs

end ElementSearch
