/-
# What a search yields

A search only reads a document, and all that changes is the record of its lookups. So what
a piece of work comes to is known from the document alone: a result, and the lookups that
are added to the record, whatever was recorded before.
-/

import ElementSearch.Document
import ElementSearch.Search.Finder

namespace ElementSearch

namespace Work

variable {σ α β : Type}

/-- A result in which absence is no fault. -/
def absorb : Except Fault (Option α) → Except Fault (Option α)
  | .error fault => if fault.isAbsence then .ok none else .error fault
  | .ok found => .ok found

theorem absorb_of_absence {fault : Fault} (absent : fault.isAbsence = true) :
    absorb (.error fault : Except Fault (Option α)) = .ok none :=
  if_pos absent

theorem absorb_of_not_absence {fault : Fault} (other : fault.isAbsence = false) :
    absorb (.error fault : Except Fault (Option α)) = .error fault := by
  rw [absorb, other]
  rfl

/-- Work goes on from the state that the work before it left, unless that failed. -/
theorem run_bind (work : Work σ α) (next : α → Work σ β) (state : σ) :
    (work >>= next).run state = match work.run state with
      | (.ok value, after) => (next value).run after
      | (.error fault, after) => (.error fault, after) := by
  obtain ⟨⟨fault | value, after⟩, here⟩ : ∃ outcome, ExceptT.run work state = outcome := ⟨_, rfl⟩
  · have failed : work.run state = (.error fault, after) := here
    rw [failed, run, ExceptT.run_bind, StateT.run_bind, StateT.run, here]
    rfl
  · have succeeded : work.run state = (.ok value, after) := here
    rw [succeeded, run, ExceptT.run_bind, StateT.run_bind, StateT.run, here]
    rfl

theorem run_absent (work : Work σ (Option α)) (state : σ) :
    work.absent.run state = (absorb (work.run state).1, (work.run state).2) := by
  obtain ⟨⟨fault | found, after⟩, here⟩ : ∃ outcome, ExceptT.run work state = outcome := ⟨_, rfl⟩
  · have failed : work.run state = (.error fault, after) := here
    rw [failed, run, absent, ExceptT.run_mk, StateT.run_bind, StateT.run, here]
    show StateT.run (if fault.isAbsence then pure (Except.ok none)
      else pure (Except.error fault)) after = _
    rw [absorb]
    split <;> rfl
  · have succeeded : work.run state = (.ok found, after) := here
    rw [succeeded, run, absent, ExceptT.run_mk, StateT.run_bind, StateT.run, here]
    rfl

end Work

namespace Document

/-- The record of lookups. -/
abbrev Calls := List (Strategy × String)

/-- On a document, whatever was looked up before, the work has this result and adds these lookups
to the record. -/
def Yields {α : Type} (document : Document) (work : Work Document α) (result : Except Fault α)
    (calls : Calls) : Prop :=
  ∀ before, work.run { document with calls := before } =
    (result, { document with calls := before ++ calls })

namespace Yields

variable {α β : Type} {document : Document} {work : Work Document α} {result : Except Fault α}
  {calls : Calls}

theorem result_eq (yields : Yields document work result calls) :
    (work.run document).1 = result :=
  congrArg Prod.fst (yields document.calls)

theorem ofExcept (result : Except Fault α) : Yields document (Work.ofExcept result) result [] := by
  intro before
  rw [List.append_nil]
  rfl

/-- A check that is known to come out one way. -/
theorem ofExcept_of_eq {outcome : Except Fault α} (known : result = outcome) :
    Yields document (Work.ofExcept result) outcome [] := by
  rw [known]
  exact ofExcept outcome

theorem pure (value : α) : Yields document (Pure.pure value) (.ok value) [] :=
  ofExcept (.ok value)

theorem read {reader : Document → Except Fault α}
    (same : ∀ calls, reader { document with calls } = reader document) :
    Yields document (Work.read reader) (reader document) [] := by
  intro before
  rw [List.append_nil, ← same before]
  rfl

theorem bind_ok {value : α} {next : α → Work Document β} {outcome : Except Fault β}
    {others : Calls} (first : Yields document work (.ok value) calls)
    (later : Yields document (next value) outcome others) :
    Yields document (work >>= next) outcome (calls ++ others) := by
  intro before
  rw [Work.run_bind, first before, ← List.append_assoc]
  exact later (before ++ calls)

theorem bind_error {fault : Fault} {next : α → Work Document β}
    (first : Yields document work (.error fault) calls) :
    Yields document (work >>= next) (.error fault) calls := by
  intro before
  rw [Work.run_bind, first before]

/-- Work after which nothing more is looked up. -/
theorem bind {next : α → Work Document β} {outcome : α → Except Fault β}
    (first : Yields document work result calls)
    (later : ∀ value, Yields document (next value) (outcome value) []) :
    Yields document (work >>= next) (result >>= outcome) calls := by
  cases result with
  | error fault => exact first.bind_error
  | ok value =>
      have both := first.bind_ok (later value)
      rwa [List.append_nil] at both

theorem map (convert : α → β) (yields : Yields document work result calls) :
    Yields document (convert <$> work) (convert <$> result) calls := by
  rw [map_eq_pure_bind, map_eq_pure_bind]
  exact yields.bind fun value => pure (convert value)

theorem absent {work : Work Document (Option α)} {result : Except Fault (Option α)}
    (yields : Yields document work result calls) :
    Yields document work.absent (Work.absorb result) calls := by
  intro before
  rw [Work.run_absent, yields before]

end Yields

/-! ## Lookups -/

/-- The answer to a lookup below a root, which must not be stale. -/
def answer (document : Document) (root : Option Nat) (strategy : Strategy) (value : String) :
    Except Fault (List Nat) :=
  document.checkLive (root.getD 0) >>= fun () => document.lookup (root.getD 0) strategy value

/-- What a lookup adds to the record. -/
def recorded (document : Document) (root : Option Nat) (strategy : Strategy) (value : String) :
    Calls :=
  if document.stale.contains (root.getD 0) then [] else [(strategy, value)]

/-- The first of several matches, as a lookup of one element gives it. -/
def firstOf (strategy : Strategy) (value : String) : List Nat → Except Fault Nat
  | first :: _ => .ok first
  | [] => .error (.noSuchElement (strategy.displayLookup value))

theorem yields_findElements (document : Document) (root : Option Nat) (strategy : Strategy)
    (value : String) :
    Yields document (findElements root strategy value) (document.answer root strategy value)
      (document.recorded root strategy value) := by
  have live : Yields document (Work.read fun document => document.checkLive (root.getD 0))
      (document.checkLive (root.getD 0)) [] := Yields.read fun _ => rfl
  have noted : Yields document (modify fun document => document.record strategy value) (.ok ())
      [(strategy, value)] := fun _ => rfl
  have found : Yields document
      (Work.read fun document => document.lookup (root.getD 0) strategy value)
      (document.lookup (root.getD 0) strategy value) [] := Yields.read fun _ => rfl
  rw [answer, recorded]
  unfold checkLive at live ⊢
  split at live
  · next stale =>
      rw [if_pos stale, if_pos stale]
      exact live.bind_error
  · next fresh =>
      rw [if_neg fresh, if_neg fresh]
      exact live.bind_ok (noted.bind_ok found)

theorem yields_findElement (document : Document) (root : Option Nat) (strategy : Strategy)
    (value : String) :
    Yields document (findElement root strategy value)
      (document.answer root strategy value >>= firstOf strategy value)
      (document.recorded root strategy value) := by
  apply (yields_findElements document root strategy value).bind
  intro found
  cases found with
  | nil => exact Yields.ofExcept _
  | cons first rest => exact Yields.pure first

/-! ## Checks on elements -/

section Checks

variable (document : Document) (element : Nat)

theorem yields_readTag :
    Yields document (driver.reader.readTag element) (document.reader.readTag element) [] :=
  Yields.read fun _ => rfl

theorem yields_readAttribute (name : String) :
    Yields document (driver.reader.readAttribute element name)
      (document.reader.readAttribute element name) [] :=
  Yields.read fun _ => rfl

theorem yields_readText :
    Yields document (driver.reader.readText element) (document.reader.readText element) [] :=
  Yields.read fun _ => rfl

theorem yields_fetch (key : Key) :
    Yields document (driver.reader.fetch element key) (document.reader.fetch element key) [] := by
  cases key with
  | tagName =>
      apply (yields_readTag document element).bind
      intro tag
      exact .pure _
  | text =>
      apply (yields_readText document element).bind
      intro text
      exact .pure _
  | className => exact yields_readAttribute document element "class"
  | label => exact yields_readAttribute document element "label"
  | attr name free =>
      unfold ElementReader.fetch
      dsimp only
      split
      · apply (yields_readAttribute document element "href").bind
        intro value
        exact .pure _
      · exact yields_readAttribute document element _
  | _ => exact .pure none

theorem yields_meetsPattern (key : Key) (pattern : Pattern) :
    Yields document (driver.reader.meetsPattern key pattern element)
      (document.reader.meetsPattern key pattern element) [] :=
  (yields_fetch document element key).bind fun _ => .pure _

theorem yields_meetsPatterns (patterns : List (Key × Pattern)) :
    Yields document (driver.reader.meetsPatterns patterns element)
      (document.reader.meetsPatterns patterns element) [] := by
  induction patterns with
  | nil => exact .pure true
  | cons entry rest ih =>
      apply (yields_meetsPattern document element entry.1 entry.2).bind
      intro passes
      cases passes with
      | true => exact ih
      | false => exact .pure false

theorem yields_tagFits (selector : Selector) :
    Yields document (driver.reader.tagFits selector element)
      (document.reader.tagFits selector element) [] := by
  unfold ElementReader.tagFits
  split
  · exact .pure true
  · apply (yields_readTag document element).bind
    intro tag
    exact .pure _

theorem yields_typeFits (selector : Selector) :
    Yields document (driver.reader.typeFits selector element)
      (document.reader.typeFits selector element) [] := by
  unfold ElementReader.typeFits
  split
  · exact .pure true
  · apply (yields_readTag document element).bind
    intro tag
    split
    · apply (yields_readAttribute document element "type").bind
      intro value
      exact .pure _
    · exact .pure true

theorem yields_fits (selector : Selector) :
    Yields document (driver.reader.fits selector element)
      (document.reader.fits selector element) [] := by
  apply (yields_tagFits document element selector).bind
  intro passes
  cases passes with
  | true => exact yields_typeFits document element selector
  | false => exact .pure false

end Checks

/-! ## Scans -/

section Scans

variable {document : Document} {α : Type} {test : α → Work Document Bool}
  {verdict : α → Except Fault Bool}

theorem yields_firstThat (each : ∀ member, Yields document (test member) (verdict member) [])
    (members : List α) : Yields document (firstThat test members) (firstThat verdict members) [] := by
  induction members with
  | nil => exact .pure none
  | cons first rest ih =>
      apply (each first).bind
      intro passes
      cases passes with
      | true => exact .pure (some first)
      | false => exact ih

theorem yields_allThat (each : ∀ member, Yields document (test member) (verdict member) [])
    (members : List α) : Yields document (allThat test members) (allThat verdict members) [] := by
  induction members with
  | nil => exact .pure []
  | cons first rest ih =>
      exact (each first).bind fun passes => ih.bind fun others => .pure _

end Scans

theorem yields_labelTarget (document : Document) (pattern : Pattern) (labels : List Nat) :
    Yields document (driver.reader.labelTarget pattern labels)
      (document.reader.labelTarget pattern labels) [] := by
  induction labels with
  | nil => exact .pure LabelTarget.nowhere
  | cons label rest ih =>
      apply (yields_readText document label).bind
      intro text
      split
      · apply (yields_readAttribute document label "for").bind
        intro target
        cases target with
        | none => exact .pure _
        | some id => exact .pure _
      · exact ih

/-! ## What is sent -/

/-- The work adds these lookups to the record of a document. -/
def Sends {α : Type} (document : Document) (work : Work Document α) (calls : Calls) : Prop :=
  (work.run document).2.calls = document.calls ++ calls

theorem Yields.sends {α : Type} {document : Document} {work : Work Document α}
    {result : Except Fault α} {calls : Calls} (yields : Yields document work result calls) :
    document.Sends work calls := by
  have ran := yields document.calls
  exact congrArg (fun ran => ran.2.calls) ran

/-! ## Searches -/

/-- On a document the work comes to one result, with the same lookups whatever was looked up
before. -/
def Determined {α : Type} (document : Document) (work : Work Document α) : Prop :=
  ∃ result calls, Yields document work result calls

theorem Determined.bind {α β : Type} {document : Document} {work : Work Document α}
    {next : α → Work Document β} (first : Determined document work)
    (later : ∀ value, Determined document (next value)) : Determined document (work >>= next) := by
  obtain ⟨result, calls, yields⟩ := first
  cases result with
  | error fault => exact ⟨_, _, yields.bind_error⟩
  | ok value =>
      obtain ⟨outcome, others, later⟩ := later value
      exact ⟨_, _, yields.bind_ok later⟩

section Search

variable (document : Document) (root : Option Nat) (kind : ElementKind) (preferCss : Bool)

/-- The finder that searches a document. -/
def finder : Finder Document Nat := ⟨driver, root, kind, preferCss⟩

theorem determined_candidatesBelow (below : Option Nat) (criteria : Criteria)
    (patterns : List (Key × Pattern)) :
    Determined document ((finder root kind preferCss).candidatesBelow below criteria patterns) :=
  Determined.bind ⟨_, _, .ofExcept _⟩ fun _ => ⟨_, _, yields_findElements _ _ _ _⟩

/-- The candidates for criteria with patterns are known from the document. -/
theorem determined_candidates (criteria : Criteria) :
    Determined document ((finder root kind preferCss).candidates criteria) := by
  have chosen (below : Option Nat) (others : Criteria) (patterns : List (Key × Pattern)) :
      Determined document (do
        return (patterns, ← (finder root kind preferCss).candidatesBelow below others patterns)) :=
    (determined_candidatesBelow document root kind preferCss below others patterns).bind
      fun _ => ⟨_, _, .pure _⟩
  unfold Finder.candidates
  dsimp only
  split
  · exact chosen _ _ _
  · next label _ =>
      have resolved : Determined document
          ((finder root kind preferCss).driver.resolveLabel (finder root kind preferCss).root label) :=
        Determined.bind ⟨_, _, yields_findElements _ _ _ _⟩
          fun labels => ⟨_, _, yields_labelTarget _ _ labels⟩
      refine resolved.bind fun target => ?_
      cases target with
      | identified id => exact chosen _ _ _
      | inside label => exact chosen _ _ _
      | nowhere => exact ⟨_, _, .pure _⟩

theorem determined_firstLone (criterion : LoneCriterion) :
    Determined document ((finder root kind preferCss).firstLone criterion) := by
  cases criterion with
  | literal strategy text =>
      exact ⟨_, _, (yields_findElement document root strategy text).map some⟩
  | pattern key asked =>
      exact Determined.bind ⟨_, _, yields_findElements document root .xpath ".//*"⟩ fun found =>
        ⟨_, _, yields_firstThat (fun node => yields_meetsPattern document node key asked) found⟩

theorem determined_firstIdentified (selector : Selector) (id : String) :
    Determined document ((finder root kind preferCss).firstIdentified selector id) :=
  Determined.bind ⟨_, _, yields_findElement document root .id id⟩ fun element =>
    Determined.bind ⟨_, _, yields_tagFits document element selector⟩ fun passes => by
      cases passes with
      | true => exact ⟨_, _, .pure (some element)⟩
      | false => exact ⟨_, _, .pure none⟩

theorem determined_firstPlanned (criteria : Criteria) :
    Determined document ((finder root kind preferCss).firstPlanned criteria) := by
  unfold Finder.firstPlanned
  refine Determined.bind ⟨_, _, .ofExcept _⟩ fun _ => ?_
  refine Determined.bind ⟨_, _, .ofExcept _⟩ fun plan => ?_
  have chosen := determined_candidates document root kind preferCss criteria.withoutIndex
  cases plan with
  | exact query =>
      cases criteria.index? with
      | none => exact ⟨_, _, (yields_findElement document root query.strategy query.text).map some⟩
      | some position =>
          exact Determined.bind ⟨_, _, yields_findElements document root query.strategy query.text⟩
            fun found => ⟨_, _, .pure (pick found position)⟩
  | filtered =>
      cases criteria.index? with
      | none =>
          exact chosen.bind fun chosen => ⟨_, _, yields_firstThat
            (fun node => yields_meetsPatterns document node chosen.1) chosen.2⟩
      | some position =>
          have filtered := chosen.bind fun chosen => ⟨_, _, yields_allThat
            (fun node => yields_meetsPatterns document node chosen.1) chosen.2⟩
          exact filtered.bind fun found => ⟨_, _, .pure (pick found position)⟩

/-- What is located first is known from the document. -/
theorem determined_locate (selector : Selector) (criteria : Criteria) :
    Determined document ((finder root kind preferCss).locate selector criteria) := by
  unfold Finder.locate
  cases selector.identifier? with
  | some id => exact determined_firstIdentified document root kind preferCss selector id
  | none =>
      cases selector.lone? with
      | some criterion => exact determined_firstLone document root kind preferCss criterion
      | none => exact determined_firstPlanned document root kind preferCss criteria

end Search

end Document

end ElementSearch
