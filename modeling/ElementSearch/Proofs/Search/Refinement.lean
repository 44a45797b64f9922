/-
# One match and all matches

A search for one match stops where it is found, while a search for all of them goes on, so
the two do not even read the same elements. Still the first search is known from the
second: it finds the first of all, and it fails as they do, unless the fault is the
absence of an element that only one of them came across.
-/

import ElementSearch.Proofs.Search.Yields
import ElementSearch.Proofs.Selector.Normalize

namespace ElementSearch

/-- The result fails only by absence, if it fails. -/
def FailsByAbsence {α : Type} (result : Except Fault α) : Prop :=
  ∀ fault, result = .error fault → fault.isAbsence = true

theorem FailsByAbsence.ok {α : Type} (value : α) : FailsByAbsence (.ok value) := by
  intro fault failed
  cases failed

theorem FailsByAbsence.bind {α β : Type} {result : Except Fault α} {next : α → Except Fault β}
    (first : FailsByAbsence result) (later : ∀ value, FailsByAbsence (next value)) :
    FailsByAbsence (result >>= next) := by
  cases result with
  | error fault =>
      intro other failed
      obtain rfl := Except.error.inj failed
      exact first fault rfl
  | ok value => exact later value

/-! ## Scans -/

section Scans

variable {α : Type} {test : α → Except Fault Bool} {members : List α}

/-- A scan of all members that succeeds tests the first one and scans the rest. -/
theorem exists_of_allThat_cons {first : α} {passed : List α}
    (all : allThat test (first :: members) = .ok passed) :
    ∃ passes others, test first = .ok passes ∧ allThat test members = .ok others ∧
      passed = if passes then first :: others else others := by
  rw [allThat] at all
  cases here : test first with
  | error fault =>
      rw [here] at all
      cases all
  | ok passes =>
      rw [here] at all
      cases later : allThat test members with
      | error fault => simp [later, bind, Except.bind] at all
      | ok others =>
          simp only [later, bind, Except.bind, pure, Except.pure, Except.ok.injEq] at all
          exact ⟨passes, others, rfl, rfl, all.symm⟩

/-- The first member that passes is the first of all that pass. -/
theorem firstThat_of_allThat {passed : List α} (all : allThat test members = .ok passed) :
    firstThat test members = .ok passed.head? := by
  induction members generalizing passed with
  | nil =>
      obtain rfl := Except.ok.inj all
      rfl
  | cons first rest ih =>
      obtain ⟨passes, others, here, later, rfl⟩ := exists_of_allThat_cons all
      rw [firstThat, here]
      cases passes with
      | true => rfl
      | false => exact ih later

/-- What a scan of all members gives has passed the test. -/
theorem passed_of_mem_allThat {passed : List α} (all : allThat test members = .ok passed) :
    ∀ member ∈ passed, test member = .ok true := by
  induction members generalizing passed with
  | nil =>
      obtain rfl := Except.ok.inj all
      exact List.forall_mem_nil _
  | cons first rest ih =>
      obtain ⟨passes, others, here, later, rfl⟩ := exists_of_allThat_cons all
      cases passes with
      | true => exact List.forall_mem_cons.2 ⟨here, ih later⟩
      | false => exact ih later

/-- A scan of all members fails only by absence if the test does. -/
theorem failsByAbsence_allThat (each : ∀ member, FailsByAbsence (test member)) :
    FailsByAbsence (allThat test members) := by
  induction members with
  | nil => exact .ok []
  | cons first rest ih => exact (each first).bind fun passes => ih.bind fun others => .ok _

end Scans

namespace Document

/-! ## Agreement -/

/-- What looking for one match comes to, beside what looking for all of them does. -/
structure Agrees (one : Except Fault (Option Nat)) (all : Except Fault (List Nat)) : Prop where
  /-- It finds the first of them. -/
  found : ∀ found, all = .ok found → Work.absorb one = .ok found.head?
  /-- It fails as they do, unless that means absence. -/
  failed : ∀ fault, all = .error fault → fault.isAbsence = false → one = .error fault

/-- On a document, looking for one match agrees with looking for all of them. -/
def Refines (document : Document) (one : Work Document (Option Nat))
    (all : Work Document (List Nat)) : Prop :=
  ∃ first every oneCalls allCalls, Yields document one first oneCalls ∧
    Yields document all every allCalls ∧ Agrees first every

theorem Agrees.error (fault : Fault) : Agrees (.error fault) (.error fault) where
  found := by
    intro found succeeded
    cases succeeded
  failed := by
    intro other failed _
    obtain rfl := Except.error.inj failed
    rfl

/-- The search for all matches is known from the document. -/
theorem Refines.determined {document : Document} {one : Work Document (Option Nat)}
    {all : Work Document (List Nat)} (refines : Refines document one all) :
    Determined document all := by
  obtain ⟨_, every, _, calls, _, yields, _⟩ := refines
  exact ⟨every, calls, yields⟩

/-- The two searches may begin with the same work. -/
theorem Refines.bind {α : Type} {document : Document} {work : Work Document α}
    {one : α → Work Document (Option Nat)} {all : α → Work Document (List Nat)}
    (shared : Determined document work) (later : ∀ value, Refines document (one value) (all value)) :
    Refines document (work >>= one) (work >>= all) := by
  obtain ⟨result, calls, yields⟩ := shared
  cases result with
  | error fault => exact ⟨_, _, _, _, yields.bind_error, yields.bind_error, .error fault⟩
  | ok value =>
      obtain ⟨first, every, _, _, yieldsOne, yieldsAll, agrees⟩ := later value
      exact ⟨first, every, _, _, yields.bind_ok yieldsOne, yields.bind_ok yieldsAll, agrees⟩

/-- A lookup of one element agrees with the lookup of all. -/
theorem refines_findElement (document : Document) (root : Option Nat) (strategy : Strategy)
    (value : String) :
    Refines document (some <$> findElement root strategy value)
      (findElements root strategy value) := by
  refine ⟨_, _, _, _, (yields_findElement document root strategy value).map some,
    yields_findElements document root strategy value, ?_⟩
  cases document.answer root strategy value with
  | error fault => exact .error fault
  | ok found =>
      refine ⟨fun members same => ?_, fun fault failed => ?_⟩
      · obtain rfl := Except.ok.inj same
        cases found with
        | nil => rfl
        | cons first rest => rfl
      · cases failed

/-- A scan that stops agrees with one that goes on, where the test fails only by absence. -/
theorem refines_firstThat {document : Document} {test : Nat → Work Document Bool}
    {verdict : Nat → Except Fault Bool}
    (each : ∀ node, Yields document (test node) (verdict node) [])
    (live : ∀ node, FailsByAbsence (verdict node)) (nodes : List Nat) :
    Refines document (firstThat test nodes) (allThat test nodes) := by
  refine ⟨_, _, _, _, yields_firstThat each nodes, yields_allThat each nodes, ?_, ?_⟩
  · intro passed all
    rw [firstThat_of_allThat all]
    rfl
  · intro fault failed present
    -- The scan of all members may meet a stale one that the other does not reach.
    have absent := failsByAbsence_allThat live fault failed
    rw [present] at absent
    cases absent

/-! ## Reading elements -/

section Reading

variable (document : Document)

/-- Elements can be read unless they are stale. -/
theorem failsByAbsence_readElement {α : Type} (part : Element → α) (node : Nat) :
    FailsByAbsence (document.readElement part node) := by
  intro fault failed
  unfold readElement checkLive at failed
  split at failed
  · obtain rfl := Except.error.inj failed
    rfl
  · cases failed

theorem failsByAbsence_fetch (node : Nat) (key : Key) :
    FailsByAbsence (document.reader.fetch node key) := by
  cases key with
  | tagName =>
      apply (failsByAbsence_readElement document Element.tag node).bind
      intro tag
      exact .ok _
  | text =>
      apply (failsByAbsence_readElement document Element.text node).bind
      intro text
      exact .ok _
  | className => exact failsByAbsence_readElement document (·.attribute? "class") node
  | label => exact failsByAbsence_readElement document (·.attribute? "label") node
  | attr name free =>
      unfold ElementReader.fetch
      dsimp only
      split
      · exact (failsByAbsence_readElement document (·.attribute? "href") node).bind
          fun value => .ok _
      · exact failsByAbsence_readElement document (·.attribute? _) node
  | _ => exact .ok none

theorem failsByAbsence_meetsPattern (key : Key) (pattern : Pattern) (node : Nat) :
    FailsByAbsence (document.reader.meetsPattern key pattern node) :=
  (failsByAbsence_fetch document node key).bind fun _ => .ok _

theorem failsByAbsence_meetsPatterns (patterns : List (Key × Pattern)) (node : Nat) :
    FailsByAbsence (document.reader.meetsPatterns patterns node) := by
  induction patterns with
  | nil => exact .ok true
  | cons entry rest ih =>
      apply (failsByAbsence_meetsPattern document entry.1 entry.2 node).bind
      intro passes
      cases passes with
      | true => exact ih
      | false => exact .ok false

end Reading

/-! ## Searches -/

section Search

variable (document : Document) (root : Option Nat) (kind : ElementKind) (preferCss : Bool)

/-- A lone criterion. -/
theorem refines_firstLone (criterion : LoneCriterion) :
    Refines document ((finder root kind preferCss).firstLone criterion)
      ((finder root kind preferCss).allLone criterion) := by
  cases criterion with
  | literal strategy text => exact refines_findElement document root strategy text
  | pattern key asked =>
      exact Refines.bind ⟨_, _, yields_findElements document root .xpath ".//*"⟩
        (refines_firstThat (fun node => yields_meetsPattern document node key asked)
          (failsByAbsence_meetsPattern document key asked))

/-- Criteria with patterns. -/
theorem refines_firstFiltered (criteria : Criteria) :
    Refines document ((finder root kind preferCss).firstFiltered criteria)
      ((finder root kind preferCss).allFiltered criteria) :=
  Refines.bind (determined_candidates document root kind preferCss criteria)
    fun chosen => refines_firstThat (fun node => yields_meetsPatterns document node chosen.1)
      (failsByAbsence_meetsPatterns document chosen.1) chosen.2

/-- Planned criteria without a position. -/
theorem refines_firstPlanned {criteria : Criteria} (absent : criteria.contains .index = false) :
    Refines document ((finder root kind preferCss).firstPlanned criteria)
      ((finder root kind preferCss).allPlanned criteria) := by
  have unplaced : criteria.index? = none := by
    rw [OrderedMap.contains_eq_false_iff] at absent
    rw [Criteria.index?, absent]
  have kept : criteria.withoutIndex = criteria := OrderedMap.erase_of_absent absent
  unfold Finder.firstPlanned Finder.allPlanned
  rw [unplaced, kept]
  refine Refines.bind ⟨_, _, .ofExcept _⟩ fun _ => Refines.bind ⟨_, _, .ofExcept _⟩ fun plan => ?_
  cases plan with
  | exact query => exact refines_findElement document root query.strategy query.text
  | filtered => exact refines_firstFiltered document root kind preferCss criteria

end Search

end Document

end ElementSearch
