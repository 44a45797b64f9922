/-
# Work on a page

Work runs against a state, as that of a page or a browser, and may fail. What was done to
the state before a fault stays done.

A search talks to a page through a driver: it asks for elements below a root and reads
the elements it gets. Either may change the state of the page's side, if only by being
recorded there. What it gets it scans in order, with tests that may have effects and may
fail; whether every member is tested depends on what is looked for.
-/

import ElementSearch.Fault
import ElementSearch.Strategy

namespace ElementSearch

/-- Work against a state that may fail. -/
abbrev Work (σ : Type) := ExceptT Fault (StateM σ)

namespace Work

variable {σ α : Type}

/-- The outcome of work and the state it leaves. -/
def run (work : Work σ α) (state : σ) : Except Fault α × σ :=
  (ExceptT.run work).run state

/-- A result that may be a fault. -/
def ofExcept (result : Except Fault α) : Work σ α := ExceptT.mk (pure result)

/-- Read the state without changing it. -/
def read (reader : σ → Except Fault α) : Work σ α := do
  let state ← get
  ofExcept (reader state)

/-- Take a fault that means absence for the absence of a result. -/
def absent (work : Work σ (Option α)) : Work σ (Option α) :=
  ExceptT.mk do
    match ← ExceptT.run work with
    | .error fault => if fault.isAbsence then pure (.ok none) else pure (.error fault)
    | .ok found => pure (.ok found)

end Work

/-! ## Drivers -/

/-- How elements are read, by work of any sort. -/
structure ElementReader (m : Type → Type) (η : Type) where
  readTag : η → m String
  readAttribute : η → String → m (Option String)
  readText : η → m String

namespace ElementReader

/-- Read elements as a state has them, without changing it. -/
def ofState {σ η : Type} (reader : σ → ElementReader (Except Fault) η) :
    ElementReader (Work σ) η where
  readTag element := Work.read fun state => (reader state).readTag element
  readAttribute element name := Work.read fun state => (reader state).readAttribute element name
  readText element := Work.read fun state => (reader state).readText element

end ElementReader

/-- How a search asks a page for elements and reads them. A root of `none` is the page itself. -/
structure Driver (σ η : Type) where
  /-- The first match; it is a fault if there is none. -/
  findElement : Option η → Strategy → String → Work σ η
  /-- All matches in document order. -/
  findElements : Option η → Strategy → String → Work σ (List η)
  reader : ElementReader (Work σ) η

/-! ## Scans -/

section Scans

variable {m : Type → Type} [Monad m] {α : Type}

/-- The first member that passes a test; later ones are not tested. -/
def firstThat (test : α → m Bool) : List α → m (Option α)
  | [] => return none
  | first :: rest => do
      if ← test first then return some first
      else firstThat test rest

/-- The members that pass a test, in order. -/
def allThat (test : α → m Bool) : List α → m (List α)
  | [] => return []
  | first :: rest => do
      let passes ← test first
      let others ← allThat test rest
      return if passes then first :: others else others

end Scans

end ElementSearch
