/-
# Exchanges with a page

What a page is asked and what it answers can be noted beside the work that asks it. Work and its
noted twin come to the same result and leave the same state, and the notes tell what that result
can be: it fails as the first exchange that failed, and where the last lookup matches nothing it
is empty. Both are kept when pieces of work are put one after the other, as long as an empty result
is kept empty.
-/

import ElementSearch.Browser.Remote
import ElementSearch.Proofs.Search.Yields

namespace ElementSearch

variable {σ η α β : Type}

/-! ## Exchanges -/

/-- What a page is asked, and what it answers. A lookup of one match is answered by that match
alone. -/
inductive Exchange (η : Type)
  | lookup (root : Option η) (query : BrowserQuery) (answer : Except Refusal (List η))
  | attribute (element : η) (name : String) (answer : Except Refusal (Option String))
  | text (element : η) (answer : Except Refusal String)

namespace Exchange

def isLookup : Exchange η → Bool
  | .lookup _ _ _ => true
  | _ => false

/-- A lookup matches nothing. Browsers refuse it then. -/
def matchesNothing : Exchange η → Bool
  | .lookup _ _ (.error (.nothingFound _)) | .lookup _ _ (.ok []) => true
  | _ => false

/-- Why the exchange failed, if it did. A lookup that matches nothing has not. -/
def failure? : Exchange η → Option Refusal
  | .lookup _ _ (.error (.nothingFound _)) => none
  | .lookup _ _ (.error refusal) | .attribute _ _ (.error refusal) | .text _ (.error refusal) =>
      some refusal
  | _ => none

/-- The last lookup of a search. -/
def lastLookup? (exchanges : List (Exchange η)) : Option (Exchange η) :=
  exchanges.reverse.find? isLookup

theorem lastLookup?_append (earlier later : List (Exchange η)) :
    lastLookup? (earlier ++ later) = (lastLookup? later).or (lastLookup? earlier) := by
  rw [lastLookup?, List.reverse_append, List.find?_append]
  rfl

/-- Why the first exchange failed that did. -/
def firstFailure? (exchanges : List (Exchange η)) : Option Refusal :=
  exchanges.findSome? failure?

theorem firstFailure?_append (earlier later : List (Exchange η)) :
    firstFailure? (earlier ++ later) = (firstFailure? earlier).or (firstFailure? later) :=
  List.findSome?_append

end Exchange

open Exchange

/-! ## Notes -/

/-- The work, with a note of the exchange. -/
def RemoteWork.noting (exchange : Except Refusal α → Exchange η) (work : RemoteWork σ α) :
    RemoteWork (σ × List (Exchange η)) α :=
  ExceptT.mk fun (state, notes) =>
    let (answer, after) := (ExceptT.run work).run state
    (answer, after, notes ++ [exchange answer])

namespace RemoteWork

theorem run_orFault (work : RemoteWork σ α) (fault : Refusal → Fault) (state : σ) :
    Work.run (work.orFault fault) state =
      ((work.run.run state).1.mapError fault, (work.run.run state).2) := by
  obtain ⟨⟨refusal | value, after⟩, here⟩ : ∃ outcome, work.run.run state = outcome := ⟨_, rfl⟩
  · rw [Work.run, orFault, ExceptT.run_mk, StateT.run_bind, here]
    rfl
  · rw [Work.run, orFault, ExceptT.run_mk, StateT.run_bind, here]
    rfl

/-- An answer in which it is no refusal to find nothing. -/
def emptied : Except Refusal (List α) → Except Refusal (List α)
  | .error (.nothingFound _) => .ok []
  | answer => answer

theorem run_nothingIsEmpty (work : RemoteWork σ (List α)) (state : σ) :
    work.nothingIsEmpty.run.run state =
      (emptied (work.run.run state).1, (work.run.run state).2) := by
  obtain ⟨⟨refusal | found, after⟩, here⟩ : ∃ outcome, work.run.run state = outcome := ⟨_, rfl⟩
  · rw [nothingIsEmpty, ExceptT.run_tryCatch, StateT.run_bind, here]
    cases refusal with
    | nothingFound message => rfl
    | _ => rfl
  · rw [nothingIsEmpty, ExceptT.run_tryCatch, StateT.run_bind, here]
    rfl

end RemoteWork

/-- The page, with notes of what it is asked and answers. -/
def RemotePage.noted (page : RemotePage σ η) : RemotePage (σ × List (Exchange η)) η where
  first root query := (page.first root query).noting fun answer =>
    .lookup root query (answer.map fun found => [found])
  all root query := (page.all root query).noting (.lookup root query)
  tagOf := page.tagOf
  readAttribute element name := (page.readAttribute element name).noting (.attribute element name)
  readText element := (page.readText element).noting (.text element)

/-- Work and its noted twin come to the same and leave the same, and the exchanges that are noted
go together with the result in this form. -/
def Notes (form : List (Exchange η) → Except Fault α → Prop) (work : Work σ α)
    (noted : Work (σ × List (Exchange η)) α) : Prop :=
  ∀ state notes, ∃ result after exchanges, work.run state = (result, after) ∧
    noted.run (state, notes) = (result, after, notes ++ exchanges) ∧ form exchanges result

namespace Notes

variable {form : List (Exchange η) → Except Fault α → Prop} {work : Work σ α}
  {noted : Work (σ × List (Exchange η)) α}

theorem mono {weaker : List (Exchange η) → Except Fault α → Prop} (notes : Notes form work noted)
    (weakens : ∀ exchanges result, form exchanges result → weaker exchanges result) :
    Notes weaker work noted := by
  intro state before
  obtain ⟨result, after, exchanges, ran, recorded, formed⟩ := notes state before
  exact ⟨result, after, exchanges, ran, recorded, weakens exchanges result formed⟩

theorem pure (value : α) (formed : form [] (.ok value)) :
    Notes form (Pure.pure value : Work σ α) (Pure.pure value) := by
  intro state before
  refine ⟨.ok value, state, [], rfl, ?_, formed⟩
  rw [List.append_nil]
  rfl

theorem throw {fault : Fault} (formed : form [] (.error fault)) :
    Notes form (throw fault : Work σ α) (throw fault) := by
  intro state before
  refine ⟨.error fault, state, [], rfl, ?_, formed⟩
  rw [List.append_nil]
  rfl

/-- One exchange with the page. -/
theorem orFault {asked : RemoteWork σ α} {exchange : Except Refusal α → Exchange η}
    {fault : Refusal → Fault} (each : ∀ answer, form [exchange answer] (answer.mapError fault)) :
    Notes form (asked.orFault fault) ((asked.noting exchange).orFault fault) := by
  intro state before
  exact ⟨_, _, [exchange (asked.run.run state).1], asked.run_orFault fault state,
    (asked.noting exchange).run_orFault fault (state, before), each _⟩

/-- One lookup of all matches. -/
theorem nothingIsEmpty_orFault {asked : RemoteWork σ (List α)}
    {exchange : Except Refusal (List α) → Exchange η} {fault : Refusal → Fault}
    {form : List (Exchange η) → Except Fault (List α) → Prop}
    (each : ∀ answer, form [exchange answer] ((RemoteWork.emptied answer).mapError fault)) :
    Notes form (asked.nothingIsEmpty.orFault fault)
      ((asked.noting exchange).nothingIsEmpty.orFault fault) := by
  intro state before
  refine ⟨_, (asked.run.run state).2, [exchange (asked.run.run state).1], ?_, ?_, each _⟩
  · rw [RemoteWork.run_orFault, RemoteWork.run_nothingIsEmpty]
  · rw [RemoteWork.run_orFault, RemoteWork.run_nothingIsEmpty]
    rfl

theorem bind {first : List (Exchange η) → Except Fault α → Prop}
    {second : α → List (Exchange η) → Except Fault β → Prop}
    {form : List (Exchange η) → Except Fault β → Prop}
    {next : α → Work σ β} {notedNext : α → Work (σ × List (Exchange η)) β}
    (one : Notes first work noted)
    (other : ∀ value, Notes (second value) (next value) (notedNext value))
    (failed : ∀ exchanges fault, first exchanges (.error fault) → form exchanges (.error fault))
    (both : ∀ earlier value later result, first earlier (.ok value) → second value later result →
      form (earlier ++ later) result) :
    Notes form (work >>= next) (noted >>= notedNext) := by
  intro state before
  obtain ⟨fault | value, after, earlier, ran, recorded, formed⟩ := one state before
  · refine ⟨.error fault, after, earlier, ?_, ?_, failed earlier fault formed⟩
    · rw [Work.run_bind, ran]
    · rw [Work.run_bind, recorded]
  · obtain ⟨result, final, later, ranNext, recordedNext, formedNext⟩ :=
      other value after (before ++ earlier)
    refine ⟨result, final, earlier ++ later, ?_, ?_, both _ _ _ _ formed formedNext⟩
    · rw [Work.run_bind, ran]
      exact ranNext
    · rw [Work.run_bind, recorded, ← List.append_assoc]
      exact recordedNext

end Notes

/-! ## Failures -/

/-- The result is a fault if an exchange failed, and only then: that of the first that did. -/
def FailsAs (exchanges : List (Exchange η)) (result : Except Fault α) : Prop :=
  match firstFailure? exchanges with
  | none => ∃ value, result = .ok value
  | some refusal => result = .error refusal.readFault

theorem FailsAs.ok_iff {exchanges : List (Exchange η)} {value : α} :
    FailsAs exchanges (.ok value : Except Fault α) ↔ firstFailure? exchanges = none := by
  unfold FailsAs
  cases firstFailure? exchanges with
  | none => simp
  | some refusal => simp

theorem FailsAs.error_iff {exchanges : List (Exchange η)} {fault : Fault} :
    FailsAs exchanges (.error fault : Except Fault α) ↔
      ∃ refusal, firstFailure? exchanges = some refusal ∧ fault = refusal.readFault := by
  unfold FailsAs
  cases firstFailure? exchanges with
  | none => simp
  | some refusal => simp

theorem FailsAs.error_iff_exists {exchanges : List (Exchange η)} {result : Except Fault α}
    (fails : FailsAs exchanges result) :
    (∃ fault, result = .error fault) ↔
      ∃ exchange ∈ exchanges, exchange.failure?.isSome = true := by
  have first : (firstFailure? exchanges).isSome = true ↔
      ∃ exchange ∈ exchanges, exchange.failure?.isSome = true := by
    rw [firstFailure?, List.findSome?_isSome_iff]
  rw [← first]
  cases result with
  | ok value =>
      rw [FailsAs.ok_iff.1 fails]
      simp
  | error fault =>
      obtain ⟨refusal, failed, _⟩ := FailsAs.error_iff.1 fails
      rw [failed]
      simp

/-- What failed stays failed, and later exchanges count after earlier ones. -/
theorem FailsAs.append {earlier later : List (Exchange η)} {value : α} {result : Except Fault β}
    (first : FailsAs earlier (.ok value)) (second : FailsAs later result) :
    FailsAs (earlier ++ later) result := by
  unfold FailsAs
  rw [firstFailure?_append, FailsAs.ok_iff.1 first]
  exact second

theorem FailsAs.error {exchanges : List (Exchange η)} {fault : Fault}
    (failed : FailsAs exchanges (.error fault : Except Fault α)) :
    FailsAs exchanges (.error fault : Except Fault β) :=
  FailsAs.error_iff.2 (FailsAs.error_iff.1 failed)

/-- Nothing is looked up. -/
structure ReadsOnly (exchanges : List (Exchange η)) (result : Except Fault α) : Prop where
  lookupless : lastLookup? exchanges = none
  fails : FailsAs exchanges result

theorem ReadsOnly.lastLookup?_append {later : List (Exchange η)} {result : Except Fault α}
    (reads : ReadsOnly later result) (earlier : List (Exchange η)) :
    lastLookup? (earlier ++ later) = lastLookup? earlier := by
  rw [Exchange.lastLookup?_append, reads.lookupless]
  rfl

/-- Something is looked up, and if the last lookup matches nothing, the result is empty. -/
structure LooksUp (empty : α → Prop) (exchanges : List (Exchange η)) (result : Except Fault α) :
    Prop where
  looksUp : ∃ last, lastLookup? exchanges = some last ∧
    (last.matchesNothing = true → ∃ value, result = .ok value ∧ empty value)
  fails : FailsAs exchanges result

/-- What follows may look up more. If it does not, it has to keep an empty result empty. -/
theorem LooksUp.append {empty : α → Prop} {vacant : β → Prop} {earlier later : List (Exchange η)}
    {value : α} {result : Except Fault β} (first : LooksUp empty earlier (.ok value))
    (second : ReadsOnly later result ∨ LooksUp vacant later result)
    (kept : empty value → ∃ out, result = .ok out ∧ vacant out) :
    LooksUp vacant (earlier ++ later) result := by
  obtain ⟨⟨last, latest, ends⟩, fails⟩ := first
  rcases second with reads | ⟨⟨laterLast, laterLatest, laterEnds⟩, laterFails⟩
  · refine ⟨⟨last, (reads.lastLookup?_append earlier).trans latest, fun nothing => ?_⟩,
      fails.append reads.fails⟩
    obtain ⟨same, equal, nothingThere⟩ := ends nothing
    rw [← Except.ok.inj equal] at nothingThere
    exact kept nothingThere
  · refine ⟨⟨laterLast, ?_, laterEnds⟩, fails.append laterFails⟩
    rw [lastLookup?_append, laterLatest]
    rfl

/-- Something is looked up, and if the last lookup matches nothing, there is no result: none is
found, or that it is absent is a fault. -/
def Misses (exchanges : List (Exchange η)) (result : Except Fault (Option α)) : Prop :=
  ∃ last, lastLookup? exchanges = some last ∧
    (last.matchesNothing = true → Work.absorb result = .ok none)

theorem absorb_error_eq_iff {fault : Fault} :
    Work.absorb (.error fault : Except Fault (Option α)) = .ok none ↔ fault.isAbsence = true := by
  cases absent : fault.isAbsence with
  | true => simp [Work.absorb_of_absence absent]
  | false => simp [Work.absorb_of_not_absence absent]

theorem isAbsence_of_absorb {result : Except Fault (Option α)} {fault : Fault}
    (failed : Work.absorb result = .error fault) : fault.isAbsence = false := by
  cases result with
  | ok found => cases failed
  | error other =>
      cases absent : other.isAbsence with
      | true =>
          rw [Work.absorb_of_absence absent] at failed
          cases failed
      | false =>
          rw [Work.absorb_of_not_absence absent] at failed
          rw [← Except.error.inj failed]
          exact absent

theorem LooksUp.misses {exchanges : List (Exchange η)} {result : Except Fault (Option α)}
    (looksUp : LooksUp (· = none) exchanges result) : Misses exchanges result := by
  obtain ⟨⟨last, latest, ends⟩, _⟩ := looksUp
  refine ⟨last, latest, fun nothing => ?_⟩
  obtain ⟨_, rfl, rfl⟩ := ends nothing
  rfl

namespace Notes

variable {work : Work σ α} {noted : Work (σ × List (Exchange η)) α} {next : α → Work σ β}
  {notedNext : α → Work (σ × List (Exchange η)) β}

theorem reads_pure (value : α) :
    Notes (ReadsOnly (η := η)) (Pure.pure value : Work σ α) (Pure.pure value) :=
  .pure value ⟨rfl, value, rfl⟩

theorem reads_bind (one : Notes ReadsOnly work noted)
    (other : ∀ value, Notes ReadsOnly (next value) (notedNext value)) :
    Notes ReadsOnly (work >>= next) (noted >>= notedNext) := by
  apply one.bind other
  · rintro exchanges fault ⟨lookupless, fails⟩
    exact ⟨lookupless, fails.error⟩
  · rintro earlier value later result ⟨lookupless, fails⟩ reads
    exact ⟨(reads.lastLookup?_append earlier).trans lookupless, fails.append reads.fails⟩

/-- A check that is passed asks nothing. -/
theorem check {form : List (Exchange η) → Except Fault β → Prop} {result : Except Fault α}
    {value : α} (passed : result = .ok value)
    (later : Notes form (next value) (notedNext value)) :
    Notes form (Work.ofExcept result >>= next) (Work.ofExcept result >>= notedNext) := by
  rw [passed]
  exact later

/-- Work after which more may be looked up, but nothing where the result is already empty. -/
theorem looksUp_bind {empty : α → Prop} {vacant : β → Prop} (one : Notes (LooksUp empty) work noted)
    (other : ∀ value, Notes (fun exchanges result => ReadsOnly exchanges result ∨
      LooksUp vacant exchanges result) (next value) (notedNext value))
    (stops : ∀ value, empty value → ∃ out, vacant out ∧ next value = Pure.pure out ∧
      notedNext value = Pure.pure out) :
    Notes (LooksUp vacant) (work >>= next) (noted >>= notedNext) := by
  -- Only after an empty result it matters what the rest comes to.
  have kept : ∀ value, Notes (fun exchanges result =>
      (ReadsOnly exchanges result ∨ LooksUp vacant exchanges result) ∧
        (empty value → ∃ out, result = .ok out ∧ vacant out)) (next value) (notedNext value) := by
    intro value
    by_cases nothing : empty value
    · obtain ⟨out, none, stopped, notedStopped⟩ := stops value nothing
      rw [stopped, notedStopped]
      exact .pure out ⟨.inl ⟨rfl, out, rfl⟩, fun _ => ⟨out, rfl, none⟩⟩
    · exact (other value).mono fun _ _ formed => ⟨formed, fun there => absurd there nothing⟩
  apply one.bind kept
  · rintro exchanges fault ⟨⟨last, latest, ends⟩, fails⟩
    refine ⟨⟨last, latest, fun nothing => ?_⟩, fails.error⟩
    obtain ⟨value, equal, _⟩ := ends nothing
    cases equal
  · rintro earlier value later result first ⟨second, stopped⟩
    exact first.append second stopped

/-- Elements that were looked up are read. -/
theorem looksUp_bind_reads {empty : α → Prop} {vacant : β → Prop}
    (one : Notes (LooksUp empty) work noted)
    (other : ∀ value, Notes ReadsOnly (next value) (notedNext value))
    (stops : ∀ value, empty value → ∃ out, vacant out ∧ next value = Pure.pure out ∧
      notedNext value = Pure.pure out) :
    Notes (LooksUp vacant) (work >>= next) (noted >>= notedNext) :=
  looksUp_bind one (fun value => (other value).mono fun _ _ => .inl) stops

/-- Elements that were looked up are read, and without them there is no result. -/
theorem misses_of_looksUp {empty : α → Prop} {next : α → Work σ (Option β)}
    {notedNext : α → Work (σ × List (Exchange η)) (Option β)}
    (one : Notes (LooksUp empty) work noted)
    (other : ∀ value, Notes ReadsOnly (next value) (notedNext value))
    (stops : ∀ value, empty value →
      next value = Pure.pure none ∧ notedNext value = Pure.pure none) :
    Notes Misses (work >>= next) (noted >>= notedNext) := by
  have looksUp : Notes (LooksUp (· = none)) (work >>= next) (noted >>= notedNext) :=
    one.looksUp_bind_reads other fun value nothing => ⟨none, rfl, stops value nothing⟩
  exact looksUp.mono fun _ _ => LooksUp.misses

/-- Elements that were looked up are read, unless there are none. -/
theorem misses_bind {work : Work σ (Option α)} {noted : Work (σ × List (Exchange η)) (Option α)}
    {next : Option α → Work σ (Option β)}
    {notedNext : Option α → Work (σ × List (Exchange η)) (Option β)}
    (one : Notes Misses work noted)
    (other : ∀ value, Notes ReadsOnly (next value) (notedNext value))
    (stops : next none = Pure.pure none) (notedStops : notedNext none = Pure.pure none) :
    Notes Misses (work >>= next) (noted >>= notedNext) := by
  have kept : ∀ value, Notes (fun exchanges result =>
      ReadsOnly exchanges result ∧ (value = none → result = .ok none))
      (next value) (notedNext value) := by
    intro value
    cases value with
    | none =>
        rw [stops, notedStops]
        exact .pure none ⟨⟨rfl, none, rfl⟩, fun _ => rfl⟩
    | some value => exact (other _).mono fun _ _ reads => ⟨reads, fun there => by cases there⟩
  apply one.bind kept
  · rintro exchanges fault ⟨last, latest, ends⟩
    refine ⟨last, latest, fun nothing => ?_⟩
    exact absorb_error_eq_iff.2 (absorb_error_eq_iff.1 (ends nothing))
  · rintro earlier value later result ⟨last, latest, ends⟩ ⟨reads, stopped⟩
    refine ⟨last, (reads.lastLookup?_append earlier).trans latest, fun nothing => ?_⟩
    rw [stopped (Except.ok.inj (ends nothing))]
    rfl

/-- Where there is no result, absence is no fault. -/
theorem misses_absent {work : Work σ (Option α)} {noted : Work (σ × List (Exchange η)) (Option α)}
    (one : Notes Misses work noted) :
    Notes (fun exchanges result => (∀ fault, result = .error fault → fault.isAbsence = false) ∧
      ∃ last, lastLookup? exchanges = some last ∧ (last.matchesNothing = true → result = .ok none))
      work.absent noted.absent := by
  intro state before
  obtain ⟨result, after, exchanges, ran, recorded, missed⟩ := one state before
  refine ⟨Work.absorb result, after, exchanges, ?_, ?_, fun _ => isAbsence_of_absorb, missed⟩
  · rw [Work.run_absent, ran]
  · rw [Work.run_absent, recorded]

end Notes

end ElementSearch
