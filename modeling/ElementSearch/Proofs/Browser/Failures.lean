/-
# Failures of a page

A search that matches nothing has no result, but it does not fail. Every other refusal of the page
ends a search for all matches in the fault that the refusal means, and a search for one match too,
unless it says that an element is gone.
-/

import ElementSearch.Browser.Settings
import ElementSearch.Proofs.Browser.Exchanges
import ElementSearch.Proofs.Search.Checks

namespace ElementSearch

open Exchange

variable {σ η α β : Type}

theorem not_failsByPage_of_isRefusal {fault : Fault} (refusal : fault.isRefusal = true) :
    ¬ FailsByPage (.error fault : Except Fault α) := by
  intro page
  have selector : fault.isSelectorFault = true := by
    cases fault with
    | invalidValue key expected => rfl
    | unsupportedAttribute name kind => rfl
    | conflictingStrategy reason => rfl
    | indexForAll => rfl
    | _ => cases refusal
  rw [page fault rfl] at selector
  cases selector

theorem Refusal.readFault_ne_noSuchElement (refusal : Refusal) (lookup : String) :
    refusal.readFault ≠ .noSuchElement lookup := by
  unfold readFault
  split
  · exact Fault.noConfusion
  · exact Fault.noConfusion

/-! ## Reading -/

section Reading

variable (page : RemotePage σ η)

theorem reads_readTag (element : η) :
    Notes ReadsOnly (page.reader.readTag element) (page.noted.reader.readTag element) :=
  .reads_pure _

theorem reads_readAttribute (element : η) (name : String) :
    Notes ReadsOnly (page.reader.readAttribute element name)
      (page.noted.reader.readAttribute element name) := by
  apply Notes.orFault
  intro answer
  cases answer with
  | ok value => exact ⟨rfl, FailsAs.ok_iff.2 rfl⟩
  | error refusal => exact ⟨rfl, FailsAs.error_iff.2 ⟨refusal, rfl, rfl⟩⟩

theorem reads_readText (element : η) :
    Notes ReadsOnly (page.reader.readText element) (page.noted.reader.readText element) := by
  apply Notes.orFault
  intro answer
  cases answer with
  | ok value => exact ⟨rfl, FailsAs.ok_iff.2 rfl⟩
  | error refusal => exact ⟨rfl, FailsAs.error_iff.2 ⟨refusal, rfl, rfl⟩⟩

theorem reads_fetch (key : Key) (element : η) :
    Notes ReadsOnly (page.reader.fetch element key) (page.noted.reader.fetch element key) := by
  unfold ElementReader.fetch
  cases key with
  | text => exact (reads_readText page element).reads_bind fun _ => .reads_pure _
  | tagName => exact (reads_readTag page element).reads_bind fun _ => .reads_pure _
  | className => exact reads_readAttribute page element "class"
  | label => exact reads_readAttribute page element "label"
  | attr name form =>
      dsimp only
      split
      · exact (reads_readAttribute page element "href").reads_bind fun _ => .reads_pure _
      · exact reads_readAttribute page element _
  | _ => exact .reads_pure none

theorem reads_meetsPattern (key : Key) (pattern : Pattern) (element : η) :
    Notes ReadsOnly (page.reader.meetsPattern key pattern element)
      (page.noted.reader.meetsPattern key pattern element) :=
  (reads_fetch page key element).reads_bind fun _ => .reads_pure _

theorem reads_meetsPatterns (patterns : List (Key × Pattern)) (element : η) :
    Notes ReadsOnly (page.reader.meetsPatterns patterns element)
      (page.noted.reader.meetsPatterns patterns element) := by
  induction patterns with
  | nil => exact .reads_pure true
  | cons first rest ih =>
      apply (reads_meetsPattern page first.1 first.2 element).reads_bind
      intro passes
      cases passes with
      | true => exact ih
      | false => exact .reads_pure false

theorem reads_tagFits (selector : Selector) (element : η) :
    Notes ReadsOnly (page.reader.tagFits selector element)
      (page.noted.reader.tagFits selector element) := by
  unfold ElementReader.tagFits
  split
  · exact .reads_pure true
  · exact (reads_readTag page element).reads_bind fun _ => .reads_pure _

theorem reads_typeFits (selector : Selector) (element : η) :
    Notes ReadsOnly (page.reader.typeFits selector element)
      (page.noted.reader.typeFits selector element) := by
  unfold ElementReader.typeFits
  split
  · exact .reads_pure true
  · apply (reads_readTag page element).reads_bind
    intro tag
    split
    · exact (reads_readAttribute page element "type").reads_bind fun _ => .reads_pure _
    · exact .reads_pure true

theorem reads_fits (selector : Selector) (element : η) :
    Notes ReadsOnly (page.reader.fits selector element)
      (page.noted.reader.fits selector element) := by
  apply (reads_tagFits page selector element).reads_bind
  intro passes
  cases passes with
  | true => exact reads_typeFits page selector element
  | false => exact .reads_pure false

theorem reads_firstThat {test : η → Work σ Bool} {notedTest : η → Work (σ × List (Exchange η)) Bool}
    (each : ∀ element, Notes ReadsOnly (test element) (notedTest element)) (found : List η) :
    Notes ReadsOnly (firstThat test found) (firstThat notedTest found) := by
  induction found with
  | nil => exact .reads_pure none
  | cons first rest ih =>
      apply (each first).reads_bind
      intro passes
      cases passes with
      | true => exact .reads_pure (some first)
      | false => exact ih

theorem reads_allThat {test : η → Work σ Bool} {notedTest : η → Work (σ × List (Exchange η)) Bool}
    (each : ∀ element, Notes ReadsOnly (test element) (notedTest element)) (found : List η) :
    Notes ReadsOnly (allThat test found) (allThat notedTest found) := by
  induction found with
  | nil => exact .reads_pure []
  | cons first rest ih =>
      exact (each first).reads_bind fun _ => ih.reads_bind fun _ => .reads_pure _

theorem reads_labelTarget (label : Pattern) (labels : List η) :
    Notes ReadsOnly (page.reader.labelTarget label labels)
      (page.noted.reader.labelTarget label labels) := by
  induction labels with
  | nil => exact .reads_pure LabelTarget.nowhere
  | cons first rest ih =>
      apply (reads_readText page first).reads_bind
      intro text
      split
      · apply (reads_readAttribute page first "for").reads_bind
        intro id
        cases id with
        | none => exact .reads_pure _
        | some id => exact .reads_pure _
      · exact ih

end Reading

/-! ## Looking up -/

section LookingUp

variable (page : RemotePage σ η) (root : Option η)

theorem looksUp_findElements (strategy : Strategy) (value : String) :
    Notes (LooksUp (· = [])) (page.driver.findElements root strategy value)
      (page.noted.driver.findElements root strategy value) := by
  apply Notes.nothingIsEmpty_orFault
  intro answer
  cases answer with
  | ok found =>
      refine ⟨⟨_, rfl, fun nothing => ⟨found, rfl, ?_⟩⟩, FailsAs.ok_iff.2 rfl⟩
      cases found with
      | nil => rfl
      | cons first rest => cases nothing
  | error refusal =>
      cases refusal with
      | nothingFound message => exact ⟨⟨_, rfl, fun _ => ⟨[], rfl, rfl⟩⟩, FailsAs.ok_iff.2 rfl⟩
      | _ => exact ⟨⟨_, rfl, fun nothing => by cases nothing⟩, FailsAs.error_iff.2 ⟨_, rfl, rfl⟩⟩

/-- An element that was looked up is read. That there is none is a fault here. -/
theorem misses_findElement_bind (strategy : Strategy) (value : String)
    {next : η → Work σ (Option β)} {notedNext : η → Work (σ × List (Exchange η)) (Option β)}
    (other : ∀ element, Notes ReadsOnly (next element) (notedNext element)) :
    Notes Misses (page.driver.findElement root strategy value >>= next)
      (page.noted.driver.findElement root strategy value >>= notedNext) := by
  have one : Notes (fun exchanges result => ∃ last, lastLookup? exchanges = some last ∧
      (last.matchesNothing = true → ∃ fault, result = .error fault ∧ fault.isAbsence = true))
      (page.driver.findElement root strategy value)
      (page.noted.driver.findElement root strategy value) := by
    show Notes _ ((page.first root (.ofLookup strategy value)).orFault _)
      (((page.first root (.ofLookup strategy value)).noting fun answer =>
        .lookup root (.ofLookup strategy value) (answer.map fun found => [found])).orFault _)
    apply Notes.orFault
    intro answer
    cases answer with
    | ok found => exact ⟨_, rfl, fun nothing => by cases nothing⟩
    | error refusal =>
        cases refusal with
        | nothingFound message => exact ⟨_, rfl, fun _ => ⟨_, rfl, rfl⟩⟩
        | _ => exact ⟨_, rfl, fun nothing => by cases nothing⟩
  apply one.bind other
  · rintro exchanges fault ⟨last, latest, ends⟩
    refine ⟨last, latest, fun nothing => ?_⟩
    obtain ⟨_, same, absent⟩ := ends nothing
    rw [← Except.error.inj same] at absent
    exact absorb_error_eq_iff.2 absent
  · rintro earlier value later result ⟨last, latest, ends⟩ reads
    refine ⟨last, (reads.lastLookup?_append earlier).trans latest, fun nothing => ?_⟩
    obtain ⟨_, failed, _⟩ := ends nothing
    cases failed

theorem looksUp_resolveLabel (label : Pattern) :
    Notes (LooksUp (· = .nowhere)) (page.driver.resolveLabel root label)
      (page.noted.driver.resolveLabel root label) := by
  apply (looksUp_findElements page root .tagName "label").looksUp_bind_reads
    (reads_labelTarget page label)
  rintro _ rfl
  exact ⟨.nowhere, rfl, rfl, rfl⟩

end LookingUp

/-! ## Searching -/

namespace RemotePage

/-- The finder for elements of a page. -/
def finder (page : RemotePage σ η) (root : Option η) (kind : ElementKind) (preferCss : Bool) :
    Finder σ η :=
  ⟨page.driver, root, kind, preferCss⟩

end RemotePage

section Searching

variable (page : RemotePage σ η) (root : Option η) (kind : ElementKind) (preferCss : Bool)

theorem looksUp_candidatesBelow {criteria : Criteria} (unplaced : criteria.contains .index = false)
    (plain : criteria.hasPattern = false) (below : Option η) (patterns : List (Key × Pattern)) :
    Notes (LooksUp (· = []))
      ((page.finder root kind preferCss).candidatesBelow below criteria patterns)
      ((page.noted.finder root kind preferCss).candidatesBelow below criteria patterns) := by
  obtain ⟨query, built⟩ := Criteria.exists_exactQuery kind preferCss unplaced plain
  exact Notes.check built (looksUp_findElements page below _ _)

/-- No candidates are left where the last lookup matches nothing. -/
theorem looksUp_candidates {criteria : Criteria} (unplaced : criteria.contains .index = false) :
    Notes (LooksUp (·.2 = [])) ((page.finder root kind preferCss).candidates criteria)
      ((page.noted.finder root kind preferCss).candidates criteria) := by
  have below (target : Option (LabelTarget η)) (place : Option η) (patterns : List (Key × Pattern))
      (checked : List (Key × Pattern)) : Notes (LooksUp (·.2 = []))
        (do return (checked, ← (page.finder root kind preferCss).candidatesBelow place
          (criteria.residue target) patterns))
        (do return (checked, ← (page.noted.finder root kind preferCss).candidatesBelow place
          (criteria.residue target) patterns)) := by
    apply (looksUp_candidatesBelow page root kind preferCss
      (Criteria.contains_index_residue target unplaced) (Criteria.hasPattern_residue target)
      place patterns).looksUp_bind_reads fun _ => .reads_pure _
    rintro _ rfl
    exact ⟨_, rfl, rfl, rfl⟩
  have alike : (page.noted.finder root kind preferCss).labelPattern? criteria.patterns =
      (page.finder root kind preferCss).labelPattern? criteria.patterns := rfl
  unfold Finder.candidates
  dsimp only
  rw [alike]
  cases (page.finder root kind preferCss).labelPattern? criteria.patterns with
  | none => exact below none root _ _
  | some label =>
      apply (looksUp_resolveLabel page root label).looksUp_bind
      · intro target
        cases target with
        | identified id => exact (below (some (.identified id)) root _ _).mono fun _ _ => .inr
        | inside place => exact (below (some (.inside place)) (some place) _ _).mono fun _ _ => .inr
        | nowhere => exact (Notes.reads_pure _).mono fun _ _ => .inl
      · rintro _ rfl
        exact ⟨_, rfl, rfl, rfl⟩

section Filtered

variable {criteria : Criteria}

theorem misses_firstFiltered (unplaced : criteria.contains .index = false) :
    Notes Misses ((page.finder root kind preferCss).firstFiltered criteria)
      ((page.noted.finder root kind preferCss).firstFiltered criteria) := by
  apply (looksUp_candidates page root kind preferCss unplaced).misses_of_looksUp
  · rintro ⟨patterns, found⟩
    exact reads_firstThat (reads_meetsPatterns page patterns) found
  · rintro ⟨patterns, _⟩ rfl
    exact ⟨rfl, rfl⟩

theorem looksUp_allFiltered (unplaced : criteria.contains .index = false) :
    Notes (LooksUp (· = [])) ((page.finder root kind preferCss).allFiltered criteria)
      ((page.noted.finder root kind preferCss).allFiltered criteria) := by
  apply (looksUp_candidates page root kind preferCss unplaced).looksUp_bind_reads
  · rintro ⟨patterns, found⟩
    exact reads_allThat (reads_meetsPatterns page patterns) found
  · rintro ⟨patterns, _⟩ rfl
    exact ⟨[], rfl, rfl, rfl⟩

end Filtered

theorem misses_pick {work : Work σ (List η)} {noted : Work (σ × List (Exchange η)) (List η)}
    (looksUp : Notes (LooksUp (· = [])) work noted) (position : Int64) :
    Notes Misses (do return pick (← work) position) (do return pick (← noted) position) := by
  apply looksUp.misses_of_looksUp fun _ => .reads_pure _
  rintro _ rfl
  rw [pick_nil]
  exact ⟨rfl, rfl⟩

theorem misses_firstLone (criterion : LoneCriterion) :
    Notes Misses ((page.finder root kind preferCss).firstLone criterion)
      ((page.noted.finder root kind preferCss).firstLone criterion) := by
  cases criterion with
  | literal strategy text =>
      exact misses_findElement_bind page root strategy text fun _ => .reads_pure _
  | pattern key asked =>
      apply (looksUp_findElements page root .xpath ".//*").misses_of_looksUp
        (reads_firstThat (reads_meetsPattern page key asked))
      rintro _ rfl
      exact ⟨rfl, rfl⟩

theorem looksUp_allLone (criterion : LoneCriterion) :
    Notes (LooksUp (· = [])) ((page.finder root kind preferCss).allLone criterion)
      ((page.noted.finder root kind preferCss).allLone criterion) := by
  cases criterion with
  | literal strategy text => exact looksUp_findElements page root strategy text
  | pattern key asked =>
      apply (looksUp_findElements page root .xpath ".//*").looksUp_bind_reads
        (reads_allThat (reads_meetsPattern page key asked))
      rintro _ rfl
      exact ⟨[], rfl, rfl, rfl⟩

theorem misses_firstIdentified (selector : Selector) (id : String) :
    Notes Misses ((page.finder root kind preferCss).firstIdentified selector id)
      ((page.noted.finder root kind preferCss).firstIdentified selector id) := by
  apply misses_findElement_bind page root .id id
  intro element
  apply (reads_tagFits page selector element).reads_bind
  intro passes
  cases passes with
  | true => exact .reads_pure (some element)
  | false => exact .reads_pure none

section Planned

variable {criteria : Criteria} {plan : Plan}

theorem misses_firstPlanned
    (chosen : (page.finder root kind preferCss).choosePlan criteria = .ok plan) :
    Notes Misses ((page.finder root kind preferCss).firstPlanned criteria)
      ((page.noted.finder root kind preferCss).firstPlanned criteria) := by
  obtain ⟨linkless, planned⟩ := (Finder.choosePlan_eq_ok_iff _).1 chosen
  have unplaced := Criteria.contains_index_withoutIndex criteria
  apply Notes.check linkless
  apply Notes.check planned
  cases criteria.index? with
  | none =>
      cases plan with
      | exact query => exact misses_findElement_bind page root _ _ fun _ => .reads_pure _
      | filtered => exact misses_firstFiltered page root kind preferCss unplaced
  | some position =>
      cases plan with
      | exact query => exact misses_pick (looksUp_findElements page root _ _) position
      | filtered =>
          exact misses_pick (looksUp_allFiltered page root kind preferCss unplaced) position

theorem looksUp_allPlanned (unplaced : criteria.contains .index = false)
    (chosen : (page.finder root kind preferCss).choosePlan criteria = .ok plan) :
    Notes (LooksUp (· = [])) ((page.finder root kind preferCss).allPlanned criteria)
      ((page.noted.finder root kind preferCss).allPlanned criteria) := by
  obtain ⟨linkless, planned⟩ := (Finder.choosePlan_eq_ok_iff _).1 chosen
  have kept : criteria.withoutIndex = criteria := OrderedMap.erase_of_absent unplaced
  rw [kept] at planned
  apply Notes.check linkless
  apply Notes.check planned
  cases plan with
  | exact query => exact looksUp_findElements page root _ _
  | filtered => exact looksUp_allFiltered page root kind preferCss unplaced

end Planned

variable {selector : Selector}

theorem misses_locate {criteria : Criteria}
    (planned : selector.lone? = none →
      ∃ plan, (page.finder root kind preferCss).choosePlan criteria = .ok plan) :
    Notes Misses ((page.finder root kind preferCss).locate selector criteria)
      ((page.noted.finder root kind preferCss).locate selector criteria) := by
  unfold Finder.locate
  cases selector.identifier? with
  | some id => exact misses_firstIdentified page root kind preferCss selector id
  | none =>
      cases lone : selector.lone? with
      | some criterion => exact misses_firstLone page root kind preferCss criterion
      | none =>
          obtain ⟨plan, chosen⟩ := planned lone
          exact misses_firstPlanned page root kind preferCss chosen

/-- What is noted of a search for one match whose selector is not refused. -/
theorem notes_find_of_check (passed : (page.finder root kind preferCss).check selector = .ok ()) :
    Notes (fun exchanges result => (∀ fault, result = .error fault → fault.isAbsence = false) ∧
      ∃ last, lastLookup? exchanges = some last ∧ (last.matchesNothing = true → result = .ok none))
      ((page.finder root kind preferCss).find selector)
      ((page.noted.finder root kind preferCss).find selector) := by
  obtain ⟨criteria, normalized, planned⟩ := (Finder.check_eq_ok_iff _).1 passed
  apply Notes.check normalized
  apply Notes.misses_absent
  apply (misses_locate page root kind preferCss planned).misses_bind
  · intro found
    cases found with
    | none => exact .reads_pure none
    | some element =>
        apply (reads_fits page selector element).reads_bind
        intro stands
        cases stands with
        | true => exact .reads_pure (some element)
        | false => exact .reads_pure none
  · rfl
  · rfl

theorem looksUp_findAll_of_checkAll
    (passed : (page.finder root kind preferCss).checkAll selector = .ok ()) :
    Notes (LooksUp (· = [])) ((page.finder root kind preferCss).findAll selector)
      ((page.noted.finder root kind preferCss).findAll selector) := by
  obtain ⟨absent, checked⟩ := (Finder.checkAll_eq_ok_iff _).1 passed
  obtain ⟨criteria, normalized, planned⟩ := (Finder.check_eq_ok_iff _).1 checked
  have unplaced := Selector.contains_index_of_normalize absent normalized
  apply Notes.check normalized
  rw [unplaced, if_neg Bool.false_ne_true, if_neg Bool.false_ne_true]
  cases lone : selector.lone? with
  | some criterion => exact looksUp_allLone page root kind preferCss criterion
  | none =>
      obtain ⟨plan, chosen⟩ := planned lone
      exact looksUp_allPlanned page root kind preferCss unplaced chosen

/-- A search for one match never fails by absence. Unless its selector is refused, something is
looked up, and there is no result if the last lookup matches nothing. -/
theorem notes_find (selector : Selector) :
    Notes (fun exchanges result => (∀ fault, result = .error fault → fault.isAbsence = false) ∧
      (FailsByPage result → ∃ last, lastLookup? exchanges = some last ∧
        (last.matchesNothing = true → result = .ok none)))
      ((page.finder root kind preferCss).find selector)
      ((page.noted.finder root kind preferCss).find selector) := by
  cases checked : (page.finder root kind preferCss).check selector with
  | error fault =>
      have refused : (page.noted.finder root kind preferCss).check selector = .error fault :=
        checked
      rw [Finder.find_of_check_error _ checked, Finder.find_of_check_error _ refused]
      have refusal := Finder.isRefusal_of_check _ checked
      refine .throw ⟨fun other failed => ?_, fun passed =>
        absurd passed (not_failsByPage_of_isRefusal refusal)⟩
      rw [← Except.error.inj failed]
      exact Finder.isAbsence_of_isRefusal refusal
  | ok _ =>
      exact (notes_find_of_check page root kind preferCss checked).mono
        fun _ _ formed => ⟨formed.1, fun _ => formed.2⟩

/-- A search for all matches never fails for want of them. Unless its selector is refused, it fails
as an exchange does, and something is looked up; there is no match if the last lookup matches
nothing. -/
theorem notes_findAll (selector : Selector) :
    Notes (fun exchanges result => (∀ lookup, result ≠ .error (.noSuchElement lookup)) ∧
      (FailsByPage result → LooksUp (· = []) exchanges result))
      ((page.finder root kind preferCss).findAll selector)
      ((page.noted.finder root kind preferCss).findAll selector) := by
  cases checked : (page.finder root kind preferCss).checkAll selector with
  | error fault =>
      have refused : (page.noted.finder root kind preferCss).checkAll selector = .error fault :=
        checked
      rw [Finder.findAll_of_checkAll_error _ checked, Finder.findAll_of_checkAll_error _ refused]
      have refusal := Finder.isRefusal_of_checkAll _ checked
      refine .throw ⟨fun lookup failed => ?_, fun passed =>
        absurd passed (not_failsByPage_of_isRefusal refusal)⟩
      rw [Except.error.inj failed] at refusal
      cases refusal
  | ok _ =>
      apply (looksUp_findAll_of_checkAll page root kind preferCss checked).mono
      intro exchanges result looksUp
      refine ⟨fun lookup failed => ?_, fun _ => looksUp⟩
      rw [failed] at looksUp
      obtain ⟨refusal, _, same⟩ := FailsAs.error_iff.1 looksUp.fails
      exact refusal.readFault_ne_noSuchElement lookup same.symm

end Searching

/-! ## Searches of a session -/

namespace SearchSettings

/-- Whatever a page matches, and whichever of its answers fail, no search in it fails because
nothing is there.

A search for one match never fails by absence, not even of an element that was found and is gone
since; and unless its selector is refused, it has no result if no lookup matches anything.

A search for all matches never fails for want of them. Unless its selector is refused, there are no
matches if the last lookup matches nothing, and it fails where an exchange with the page failed,
and nowhere else: by the words of the first that did, which tell whether an element is gone. -/
theorem failures_of_search (settings : SearchSettings) (page : RemotePage σ η) (selector : Selector)
    (kind : String) (state : σ) :
    (∃ result after exchanges,
      (settings.locateOn page selector kind).run state = (result, after) ∧
      (settings.locateOn page.noted selector kind).run (state, []) = (result, after, exchanges) ∧
      (∀ lookup, result ≠ .error (.noSuchElement lookup)) ∧
      (∀ detail, result ≠ .error (.staleElement detail)) ∧
      (FailsByPage result →
        (∀ exchange ∈ exchanges, exchange.isLookup = true → exchange.matchesNothing = true) →
        result = .ok none)) ∧
    ∃ result after exchanges,
      (settings.locateAllOn page selector kind).run state = (result, after) ∧
      (settings.locateAllOn page.noted selector kind).run (state, []) = (result, after, exchanges) ∧
      (∀ lookup, result ≠ .error (.noSuchElement lookup)) ∧
      (FailsByPage result →
        (∀ last, lastLookup? exchanges = some last → last.matchesNothing = true → result = .ok []) ∧
        ((∃ fault, result = .error fault) ↔
          ∃ exchange ∈ exchanges, exchange.failure?.isSome = true) ∧
        ∀ refusal, firstFailure? exchanges = some refusal →
          result = .error (if Refusal.lostMessages.any (Text.contains refusal.text)
            then .staleElement refusal.text else .pageFailed refusal.text)) := by
  have one := notes_find page none (settings.kinds.kindFor kind) settings.options.preferCss selector
  have all :=
    notes_findAll page none (settings.kinds.kindFor kind) settings.options.preferCss selector
  constructor
  · obtain ⟨result, after, exchanges, ran, recorded, present, missed⟩ := one state []
    refine ⟨result, after, exchanges, ran, recorded, ?_, ?_, ?_⟩
    · rintro lookup rfl
      cases present _ rfl
    · rintro detail rfl
      cases present _ rfl
    · intro page none
      obtain ⟨last, latest, ends⟩ := missed page
      have member := List.mem_reverse.1 (List.mem_of_find?_eq_some latest)
      exact ends (none last member (List.find?_some latest))
  · obtain ⟨result, after, exchanges, ran, recorded, present, looksUp⟩ := all state []
    refine ⟨result, after, exchanges, ran, recorded, present, fun page => ?_⟩
    obtain ⟨⟨last, latest, ends⟩, fails⟩ := looksUp page
    refine ⟨fun other latestOther nothing => ?_, fails.error_iff_exists, fun refusal first => ?_⟩
    · rw [latest] at latestOther
      obtain rfl := Option.some.inj latestOther
      obtain ⟨_, found, rfl⟩ := ends nothing
      exact found
    · unfold FailsAs at fails
      rw [first] at fails
      exact fails

/-- A page that refuses everything. -/
def refusingPage (refusal : Refusal) : RemotePage Unit Nat where
  first _ _ := throw refusal
  all _ _ := throw refusal
  tagOf _ := "input"
  readAttribute _ _ := throw refusal
  readText _ := throw refusal

/-- What a page says of a query that matches nothing. -/
def noMatch : Refusal := .nothingFound "No element found"

/-- The exchange of the one lookup that is made for a tag. -/
def refusedInput (refusal : Refusal) : Exchange Nat :=
  .lookup none (.css "input") (.error refusal)

/-- A page that matches nothing has no matches, and one that is lost only fails the search for all
matches. -/
theorem failures_of_search_refused :
    ∃ (settings : SearchSettings) (selector : Selector),
      ((settings.locateOn (refusingPage noMatch) selector "input").run ()).1 = .ok none ∧
      ((settings.locateAllOn (refusingPage noMatch) selector "input").run ()).1 = .ok [] ∧
      ((settings.locateAllOn (refusingPage (.failed "No node with given id")) selector
        "input").run ()).1 = .error (.staleElement "No node with given id") := by
  let settings := ofPreference false
  let selector : Selector := ⟨[("tag_name", .literal "input")], by decide⟩
  have refused (refusal : Refusal) :=
    failures_of_search settings (refusingPage refusal) selector "input" ()
  refine ⟨settings, selector, ?_, ?_, ?_⟩
  · obtain ⟨⟨result, _, _, ran, recorded, _, _, missed⟩, _⟩ := refused noMatch
    obtain rfl : [refusedInput noMatch] = _ := congrArg (·.2.2) recorded
    obtain rfl : .ok none = result := congrArg (·.1) recorded
    exact (congrArg Prod.fst ran).trans
      (missed (.ok none) (by simp [refusedInput, noMatch, matchesNothing]))
  · obtain ⟨_, result, _, _, ran, recorded, _, sorts⟩ := refused noMatch
    obtain rfl : [refusedInput noMatch] = _ := congrArg (·.2.2) recorded
    obtain rfl : .ok [] = result := congrArg (·.1) recorded
    exact (congrArg Prod.fst ran).trans ((sorts (.ok [])).1 _ rfl rfl)
  · obtain ⟨_, result, _, _, ran, recorded, _, sorts⟩ := refused (.failed "No node with given id")
    obtain rfl : [refusedInput (.failed "No node with given id")] = _ := congrArg (·.2.2) recorded
    obtain rfl : .error (.staleElement "No node with given id") = result :=
      congrArg (·.1) recorded
    exact (congrArg Prod.fst ran).trans ((sorts (.error rfl)).2.2 _ rfl)

end SearchSettings

end ElementSearch
