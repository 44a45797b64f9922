/-
# What a search asks of a page

Once a selector is found to be in order, the page is asked: by one lookup for an identifier or
a lone criterion, and by one query for criteria that are planned, before which a label may have
to be looked for. Reading the elements that were found is no lookup. From here on a search can
fail, but only by a fault that the page gives. Each function of the search has one lemma here
that says both: which lookups it makes, and that nothing but the page can fail it.
-/

import ElementSearch.Proofs.Search.Candidates
import ElementSearch.Proofs.Search.SingleMatch

namespace ElementSearch

/-! ## Faults that a page gives -/

/-- Whether the fault is one that a page gives while it is asked or read. -/
def Fault.isPageFault : Fault → Bool
  | .noSuchElement _ | .staleElement _ | .pageFailed _ => true
  | _ => false

/-- The result fails only by a fault that a page gives, if it fails. -/
def FailsByPageFault {α : Type} (result : Except Fault α) : Prop :=
  ∀ fault, result = .error fault → fault.isPageFault = true

namespace FailsByPageFault

variable {α β : Type} {result : Except Fault α}

theorem ok (value : α) : FailsByPageFault (.ok value) := by
  intro fault failed
  cases failed

theorem error {fault : Fault} (page : fault.isPageFault = true) :
    FailsByPageFault (.error fault : Except Fault α) := by
  intro other failed
  rw [← Except.error.inj failed]
  exact page

theorem bind {next : α → Except Fault β} (first : FailsByPageFault result)
    (later : ∀ value, FailsByPageFault (next value)) : FailsByPageFault (result >>= next) := by
  cases result with
  | error fault => exact error (first fault rfl)
  | ok value => exact later value

/-- What is absent is absent from the page. -/
theorem of_absence (absence : FailsByAbsence result) : FailsByPageFault result := by
  intro fault failed
  have absent := absence fault failed
  cases fault with
  | noSuchElement lookup => rfl
  | staleElement detail => rfl
  | _ => cases absent

theorem absorb {result : Except Fault (Option α)} (page : FailsByPageFault result) :
    FailsByPageFault (Work.absorb result) := by
  cases result with
  | ok found => exact ok found
  | error fault =>
      cases absent : fault.isAbsence with
      | true =>
          rw [Work.absorb_of_absence absent]
          exact ok none
      | false =>
          rw [Work.absorb_of_not_absence absent]
          exact page

end FailsByPageFault

/-- A scan that stops fails only by absence if the test does. -/
theorem failsByAbsence_firstThat {α : Type} {test : α → Except Fault Bool} {members : List α}
    (each : ∀ member, FailsByAbsence (test member)) : FailsByAbsence (firstThat test members) := by
  induction members with
  | nil => exact .ok none
  | cons first rest ih =>
      apply (each first).bind
      intro passes
      cases passes with
      | true => exact .ok (some first)
      | false => exact ih

namespace Document

/-! ## Work that asks the page -/

/-- On a document the work comes to one result, it fails only by a fault of the page, and its
lookups are of this form. -/
def Asks {α : Type} (document : Document) (work : Work Document α) (form : Calls → Prop) : Prop :=
  ∃ result calls, Yields document work result calls ∧ FailsByPageFault result ∧ form calls

namespace Asks

variable {α β : Type} {document : Document} {work : Work Document α} {form : Calls → Prop}

theorem mono {weaker : Calls → Prop} (asks : Asks document work form)
    (weakens : ∀ calls, form calls → weaker calls) : Asks document work weaker := by
  obtain ⟨result, calls, yields, page, formed⟩ := asks
  exact ⟨result, calls, yields, page, weakens calls formed⟩

/-- Elements are read without a lookup. -/
theorem of_reading {result : Except Fault α} (yields : Yields document work result [])
    (absence : FailsByAbsence result) : Asks document work (· = []) :=
  ⟨result, [], yields, .of_absence absence, rfl⟩

theorem pure (value : α) : Asks document (Pure.pure value) (· = []) :=
  of_reading (.pure value) (.ok value)

/-- A check that is passed asks nothing. -/
theorem check {result : Except Fault β} {value : β} {next : β → Work Document α}
    (passed : result = .ok value) (later : Asks document (next value) form) :
    Asks document (Work.ofExcept result >>= next) form := by
  obtain ⟨outcome, calls, yields, page, formed⟩ := later
  exact ⟨outcome, calls, (Yields.ofExcept_of_eq passed).bind_ok yields, page, formed⟩

/-- Work after which nothing more is looked up. -/
theorem bind {next : α → Work Document β} (first : Asks document work form)
    (later : ∀ value, Asks document (next value) (· = [])) :
    Asks document (work >>= next) form := by
  obtain ⟨result, calls, yields, page, formed⟩ := first
  cases result with
  | error fault => exact ⟨_, calls, yields.bind_error, .error (page fault rfl), formed⟩
  | ok value =>
      obtain ⟨outcome, _, read, absence, rfl⟩ := later value
      have both := yields.bind_ok read
      rw [List.append_nil] at both
      exact ⟨outcome, calls, both, absence, formed⟩

theorem map (convert : α → β) (asks : Asks document work form) :
    Asks document (convert <$> work) form := by
  rw [map_eq_pure_bind]
  exact asks.bind fun value => pure (convert value)

theorem absent {work : Work Document (Option α)} (asks : Asks document work form) :
    Asks document work.absent form := by
  obtain ⟨result, calls, yields, page, formed⟩ := asks
  exact ⟨_, calls, yields.absent, page.absorb, formed⟩

end Asks

variable (document : Document)

theorem failsByPageFault_answer (root : Option Nat) (strategy : Strategy) (value : String) :
    FailsByPageFault (document.answer root strategy value) := by
  have live : FailsByPageFault (document.checkLive (root.getD 0)) := by
    unfold checkLive
    split
    · exact .error rfl
    · exact .ok ()
  apply live.bind
  intro _
  unfold lookup
  split
  · exact .ok _
  · split
    · exact .ok _
    · exact .error rfl

theorem asks_findElements (root : Option Nat) (strategy : Strategy) (value : String) :
    Asks document (findElements root strategy value) (· = document.recorded root strategy value) :=
  ⟨_, _, yields_findElements document root strategy value,
    failsByPageFault_answer document root strategy value, rfl⟩

theorem asks_findElement (root : Option Nat) (strategy : Strategy) (value : String) :
    Asks document (findElement root strategy value)
      (· = document.recorded root strategy value) := by
  refine ⟨_, _, yields_findElement document root strategy value, ?_, rfl⟩
  apply (failsByPageFault_answer document root strategy value).bind
  intro found
  cases found with
  | nil => exact .error rfl
  | cons first rest => exact .ok first

/-! ## Reading what was found -/

section Reading

variable (element : Nat) (selector : Selector)

theorem failsByAbsence_tagFits : FailsByAbsence (document.reader.tagFits selector element) := by
  unfold ElementReader.tagFits
  split
  · exact .ok true
  · exact (failsByAbsence_readElement document Element.tag element).bind fun _ => .ok _

theorem failsByAbsence_typeFits : FailsByAbsence (document.reader.typeFits selector element) := by
  unfold ElementReader.typeFits
  split
  · exact .ok true
  · apply (failsByAbsence_readElement document Element.tag element).bind
    intro tag
    split
    · exact (failsByAbsence_readElement document (·.attribute? "type") element).bind
        fun _ => .ok _
    · exact .ok true

theorem failsByAbsence_fits : FailsByAbsence (document.reader.fits selector element) := by
  apply (failsByAbsence_tagFits document element selector).bind
  intro passes
  cases passes with
  | true => exact failsByAbsence_typeFits document element selector
  | false => exact .ok false

theorem failsByAbsence_labelTarget (label : Pattern) (labels : List Nat) :
    FailsByAbsence (document.reader.labelTarget label labels) := by
  induction labels with
  | nil => exact .ok _
  | cons first rest ih =>
      apply (failsByAbsence_readElement document Element.text first).bind
      intro text
      split
      · apply (failsByAbsence_readElement document (·.attribute? "for") first).bind
        intro id
        cases id with
        | none => exact .ok _
        | some id => exact .ok _
      · exact ih

variable (key : Key) (pattern : Pattern) (patterns : List (Key × Pattern)) (found : List Nat)

theorem asks_firstThat_meetsPattern :
    Asks document (firstThat (driver.reader.meetsPattern key pattern) found) (· = []) :=
  .of_reading (yields_firstThat (fun node => yields_meetsPattern document node key pattern) found)
    (failsByAbsence_firstThat (failsByAbsence_meetsPattern document key pattern))

theorem asks_allThat_meetsPattern :
    Asks document (allThat (driver.reader.meetsPattern key pattern) found) (· = []) :=
  .of_reading (yields_allThat (fun node => yields_meetsPattern document node key pattern) found)
    (failsByAbsence_allThat (failsByAbsence_meetsPattern document key pattern))

theorem asks_firstThat_meetsPatterns :
    Asks document (firstThat (driver.reader.meetsPatterns patterns) found) (· = []) :=
  .of_reading (yields_firstThat (fun node => yields_meetsPatterns document node patterns) found)
    (failsByAbsence_firstThat (failsByAbsence_meetsPatterns document patterns))

theorem asks_allThat_meetsPatterns :
    Asks document (allThat (driver.reader.meetsPatterns patterns) found) (· = []) :=
  .of_reading (yields_allThat (fun node => yields_meetsPatterns document node patterns) found)
    (failsByAbsence_allThat (failsByAbsence_meetsPatterns document patterns))

end Reading

/-! ## Lookups of planned searches -/

/-- Some label below a root has a text that the pattern matches. -/
def HasLabel (root : Option Nat) (label : Pattern) : Prop :=
  ∃ node ∈ document.tree.descendants (root.getD 0),
    Text.sameAsciiLetters (document.tree.element node).tag "label" = true ∧
      label.matchesIn (Text.trim (document.tree.element node).text) = true

/-- The lookups of a planned search: one query, before which a label is looked for if one is
sought. The query is left out where no label matches, and either may fail to be made. -/
inductive Looked (root : Option Nat) : Option Pattern → Calls → Prop
  | nothing (label? : Option Pattern) : Looked root label? []
  | query (query : Query) (written : query.strategy ≠ .id) :
      Looked root none [(query.strategy, query.text)]
  | label (label : Pattern) : Looked root (some label) [(.tagName, "label")]
  | labelled (label : Pattern) (query : Query) (written : query.strategy ≠ .id)
      (matched : document.HasLabel root label) :
      Looked root (some label) [(.tagName, "label"), (query.strategy, query.text)]

section Looked

variable {document} {root : Option Nat} {label : Pattern} {query : Query}

theorem recorded_prefix (below : Option Nat) (strategy : Strategy) (value : String) :
    document.recorded below strategy value <+: [(strategy, value)] := by
  unfold recorded
  split
  · exact List.nil_prefix
  · exact List.prefix_rfl

theorem Looked.of_query (below : Option Nat) (written : query.strategy ≠ .id) :
    document.Looked root none (document.recorded below query.strategy query.text) := by
  unfold recorded
  split
  · exact .nothing none
  · exact .query query written

theorem Looked.of_label (label : Pattern) :
    document.Looked root (some label) (document.recorded root .tagName "label") := by
  unfold recorded
  split
  · exact .nothing (some label)
  · exact .label label

theorem Looked.of_labelled (below : Option Nat) (written : query.strategy ≠ .id)
    (matched : document.HasLabel root label) :
    document.Looked root (some label)
      ([(.tagName, "label")] ++ document.recorded below query.strategy query.text) := by
  unfold recorded
  split
  · exact .label label
  · exact .labelled label query written matched

/-- What is answered to a lookup of labels are the labels. -/
theorem mem_labels_iff {labels : List Nat}
    (answered : document.answer root .tagName "label" = .ok labels) {node : Nat} :
    node ∈ labels ↔ node ∈ document.tree.descendants (root.getD 0) ∧
      Text.sameAsciiLetters (document.tree.element node).tag "label" = true := by
  have found : document.lookup (root.getD 0) .tagName "label" = .ok labels := by
    unfold answer at answered
    cases live : document.checkLive (root.getD 0) with
    | error fault =>
        rw [live] at answered
        cases answered
    | ok _ =>
        rw [live] at answered
        exact answered
  rw [← Except.ok.inj found]
  exact List.mem_filter

theorem exists_matching_of_labelTarget {labels : List Nat} {target : LabelTarget Nat}
    (resolved : document.reader.labelTarget label labels = .ok target) (there : target ≠ .nowhere) :
    ∃ node ∈ labels, label.matchesIn (Text.trim (document.tree.element node).text) = true := by
  induction labels with
  | nil => exact absurd (Except.ok.inj resolved).symm there
  | cons first rest ih =>
      unfold ElementReader.labelTarget at resolved
      cases read : document.reader.readText first with
      | error fault =>
          rw [read] at resolved
          cases resolved
      | ok text =>
          obtain rfl := (not_stale_of_readElement read).2
          simp only [read, bind, Except.bind] at resolved
          split at resolved
          · next matched => exact ⟨first, List.mem_cons_self, matched⟩
          · obtain ⟨node, member, matched⟩ := ih resolved
            exact ⟨node, List.mem_cons_of_mem _ member, matched⟩

/-- A label that leads somewhere is there. -/
theorem hasLabel_of_labelTarget {target : LabelTarget Nat}
    (resolved : document.labelTarget root label = .ok target) (there : target ≠ .nowhere) :
    document.HasLabel root label := by
  obtain ⟨labels, answered, found⟩ := exists_labels resolved
  obtain ⟨node, member, matched⟩ := exists_matching_of_labelTarget found there
  obtain ⟨below, tag⟩ := (mem_labels_iff answered).1 member
  exact ⟨node, below, tag, matched⟩

end Looked

end Document

/-! ## Written queries -/

namespace Criteria

variable {kind : ElementKind} {preferCss : Bool} {criteria : Criteria} {query : Query}

/-- No query asks for an identifier by the strategy of its own. -/
theorem strategy_of_exactQuery (built : criteria.exactQuery kind preferCss = .ok query) :
    query.strategy ≠ .id := by
  unfold exactQuery at built
  split at built
  · cases built
  · rw [← Except.ok.inj built]
    split
    · exact Strategy.noConfusion
    · exact Strategy.noConfusion

theorem strategy_of_givenQuery? (given : criteria.givenQuery? = .ok (some query)) :
    query.strategy ≠ .id := by
  unfold givenQuery? at given
  dsimp only at given
  split at given
  · cases given
  · cases given
  · split at given
    · cases given
      exact Strategy.noConfusion
    · cases given
  · split at given
    · cases given
      exact Strategy.noConfusion
    · cases given

theorem strategy_of_plan (planned : criteria.plan kind preferCss = .ok (.exact query)) :
    query.strategy ≠ .id := by
  unfold plan at planned
  split at planned
  · cases planned
  · split at planned
    · cases planned
    · next given =>
        cases planned
        exact strategy_of_givenQuery? given
    · split at planned
      · cases planned
      · cases built : criteria.exactQuery kind preferCss with
        | error fault =>
            rw [built] at planned
            cases planned
        | ok own =>
            rw [built] at planned
            cases planned
            exact strategy_of_exactQuery built

end Criteria

theorem Query.strategy_narrow (base : Query) (patterns : List (Key × Pattern)) :
    (base.narrow patterns).strategy = base.strategy := by
  unfold Query.narrow
  split
  · next path => exact (beq_iff_eq.1 path).symm
  · rfl

/-! ## Searches -/

/-- The label that a plan looks for. -/
def Finder.soughtLabel? {σ η : Type} (finder : Finder σ η) (criteria : Criteria) :
    Plan → Option Pattern
  | .exact _ => none
  | .filtered => finder.labelPattern? criteria.patterns

/-- The lookup for a lone criterion. -/
def LoneCriterion.lookup : LoneCriterion → Strategy × String
  | .literal strategy text => (strategy, text)
  | .pattern _ _ => (.xpath, ".//*")

namespace Document

variable (document : Document) {root : Option Nat} {kind : ElementKind} {preferCss : Bool}
  {criteria : Criteria}

/-- A label is looked for before the candidates, which are only asked for where it matches. -/
theorem asks_candidates (root : Option Nat) (kind : ElementKind) (preferCss : Bool)
    (unplaced : criteria.contains .index = false) :
    Asks document ((finder root kind preferCss).candidates criteria)
      (document.Looked root ((finder root kind preferCss).labelPattern? criteria.patterns)) := by
  have written {base : Query} {target : Option (LabelTarget Nat)}
      (built : (criteria.residue target).exactQuery kind preferCss = .ok base) :
      (base.narrow (criteria.checkedPatterns kind)).strategy ≠ .id := by
    rw [Query.strategy_narrow]
    exact Criteria.strategy_of_exactQuery built
  cases asked : (finder root kind preferCss).labelPattern? criteria.patterns with
  | none =>
      have unlabelled : document.resolvedLabel root kind criteria = .ok none :=
        resolvedLabel_of_no_labelPattern? asked
      obtain ⟨base, built, yields⟩ :=
        yields_candidates preferCss unplaced unlabelled nofun
      exact ⟨_, _, yields, (failsByPageFault_answer document _ _ _).bind fun _ => .ok _,
        .of_query root (written built)⟩
  | some label =>
      have sought : document.resolvedLabel root kind criteria =
          some <$> document.labelTarget root label := resolvedLabel_of_labelPattern? asked
      cases resolved : document.labelTarget root label with
      | error fault =>
          rw [resolved] at sought
          have page : FailsByPageFault (document.labelTarget root label) :=
            (failsByPageFault_answer document root .tagName "label").bind fun labels =>
              .of_absence (failsByAbsence_labelTarget document label labels)
          exact ⟨_, _, yields_candidates_of_error preferCss sought, .error (page fault resolved),
            .of_label label⟩
      | ok target =>
          rw [resolved] at sought
          by_cases there : target = .nowhere
          · subst there
            exact ⟨_, _, yields_candidates_of_nowhere preferCss sought, .ok _, .label label⟩
          · obtain ⟨base, built, yields⟩ := yields_candidates preferCss unplaced sought
              fun nowhere => there (Option.some.inj nowhere)
            exact ⟨_, _, yields, (failsByPageFault_answer document _ _ _).bind fun _ => .ok _,
              .of_labelled _ (written built) (hasLabel_of_labelTarget resolved there)⟩

theorem asks_firstPlanned {plan : Plan}
    (linkless : (finder root kind preferCss).refuseLinks criteria = .ok ())
    (planned : criteria.withoutIndex.plan kind preferCss = .ok plan) :
    Asks document ((finder root kind preferCss).firstPlanned criteria)
      (document.Looked root
        ((finder root kind preferCss).soughtLabel? criteria.withoutIndex plan)) := by
  unfold Finder.firstPlanned
  refine .check linkless (.check planned ?_)
  cases plan with
  | exact query =>
      have looked : ∀ calls, calls = document.recorded root query.strategy query.text →
          document.Looked root none calls := by
        rintro _ rfl
        exact .of_query root (Criteria.strategy_of_plan planned)
      cases criteria.index? with
      | none =>
          exact ((asks_findElement document root query.strategy query.text).map some).mono looked
      | some position =>
          exact ((asks_findElements document root query.strategy query.text).bind
            fun found => .pure (pick found position)).mono looked
  | filtered =>
      have chosen := asks_candidates document root kind preferCss
        (Criteria.contains_index_withoutIndex criteria)
      cases criteria.index? with
      | none =>
          exact chosen.bind fun chosen => asks_firstThat_meetsPatterns document chosen.1 chosen.2
      | some position =>
          have all := chosen.bind fun chosen =>
            asks_allThat_meetsPatterns document chosen.1 chosen.2
          exact all.bind fun found => .pure (pick found position)

theorem asks_allPlanned {plan : Plan}
    (linkless : (finder root kind preferCss).refuseLinks criteria = .ok ())
    (planned : criteria.plan kind preferCss = .ok plan)
    (unplaced : criteria.contains .index = false) :
    Asks document ((finder root kind preferCss).allPlanned criteria)
      (document.Looked root ((finder root kind preferCss).soughtLabel? criteria plan)) := by
  refine .check linkless (.check planned ?_)
  cases plan with
  | exact query =>
      apply (asks_findElements document root query.strategy query.text).mono
      rintro _ rfl
      exact .of_query root (Criteria.strategy_of_plan planned)
  | filtered =>
      exact (asks_candidates document root kind preferCss unplaced).bind
        fun chosen => asks_allThat_meetsPatterns document chosen.1 chosen.2

theorem asks_firstLone (root : Option Nat) (kind : ElementKind) (preferCss : Bool)
    (criterion : LoneCriterion) :
    Asks document ((finder root kind preferCss).firstLone criterion)
      (· <+: [criterion.lookup]) := by
  cases criterion with
  | literal strategy text =>
      apply ((asks_findElement document root strategy text).map some).mono
      rintro _ rfl
      exact recorded_prefix root strategy text
  | pattern key asked =>
      apply ((asks_findElements document root .xpath ".//*").bind
        fun found => asks_firstThat_meetsPattern document key asked found).mono
      rintro _ rfl
      exact recorded_prefix root .xpath ".//*"

theorem asks_allLone (root : Option Nat) (kind : ElementKind) (preferCss : Bool)
    (criterion : LoneCriterion) :
    Asks document ((finder root kind preferCss).allLone criterion) (· <+: [criterion.lookup]) := by
  cases criterion with
  | literal strategy text =>
      apply (asks_findElements document root strategy text).mono
      rintro _ rfl
      exact recorded_prefix root strategy text
  | pattern key asked =>
      apply ((asks_findElements document root .xpath ".//*").bind
        fun found => asks_allThat_meetsPattern document key asked found).mono
      rintro _ rfl
      exact recorded_prefix root .xpath ".//*"

theorem asks_firstIdentified (root : Option Nat) (kind : ElementKind) (preferCss : Bool)
    (selector : Selector) (id : String) :
    Asks document ((finder root kind preferCss).firstIdentified selector id)
      (· <+: [(.id, id)]) := by
  have looked : Asks document (findElement root .id id) (· <+: [(.id, id)]) := by
    apply (asks_findElement document root .id id).mono
    rintro _ rfl
    exact recorded_prefix root .id id
  apply looked.bind
  intro element
  apply (Asks.of_reading (yields_tagFits document element selector)
    (failsByAbsence_tagFits document element selector)).bind
  intro passes
  cases passes with
  | true => exact .pure (some element)
  | false => exact .pure none

/-- A search for one match makes the lookups of what it locates. -/
theorem asks_find {selector : Selector} {form : Calls → Prop}
    (normalized : selector.normalize kind = .ok criteria)
    (located : Asks document ((finder root kind preferCss).locate selector criteria) form) :
    Asks document ((finder root kind preferCss).find selector) form := by
  refine .check normalized (.absent (located.bind fun found => ?_))
  cases found with
  | none => exact .pure none
  | some element =>
      apply (Asks.of_reading (yields_fits document element selector)
        (failsByAbsence_fits document element selector)).bind
      intro passes
      cases passes with
      | true => exact .pure (some element)
      | false => exact .pure none

/-- A search for all matches makes the lookups of what it locates. -/
theorem asks_findAll {selector : Selector} {form : Calls → Prop}
    (normalized : selector.normalize kind = .ok criteria)
    (unplaced : criteria.contains .index = false)
    (located : Asks document ((finder root kind preferCss).locateAll selector criteria) form) :
    Asks document ((finder root kind preferCss).findAll selector) form := by
  refine .check normalized ?_
  rw [if_neg (by rw [unplaced]; exact Bool.false_ne_true)]
  exact located

end Document

end ElementSearch
