/-
# Where candidates come from

Criteria with patterns are met by some answers of a broader query. The query is compiled from
the criteria without patterns, and from what their label says: a label that stands in an
element of its own is looked for first, and it gives an identifier to ask for or an element
to look in. What is looked up on the way, and what it comes to, is said here once for every
search of such criteria.
-/

import ElementSearch.Proofs.Search.Yields
import ElementSearch.Proofs.Selector.Normalize
import ElementSearch.Query.Plan

namespace ElementSearch

namespace Criteria

variable {criteria : Criteria}

theorem hasPattern_eq_false_iff :
    criteria.hasPattern = false ↔
      ∀ key value, criteria.get? key = some value → value.isPattern = false := by
  simp only [hasPattern, List.any_eq_false, Prod.forall, OrderedMap.get?_eq_some_iff,
    Bool.not_eq_true]

theorem get?_withoutIndex {key : Key} (other : key ≠ .index) :
    criteria.withoutIndex.get? key = criteria.get? key :=
  OrderedMap.get?_erase_of_ne criteria other

theorem contains_index_withoutIndex (criteria : Criteria) :
    criteria.withoutIndex.contains .index = false := by
  rw [OrderedMap.contains_eq_isSome_get?, withoutIndex, OrderedMap.get?_erase_self]
  rfl

theorem get?_withoutPatterns (criteria : Criteria) (key : Key) :
    criteria.withoutPatterns.get? key = (criteria.get? key).filter fun value => !value.isPattern :=
  OrderedMap.get?_filter criteria _ key

theorem mem_patterns_iff {key : Key} {pattern : Pattern} :
    (key, pattern) ∈ criteria.patterns ↔ criteria.get? key = some (.pattern pattern) := by
  rw [OrderedMap.get?_eq_some_iff, patterns, List.mem_filterMap]
  constructor
  · rintro ⟨⟨other, value⟩, member, same⟩
    obtain ⟨asked, sort, paired⟩ := Option.map_eq_some_iff.1 same
    cases paired
    cases value with
    | pattern own =>
        obtain rfl := Option.some.inj sort
        exact member
    | _ => cases sort
  · intro member
    exact ⟨(key, .pattern pattern), member, rfl⟩

/-- The query for criteria without patterns and without a position is always built. -/
theorem exists_exactQuery (kind : ElementKind) (preferCss : Bool)
    (unplaced : criteria.contains .index = false) (plain : criteria.hasPattern = false) :
    ∃ query, criteria.exactQuery kind preferCss = .ok query := by
  rw [exactQuery, unplaced, plain]
  exact ⟨_, rfl⟩

/-! ## What is left of the criteria -/

/-- The criteria that the broader query is compiled from: those without patterns, and the
identifier that a label points at. -/
def residue {η : Type} (criteria : Criteria) : Option (LabelTarget η) → Criteria
  | some (.identified id) => criteria.withoutPatterns.insert .id (.literal id)
  | _ => criteria.withoutPatterns

/-- The patterns that are checked on the candidates: all but that of a label which stands in an
element of its own. -/
def checkedPatterns (kind : ElementKind) (criteria : Criteria) : List (Key × Pattern) :=
  if kind.hasNativeLabel then criteria.patterns
  else criteria.patterns.filter (·.1 != .label)

theorem hasPattern_withoutPatterns (criteria : Criteria) :
    criteria.withoutPatterns.hasPattern = false := by
  rw [hasPattern_eq_false_iff]
  intro key value asked
  rw [get?_withoutPatterns, Option.filter_eq_some_iff, Bool.not_eq_true'] at asked
  exact asked.2

variable {η : Type} (target : Option (LabelTarget η))

theorem hasPattern_residue : (criteria.residue target).hasPattern = false := by
  unfold residue
  split
  · next id =>
      rw [hasPattern_eq_false_iff]
      intro key value asked
      rw [OrderedMap.get?_insert] at asked
      split at asked
      · obtain rfl := Option.some.inj asked
        rfl
      · exact hasPattern_eq_false_iff.1 (hasPattern_withoutPatterns criteria) key value asked
  · exact hasPattern_withoutPatterns criteria

/-- Only the identifier can be another than that of the criteria. -/
theorem get?_residue_of_ne {key : Key} (other : key ≠ .id) :
    (criteria.residue target).get? key =
      (criteria.get? key).filter fun value => !value.isPattern := by
  rw [← get?_withoutPatterns]
  unfold residue
  split
  · rw [OrderedMap.get?_insert, if_neg (Ne.symm other)]
  · rfl

theorem contains_index_residue (unplaced : criteria.contains .index = false) :
    (criteria.residue target).contains .index = false := by
  rw [OrderedMap.contains_eq_false_iff] at unplaced ⊢
  rw [get?_residue_of_ne target (by decide), unplaced]
  rfl

end Criteria

namespace Document

variable (document : Document) (root : Option Nat) (kind : ElementKind) (preferCss : Bool)

/-! ## Labels -/

/-- The target of the first label below a root whose text the pattern matches. -/
def labelTarget (label : Pattern) : Except Fault (LabelTarget Nat) :=
  document.answer root .tagName "label" >>= document.reader.labelTarget label

/-- The target of the criteria's label, if it is one that stands in an element of its own. -/
def resolvedLabel (criteria : Criteria) : Except Fault (Option (LabelTarget Nat)) :=
  if kind.hasNativeLabel then .ok none
  else
    match criteria.get? .label with
    | some (.pattern label) => some <$> document.labelTarget root label
    | _ => .ok none

/-- The place below which candidates are looked for. -/
def place : Option (LabelTarget Nat) → Option Nat
  | some (.inside label) => some label
  | _ => root

/-- What is looked up to find a label. -/
def labelCalls (target : Option (LabelTarget Nat)) : Calls :=
  if target.isSome then [(.tagName, "label")] else []

section Labels

variable {document root kind preferCss} {criteria : Criteria}

theorem labelPattern?_eq_some_iff {label : Pattern} :
    (finder root kind preferCss).labelPattern? criteria.patterns = some label ↔
      kind.hasNativeLabel = false ∧ criteria.get? .label = some (.pattern label) := by
  have kept : (finder root kind preferCss).kind = kind := rfl
  unfold Finder.labelPattern?
  rw [kept]
  cases kind.hasNativeLabel with
  | true => simp
  | false =>
      simp only [Bool.false_eq_true, if_false, true_and, Option.map_eq_some_iff]
      constructor
      · rintro ⟨⟨key, pattern⟩, first, rfl⟩
        have labelled := List.find?_some first
        have named : key = .label := beq_iff_eq.1 labelled
        rw [← named, ← Criteria.mem_patterns_iff]
        exact List.mem_of_find?_eq_some first
      · intro asked
        have member := Criteria.mem_patterns_iff.2 asked
        cases first : criteria.patterns.find? (·.1 == .label) with
        | none => exact absurd (beq_self_eq_true Key.label) (List.find?_eq_none.1 first _ member)
        | some entry =>
            obtain ⟨key, pattern⟩ := entry
            have labelled := List.find?_some first
            have named : key = .label := beq_iff_eq.1 labelled
            have same := Criteria.mem_patterns_iff.1 (List.mem_of_find?_eq_some first)
            rw [named, asked] at same
            cases same
            exact ⟨_, rfl, rfl⟩

theorem resolvedLabel_of_labelPattern? {label : Pattern}
    (asked : (finder root kind preferCss).labelPattern? criteria.patterns = some label) :
    document.resolvedLabel root kind criteria = some <$> document.labelTarget root label := by
  obtain ⟨foreign, present⟩ := labelPattern?_eq_some_iff.1 asked
  rw [resolvedLabel, foreign, present]
  rfl

theorem resolvedLabel_of_no_labelPattern?
    (absent : (finder root kind preferCss).labelPattern? criteria.patterns = none) :
    document.resolvedLabel root kind criteria = .ok none := by
  unfold resolvedLabel
  split
  · rfl
  · next foreign =>
      split
      · next label asked =>
          rw [labelPattern?_eq_some_iff.2 ⟨Bool.eq_false_iff.2 foreign, asked⟩] at absent
          cases absent
      · rfl

/-- Where no label has to be looked for, every pattern is checked. -/
theorem checkedPatterns_of_no_labelPattern?
    (absent : (finder root kind preferCss).labelPattern? criteria.patterns = none) :
    criteria.checkedPatterns kind = criteria.patterns := by
  unfold Criteria.checkedPatterns
  split
  · rfl
  · next foreign =>
      rw [List.filter_eq_self]
      rintro ⟨key, pattern⟩ member
      rw [bne_iff_ne]
      rintro rfl
      have asked := Criteria.mem_patterns_iff.1 member
      rw [labelPattern?_eq_some_iff.2 ⟨Bool.eq_false_iff.2 foreign, asked⟩] at absent
      cases absent

theorem checkedPatterns_of_labelPattern? {label : Pattern}
    (asked : (finder root kind preferCss).labelPattern? criteria.patterns = some label) :
    criteria.checkedPatterns kind = criteria.patterns.filter (·.1 != .label) := by
  rw [Criteria.checkedPatterns, (labelPattern?_eq_some_iff.1 asked).1]
  rfl

end Labels

/-! ## Lookups -/

section Lookups

variable {document root}

theorem recorded_of_fresh {below : Option Nat}
    (fresh : document.stale.contains (below.getD 0) = false) (strategy : Strategy)
    (value : String) : document.recorded below strategy value = [(strategy, value)] := by
  rw [recorded, if_neg (Bool.eq_false_iff.1 fresh)]

/-- A lookup that is answered is recorded. -/
theorem recorded_of_answer {below : Option Nat} {strategy : Strategy} {value : String}
    {nodes : List Nat} (answered : document.answer below strategy value = .ok nodes) :
    document.stale.contains (below.getD 0) = false ∧
      document.recorded below strategy value = [(strategy, value)] := by
  unfold answer checkLive at answered
  split at answered
  · cases answered
  · next stale =>
      have fresh := Bool.eq_false_iff.2 stale
      exact ⟨fresh, recorded_of_fresh fresh strategy value⟩

theorem exists_labels {label : Pattern} {target : LabelTarget Nat}
    (resolved : document.labelTarget root label = .ok target) :
    ∃ labels, document.answer root .tagName "label" = .ok labels ∧
      document.reader.labelTarget label labels = .ok target := by
  unfold labelTarget at resolved
  cases answered : document.answer root .tagName "label" with
  | error fault =>
      rw [answered] at resolved
      cases resolved
  | ok labels =>
      rw [answered] at resolved
      exact ⟨labels, rfl, resolved⟩

theorem not_stale_of_readElement {α : Type} {part : Element → α} {node : Nat} {value : α}
    (read : document.readElement part node = .ok value) :
    document.stale.contains node = false ∧ value = part (document.tree.element node) := by
  unfold readElement checkLive at read
  split at read
  · cases read
  · next fresh => exact ⟨Bool.eq_false_iff.2 fresh, (Except.ok.inj read).symm⟩

/-- A label that contains its element can be read. -/
theorem not_stale_of_inside {label : Pattern} {labels : List Nat} {node : Nat}
    (resolved : document.reader.labelTarget label labels = .ok (.inside node)) :
    document.stale.contains node = false := by
  induction labels with
  | nil => cases resolved
  | cons first rest ih =>
      unfold ElementReader.labelTarget at resolved
      cases read : document.reader.readText first with
      | error fault =>
          rw [read] at resolved
          cases resolved
      | ok text =>
          have fresh := (not_stale_of_readElement read).1
          simp only [read, bind, Except.bind] at resolved
          split at resolved
          · cases pointed : document.reader.readAttribute first "for" with
            | error fault =>
                rw [pointed] at resolved
                cases resolved
            | ok id =>
                have inside : first = node := by
                  rw [pointed] at resolved
                  cases id with
                  | none =>
                      cases resolved
                      rfl
                  | some id =>
                      have chosen := Except.ok.inj resolved
                      split at chosen
                      · exact LabelTarget.inside.inj chosen
                      · cases chosen
                rw [← inside]
                exact fresh
          · exact ih resolved

/-- The place that a label leads to can be searched. -/
theorem not_stale_of_labelTarget {label : Pattern} {target : LabelTarget Nat}
    (resolved : document.labelTarget root label = .ok target) :
    document.stale.contains ((place root (some target)).getD 0) = false := by
  obtain ⟨labels, answered, found⟩ := exists_labels resolved
  cases target with
  | inside node => exact not_stale_of_inside found
  | _ => exact (recorded_of_answer answered).1

end Lookups

theorem yields_resolveLabel (label : Pattern) :
    Yields document (driver.resolveLabel root label) (document.labelTarget root label)
      (document.recorded root .tagName "label") :=
  (yields_findElements document root .tagName "label").bind
    (yields_labelTarget document label)

theorem yields_candidatesBelow {below : Option Nat} {others : Criteria} {base : Query}
    (built : others.exactQuery kind preferCss = .ok base) (patterns : List (Key × Pattern)) :
    Yields document ((finder root kind preferCss).candidatesBelow below others patterns)
      (document.answer below (base.narrow patterns).strategy (base.narrow patterns).text)
      (document.recorded below (base.narrow patterns).strategy (base.narrow patterns).text) :=
  (Yields.ofExcept_of_eq built).bind_ok (yields_findElements document below _ _)

variable {document root kind} {criteria : Criteria} {target : Option (LabelTarget Nat)}

/-- A label that was resolved was looked for by its pattern. -/
theorem exists_label_of_resolvedLabel {pointed : LabelTarget Nat}
    (resolved : document.resolvedLabel root kind criteria = .ok (some pointed)) :
    ∃ label, (finder root kind preferCss).labelPattern? criteria.patterns = some label ∧
      document.labelTarget root label = .ok pointed ∧
      Yields document (driver.resolveLabel root label) (.ok pointed) [(.tagName, "label")] := by
  cases asked : (finder root kind preferCss).labelPattern? criteria.patterns with
  | none =>
      rw [resolvedLabel_of_no_labelPattern? asked] at resolved
      cases resolved
  | some label =>
      rw [resolvedLabel_of_labelPattern? asked] at resolved
      cases found : document.labelTarget root label with
      | error fault =>
          rw [found] at resolved
          cases resolved
      | ok target =>
          rw [found] at resolved
          obtain rfl : target = pointed := Option.some.inj (Except.ok.inj resolved)
          obtain ⟨labels, answered, _⟩ := exists_labels found
          have looked := yields_resolveLabel document root label
          rw [found, (recorded_of_answer answered).2] at looked
          exact ⟨label, rfl, found, looked⟩

theorem no_labelPattern?_of_resolvedLabel
    (resolved : document.resolvedLabel root kind criteria = .ok none) :
    (finder root kind preferCss).labelPattern? criteria.patterns = none := by
  cases asked : (finder root kind preferCss).labelPattern? criteria.patterns with
  | none => rfl
  | some label =>
      rw [resolvedLabel_of_labelPattern? asked] at resolved
      cases found : document.labelTarget root label with
      | error fault =>
          rw [found] at resolved
          cases resolved
      | ok target =>
          rw [found] at resolved
          cases Except.ok.inj resolved

/-- The candidates are what the broader query is answered with, unless the label is nowhere. -/
theorem yields_candidates (unplaced : criteria.contains .index = false)
    (resolved : document.resolvedLabel root kind criteria = .ok target)
    (there : target ≠ some .nowhere) :
    ∃ base, (criteria.residue target).exactQuery kind preferCss = .ok base ∧
      let query := base.narrow (criteria.checkedPatterns kind)
      Yields document ((finder root kind preferCss).candidates criteria)
        ((criteria.checkedPatterns kind, ·) <$>
          document.answer (place root target) query.strategy query.text)
        (labelCalls target ++
          document.recorded (place root target) query.strategy query.text) := by
  obtain ⟨base, built⟩ := Criteria.exists_exactQuery kind preferCss
    (Criteria.contains_index_residue target unplaced) (Criteria.hasPattern_residue target)
  refine ⟨base, built, ?_⟩
  unfold Finder.candidates
  cases target with
  | none =>
      have unasked := no_labelPattern?_of_resolvedLabel preferCss resolved
      rw [checkedPatterns_of_no_labelPattern? unasked]
      dsimp only
      rw [unasked]
      exact (yields_candidatesBelow document root kind preferCss built _).bind fun found => .pure _
  | some pointed =>
      obtain ⟨label, asked, _, looked⟩ := exists_label_of_resolvedLabel preferCss resolved
      rw [checkedPatterns_of_labelPattern? asked]
      dsimp only
      rw [asked]
      refine looked.bind_ok ?_
      cases pointed with
      | nowhere => exact absurd rfl there
      | identified id =>
          exact (yields_candidatesBelow document root kind preferCss built _).bind
            fun found => .pure _
      | inside node =>
          exact (yields_candidatesBelow document root kind preferCss built _).bind
            fun found => .pure _

/-- No candidates are asked for where the label is nowhere. -/
theorem yields_candidates_of_nowhere
    (resolved : document.resolvedLabel root kind criteria = .ok (some .nowhere)) :
    Yields document ((finder root kind preferCss).candidates criteria)
      (.ok (criteria.checkedPatterns kind, [])) [(.tagName, "label")] := by
  obtain ⟨label, asked, _, looked⟩ := exists_label_of_resolvedLabel preferCss resolved
  unfold Finder.candidates
  dsimp only
  rw [asked, checkedPatterns_of_labelPattern? asked]
  exact looked.bind_ok (.pure _)

/-- The search for candidates fails where that for their label does. -/
theorem yields_candidates_of_error {fault : Fault}
    (failed : document.resolvedLabel root kind criteria = .error fault) :
    Yields document ((finder root kind preferCss).candidates criteria) (.error fault)
      (document.recorded root .tagName "label") := by
  cases asked : (finder root kind preferCss).labelPattern? criteria.patterns with
  | none =>
      rw [resolvedLabel_of_no_labelPattern? asked] at failed
      cases failed
  | some label =>
      have looked := yields_resolveLabel document root label
      rw [resolvedLabel_of_labelPattern? asked] at failed
      cases found : document.labelTarget root label with
      | ok pointed =>
          rw [found] at failed
          cases failed
      | error other =>
          rw [found] at failed looked
          obtain rfl : other = fault := Except.error.inj failed
          unfold Finder.candidates
          dsimp only
          rw [asked]
          exact looked.bind_error

/-! ## Searches of filtered candidates -/

variable {preferCss} {chosen : Except Fault (List (Key × Pattern) × List Nat)} {calls : Calls}

/-- All candidates are checked in a search for all matches. -/
theorem yields_allPlanned (linkless : (finder root kind preferCss).refuseLinks criteria = .ok ())
    (planned : criteria.plan kind preferCss = .ok .filtered)
    (gathered : Yields document ((finder root kind preferCss).candidates criteria) chosen calls) :
    Yields document ((finder root kind preferCss).allPlanned criteria)
      (chosen >>= fun chosen => allThat (document.reader.meetsPatterns chosen.1) chosen.2) calls :=
  (Yields.ofExcept_of_eq linkless).bind_ok <| (Yields.ofExcept_of_eq planned).bind_ok <|
    gathered.bind fun chosen => yields_allThat
      (fun node => yields_meetsPatterns document node chosen.1) chosen.2

/-- The candidates are the same in a search for one match. -/
theorem exists_yields_firstPlanned
    (linkless : (finder root kind preferCss).refuseLinks criteria = .ok ())
    (planned : criteria.withoutIndex.plan kind preferCss = .ok .filtered)
    (gathered : Yields document ((finder root kind preferCss).candidates criteria.withoutIndex)
      chosen calls) :
    ∃ result, Yields document ((finder root kind preferCss).firstPlanned criteria) result
      calls := by
  have passed {next : Plan → Work Document (Option Nat)} {result : Except Fault (Option Nat)}
      (later : Yields document (next .filtered) result calls) :
      Yields document (Work.ofExcept ((finder root kind preferCss).refuseLinks criteria) >>=
        fun _ => Work.ofExcept (criteria.withoutIndex.plan kind preferCss) >>= next) result calls :=
    (Yields.ofExcept_of_eq linkless).bind_ok ((Yields.ofExcept_of_eq planned).bind_ok later)
  unfold Finder.firstPlanned
  cases criteria.index? with
  | none =>
      exact ⟨_, passed <| gathered.bind fun chosen => yields_firstThat
        (fun node => yields_meetsPatterns document node chosen.1) chosen.2⟩
  | some position =>
      have filtered := gathered.bind fun chosen => yields_allThat
        (fun node => yields_meetsPatterns document node chosen.1) chosen.2
      exact ⟨_, passed <| filtered.bind fun found => .pure (pick found position)⟩

end Document

end ElementSearch
