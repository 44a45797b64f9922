/-
# Finding one match beside finding all

An identifier and a lone criterion are passed on as they are, criteria are planned, and a
position picks from all matches. Whichever way is taken, finding one match comes to what
finding all of them says: the first of them, or the one that a position denotes, as far
as it stands up to the check of a single result. An identifier beside a tag is left out,
since only a search for one match asks for it first and checks the tag afterwards.
-/

import ElementSearch.Proofs.Search.Position
import ElementSearch.Proofs.Search.Refinement

namespace ElementSearch

/-! ## Which way a selector goes -/

/-- Identifiers have one name. -/
theorem Strategy.eq_of_forName?_id {name : String} (answered : forName? name = some .id) :
    name = "id" := by
  unfold forName? at answered
  split at answered
  · rfl
  all_goals cases answered

namespace Selector

variable {selector : Selector}

/-- The selector asks for an identifier and a tag, and for nothing else. -/
def IsIdentifiedTag (selector : Selector) : Prop :=
  selector.size = 2 ∧ (∃ id, selector.get? "id" = some (.literal id)) ∧
    selector.contains "tag_name" = true

/-- The selector is one literal or one pattern under a name that pages answer by themselves. -/
def IsLone (selector : Selector) : Prop :=
  ∃ name value, selector.entries = [(name, value)] ∧ (Strategy.forName? name).isSome ∧
    (value.literal?.isSome ∨ value.isPattern)

theorem lone?_eq_none (several : ¬ selector.IsLone) : selector.lone? = none := by
  unfold lone?
  split
  · next name value alone =>
      cases answered : Strategy.forName? name with
      | none => rfl
      | some strategy =>
          have lone (sort : value.literal?.isSome ∨ value.isPattern) : selector.IsLone :=
            ⟨name, value, alone, by rw [answered]; rfl, sort⟩
          cases value with
          | literal text => exact absurd (lone (.inl rfl)) several
          | pattern asked => exact absurd (lone (.inr rfl)) several
          | _ => rfl
  · rfl

/-- A lone criterion is the only one of its selector. -/
theorem exists_entry_of_lone? {criterion : LoneCriterion}
    (lone : selector.lone? = some criterion) :
    ∃ name value, selector.entries = [(name, value)] ∧ (Strategy.forName? name).isSome ∧
      match criterion with
      | .literal _ text => value = .literal text
      | .pattern key asked => value = .pattern asked ∧ key = loneKey name := by
  unfold lone? at lone
  split at lone
  · next name value alone =>
      obtain ⟨strategy, answered, chosen⟩ := Option.bind_eq_some_iff.1 lone
      refine ⟨name, value, alone, by rw [answered]; rfl, ?_⟩
      cases value with
      | literal text =>
          cases chosen
          rfl
      | pattern asked =>
          cases chosen
          exact ⟨rfl, rfl⟩
      | _ => cases chosen
  · cases lone

theorem exists_name_of_lone_literal {strategy : Strategy} {text : String}
    (lone : selector.lone? = some (.literal strategy text)) :
    ∃ name, selector.entries = [(name, .literal text)] ∧
      Strategy.forName? name = some strategy := by
  unfold lone? at lone
  split at lone
  · next name value alone =>
      obtain ⟨own, answered, chosen⟩ := Option.bind_eq_some_iff.1 lone
      cases value with
      | literal text =>
          cases chosen
          exact ⟨name, alone, answered⟩
      | _ => cases chosen
  · cases lone

theorem identifier?_eq_some {id : String} (asked : selector.identifier? = some id) :
    selector.get? "id" = some (.literal id) ∧
      selector.size = if selector.contains "tag_name" then 2 else 1 := by
  rw [identifier?, Option.filter_eq_some_iff, Option.bind_eq_some_iff, beq_iff_eq] at asked
  obtain ⟨⟨value, present, literal⟩, counted⟩ := asked
  rw [Value.literal?_eq_some_iff.1 literal] at present
  exact ⟨present, counted⟩

/-- A selector of one entry has only that. -/
theorem entries_of_get? {name : String} {value : Value} (alone : selector.size = 1)
    (present : selector.get? name = some value) : selector.entries = [(name, value)] := by
  obtain ⟨entry, single⟩ := List.length_eq_one_iff.1 alone
  rw [OrderedMap.get?_eq_some_iff, single, List.mem_singleton] at present
  rw [single, present]

/-- An identifier that is looked for first is the lone criterion, unless a tag stands beside it. -/
theorem entries_of_identifier? {id : String} (asked : selector.identifier? = some id)
    (other : ¬ selector.IsIdentifiedTag) : selector.entries = [("id", .literal id)] := by
  obtain ⟨present, counted⟩ := identifier?_eq_some asked
  cases tagged : selector.contains "tag_name" with
  | true =>
      rw [tagged, if_pos rfl] at counted
      exact absurd ⟨counted, ⟨id, present⟩, tagged⟩ other
  | false =>
      rw [tagged, if_neg Bool.false_ne_true] at counted
      exact entries_of_get? counted present

theorem mem_keys_of_get? {name : String} {value : Value} (present : selector.get? name = some value) :
    name ∈ selector.keys :=
  List.mem_map_of_mem (OrderedMap.get?_eq_some_iff.1 present)

/-- An identifier is not looked for first where there is more than it and a tag. -/
theorem identifier?_of_present {name : String} (present : name ∈ selector.keys)
    (untagged : name ≠ "tag_name") (other : name ≠ "id") : selector.identifier? = none := by
  rw [Option.eq_none_iff_forall_ne_some]
  intro id asked
  obtain ⟨identified, counted⟩ := identifier?_eq_some asked
  have both : ["id", name] ⊆ selector.keys :=
    List.cons_subset.2 ⟨mem_keys_of_get? identified,
      List.cons_subset.2 ⟨present, List.nil_subset _⟩⟩
  rw [← OrderedMap.length_keys] at counted
  cases tagged : selector.contains "tag_name" with
  | false =>
      have two := List.Nodup.length_le_of_subset (by simpa using Ne.symm other) both
      rw [tagged, if_neg Bool.false_ne_true] at counted
      simp only [List.length_cons, List.length_nil] at two
      omega
  | true =>
      have all : ["tag_name", "id", name] ⊆ selector.keys :=
        List.cons_subset.2 ⟨OrderedMap.contains_iff_mem_keys.1 tagged, both⟩
      have three := List.Nodup.length_le_of_subset
        (by simpa using ⟨Ne.symm untagged, Ne.symm other⟩) all
      rw [tagged, if_pos rfl] at counted
      simp only [List.length_cons, List.length_nil] at three
      omega

/-- Nothing stands alone beside a name that pages do not answer. -/
theorem lone?_of_present {name : String} (present : name ∈ selector.keys)
    (unanswered : Strategy.forName? name = none) : selector.lone? = none := by
  apply lone?_eq_none
  rintro ⟨other, value, alone, answered, _⟩
  rw [OrderedMap.keys, alone, List.map_singleton, List.mem_singleton] at present
  have named : name = other := present
  rw [← named, unanswered] at answered
  cases answered

theorem get?_withIndex {name : String} (other : "index" ≠ name) (position : Int64) :
    (selector.withIndex position).get? name = selector.get? name := by
  rw [withIndex, OrderedMap.get?_insert, if_neg other]

theorem index_mem_keys_withIndex (selector : Selector) (position : Int64) :
    "index" ∈ (selector.withIndex position).keys :=
  OrderedMap.mem_keys_put.2 (.inl rfl)

/-- With a position, an identifier is one criterion among others. -/
theorem identifier?_withIndex (position : Int64) :
    (selector.withIndex position).identifier? = none :=
  identifier?_of_present (index_mem_keys_withIndex selector position) (by decide) (by decide)

/-- With a position, no criterion stands alone. -/
theorem lone?_withIndex (position : Int64) : (selector.withIndex position).lone? = none :=
  lone?_of_present (index_mem_keys_withIndex selector position) rfl

end Selector

/-! ## Criteria with a position -/

namespace Criteria

variable {criteria : Criteria}

theorem withoutIndex_insert (absent : criteria.contains .index = false) (position : Int64) :
    withoutIndex (criteria.insert .index (.index position)) = criteria :=
  OrderedMap.erase_insert_of_absent absent _

theorem index?_insert (position : Int64) :
    index? (criteria.insert .index (.index position)) = some position := by
  rw [index?, OrderedMap.get?_insert, if_pos rfl]

end Criteria

namespace Finder

variable {σ η : Type} (finder : Finder σ η)

theorem refuseLinks_eq_ok_iff {criteria : Criteria} :
    finder.refuseLinks criteria = .ok () ↔
      ∀ key ∈ criteria.keys, linkNames.contains key.name = false := by
  unfold refuseLinks
  cases named : criteria.keys.find? fun key => linkNames.contains key.name with
  | none =>
      refine ⟨fun _ key member => ?_, fun _ => rfl⟩
      exact Bool.eq_false_iff.2 (List.find?_eq_none.1 named key member)
  | some key =>
      refine ⟨fun refused => (by cases refused), fun free => ?_⟩
      have link := List.find?_some named
      rw [free key (List.mem_of_find?_eq_some named)] at link
      cases link

/-- A position is no criterion about links. -/
theorem refuseLinks_insert {criteria : Criteria} (absent : criteria.contains .index = false)
    (position : Int64) :
    finder.refuseLinks (criteria.insert .index (.index position)) = finder.refuseLinks criteria := by
  unfold refuseLinks OrderedMap.keys
  rw [OrderedMap.entries_insert_of_absent absent, List.map_append, List.find?_append]
  cases (List.map Prod.fst criteria.entries).find? fun key => linkNames.contains key.name with
  | none => rfl
  | some key => rfl

/-- With a position, the planned search is for all matches, of which it picks one. -/
theorem firstPlanned_insert {criteria : Criteria} (absent : criteria.contains .index = false)
    (position : Int64) :
    finder.firstPlanned (criteria.insert .index (.index position)) =
      (pick · position) <$> finder.allPlanned criteria := by
  unfold firstPlanned allPlanned
  rw [refuseLinks_insert finder absent, Criteria.index?_insert,
    Criteria.withoutIndex_insert absent, map_bind]
  refine bind_congr fun _ => ?_
  rw [map_bind]
  refine bind_congr fun plan => ?_
  cases plan with
  | exact query => exact bind_pure_comp _ _
  | filtered => exact bind_pure_comp _ _

/-- Every match of a selector that was normalized to `criteria`. -/
def locateAll (selector : Selector) (criteria : Criteria) : Work σ (List η) :=
  match selector.lone? with
  | some criterion => finder.allLone criterion
  | none => finder.allPlanned criteria

/-- With a position, what is located is picked from all planned matches. -/
theorem locate_withIndex {criteria : Criteria} (selector : Selector)
    (unplaced : criteria.contains .index = false) (position : Int64) :
    finder.locate (selector.withIndex position) (criteria.insert .index (.index position)) =
      (pick · position) <$> finder.allPlanned criteria := by
  rw [locate, Selector.identifier?_withIndex, Selector.lone?_withIndex]
  exact firstPlanned_insert finder unplaced position

/-- Nothing is asked about the tag where the selector names none. -/
theorem firstIdentified_of_untagged {selector : Selector} (untagged : selector.get? "tag_name" = none)
    (id : String) :
    finder.firstIdentified selector id = some <$> finder.driver.findElement finder.root .id id := by
  unfold firstIdentified ElementReader.tagFits
  rw [untagged, map_eq_pure_bind]
  refine bind_congr fun element => ?_
  rw [pure_bind, if_pos rfl]

end Finder

namespace Document

variable {document : Document} {root : Option Nat} {kind : ElementKind} {preferCss : Bool}
  {selector : Selector} {criteria : Criteria}

/-- What work comes to on a document. -/
def outcome {α : Type} (document : Document) (work : Work Document α) : Except Fault α :=
  (work.run document).1

/-- A match, unless the check of a single result turns it down. -/
def settle (document : Document) (selector : Selector) : Option Nat → Except Fault (Option Nat)
  | none => .ok none
  | some element => do
      if ← document.reader.fits selector element then return some element
      else return none

/-- A match that stands up to the check of a single result. One that is gone does not. -/
def validated (document : Document) (selector : Selector) (element : Nat) :
    Except Fault (Option Nat) :=
  Work.absorb (document.settle selector (some element))

/-! ## Searches for one match -/

/-- Up to the check of a single result, looking for one match agrees with looking for all. -/
theorem refines_locate (document : Document) (root : Option Nat) (kind : ElementKind)
    (preferCss : Bool) (unplaced : criteria.contains .index = false)
    (other : ¬ selector.IsIdentifiedTag) :
    Refines document ((finder root kind preferCss).locate selector criteria)
      ((finder root kind preferCss).locateAll selector criteria) := by
  unfold Finder.locate Finder.locateAll
  cases asked : selector.identifier? with
  | some id =>
      have alone := Selector.entries_of_identifier? asked other
      have lone : selector.lone? = some (.literal .id id) := by
        rw [Selector.lone?, alone]
        rfl
      have untagged : selector.get? "tag_name" = none := by
        rw [OrderedMap.get?, alone]
        rfl
      rw [lone]
      dsimp only
      rw [Finder.firstIdentified_of_untagged _ untagged]
      exact refines_findElement document root .id id
  | none =>
      cases selector.lone? with
      | some criterion => exact refines_firstLone document root kind preferCss criterion
      | none => exact refines_firstPlanned document root kind preferCss unplaced

/-- The search for one match checks what it locates, and takes absence for no match. -/
theorem yields_find {result : Except Fault (Option Nat)} {calls : Calls}
    (normalized : selector.normalize kind = .ok criteria)
    (located : Yields document ((finder root kind preferCss).locate selector criteria) result
      calls) :
    Yields document ((finder root kind preferCss).find selector)
      (Work.absorb (result >>= document.settle selector)) calls := by
  refine (Yields.ofExcept_of_eq normalized).bind_ok (Yields.absent (located.bind fun found => ?_))
  cases found with
  | none => exact .pure none
  | some element =>
      apply (yields_fits document element selector).bind
      intro passes
      cases passes with
      | true => exact .pure (some element)
      | false => exact .pure none

theorem outcome_find {result : Except Fault (Option Nat)} {calls : Calls}
    (normalized : selector.normalize kind = .ok criteria)
    (located : Yields document ((finder root kind preferCss).locate selector criteria) result
      calls) :
    document.outcome ((finder root kind preferCss).find selector) =
      Work.absorb (result >>= document.settle selector) :=
  (yields_find normalized located).result_eq

/-- The search for all matches gives what it locates. -/
theorem yields_findAll {result : Except Fault (List Nat)} {calls : Calls}
    (normalized : selector.normalize kind = .ok criteria)
    (unplaced : criteria.contains .index = false)
    (located : Yields document ((finder root kind preferCss).locateAll selector criteria) result
      calls) :
    Yields document ((finder root kind preferCss).findAll selector) result calls := by
  refine (Yields.ofExcept_of_eq normalized).bind_ok ?_
  rw [if_neg (by rw [unplaced]; exact Bool.false_ne_true)]
  exact located

theorem outcome_findAll {result : Except Fault (List Nat)} {calls : Calls}
    (normalized : selector.normalize kind = .ok criteria)
    (unplaced : criteria.contains .index = false)
    (located : Yields document ((finder root kind preferCss).locateAll selector criteria) result
      calls) :
    document.outcome ((finder root kind preferCss).findAll selector) = result :=
  (yields_findAll normalized unplaced located).result_eq

/-! ## The outcome of one search from that of the other -/

/-- What agrees with finding all matches comes to the first of them, once it is checked. -/
theorem absorb_settle_of_agrees {one : Except Fault (Option Nat)} {all : Except Fault (List Nat)}
    (agrees : Agrees one all) {found : List Nat} (succeeded : all = .ok found) :
    Work.absorb (one >>= document.settle selector) =
      Work.absorb (document.settle selector found.head?) := by
  have absorbed := agrees.found found succeeded
  cases one with
  | ok chosen =>
      obtain rfl : chosen = found.head? := Except.ok.inj absorbed
      rfl
  | error fault =>
      cases absent : fault.isAbsence with
      | true =>
          rw [Work.absorb_of_absence absent] at absorbed
          rw [← Except.ok.inj absorbed]
          exact Work.absorb_of_absence absent
      | false =>
          rw [Work.absorb_of_not_absence absent] at absorbed
          cases absorbed

/-- What agrees with finding all matches fails as that does, unless that means absence. -/
theorem absorb_settle_of_agrees_error {one : Except Fault (Option Nat)}
    {all : Except Fault (List Nat)} (agrees : Agrees one all) {fault : Fault}
    (failed : all = .error fault) (other : fault.isAbsence = false) :
    Work.absorb (one >>= document.settle selector) = .error fault := by
  rw [agrees.failed fault failed other]
  exact Work.absorb_of_not_absence other

/-- The check of a single result does not look at the position. -/
theorem settle_withIndex (position : Int64) :
    document.settle (selector.withIndex position) = document.settle selector := by
  funext found
  cases found with
  | none => rfl
  | some element =>
      unfold settle ElementReader.fits ElementReader.tagFits ElementReader.typeFits
      rw [Selector.get?_withIndex (by decide), Selector.get?_withIndex (by decide)]

theorem outcome_of_invalid (document : Document) (root : Option Nat) (preferCss : Bool)
    {fault : Fault} (invalid : selector.normalize kind = .error fault) :
    document.outcome ((finder root kind preferCss).find selector) = .error fault ∧
      document.outcome ((finder root kind preferCss).findAll selector) = .error fault := by
  have refused : Yields document
      (Work.ofExcept (selector.normalize (finder root kind preferCss).kind)) (.error fault) [] :=
    .ofExcept_of_eq invalid
  exact ⟨refused.bind_error.result_eq, refused.bind_error.result_eq⟩

/-- With a position, the search for one match picks from all of them. -/
theorem outcome_find_withIndex (absent : selector.contains "index" = false)
    (several : ¬ selector.IsLone) {found : List Nat}
    (all : document.outcome ((finder root kind preferCss).findAll selector) = .ok found)
    (position : Int64) :
    document.outcome ((finder root kind preferCss).find (selector.withIndex position)) =
      Work.absorb (document.settle selector (pick found position)) := by
  cases normalized : selector.normalize kind with
  | error fault =>
      rw [(outcome_of_invalid document root preferCss normalized).2] at all
      cases all
  | ok criteria =>
      have unplaced := Selector.contains_index_of_normalize absent normalized
      obtain ⟨result, calls, planned⟩ :=
        (refines_firstPlanned document root kind preferCss unplaced).determined
      have gathered : Yields document ((finder root kind preferCss).locateAll selector criteria)
          result calls := by
        rw [Finder.locateAll, Selector.lone?_eq_none several]
        exact planned
      obtain rfl : result = .ok found :=
        (outcome_findAll normalized unplaced gathered).symm.trans all
      have placed : (selector.withIndex position).normalize kind =
          .ok (criteria.insert .index (.index position)) := by
        rw [Selector.normalize_withIndex absent, normalized]
        rfl
      have picked : Yields document ((finder root kind preferCss).locate
          (selector.withIndex position) (criteria.insert .index (.index position)))
          (.ok (pick found position)) calls := by
        rw [Finder.locate_withIndex _ _ unplaced]
        exact planned.map (pick · position)
      rw [outcome_find placed picked, settle_withIndex]
      rfl

/-- Finding one match comes to the first of all matches, or, with a position, to the one that it
denotes, as far as it stands up to the check of a single result; and finding one fails where
finding all does, unless the fault means absence. The number of matches is a 64-bit number. -/
theorem find_of_findAll (document : Document) (root : Option Nat) (kind : ElementKind)
    (preferCss : Bool) {selector : Selector} (absent : selector.contains "index" = false) :
    (¬ selector.IsIdentifiedTag →
      (∀ found, document.outcome ((finder root kind preferCss).findAll selector) = .ok found →
        document.outcome ((finder root kind preferCss).find selector) =
          match found with
          | [] => .ok none
          | first :: _ => document.validated selector first) ∧
      ∀ fault, document.outcome ((finder root kind preferCss).findAll selector) = .error fault →
        fault.isAbsence = false →
          document.outcome ((finder root kind preferCss).find selector) = .error fault) ∧
    (¬ selector.IsLone →
      ∀ found, document.outcome ((finder root kind preferCss).findAll selector) = .ok found →
        (found.length : Int) ≤ Int64.maxValue.toInt → ∀ position : Int64,
          (position.toInt < -found.length ∨ found.length ≤ position.toInt →
            document.outcome ((finder root kind preferCss).find (selector.withIndex position)) =
              .ok none) ∧
          ∀ place (bound : place < found.length),
            (place : Int) = position.toInt ∨ (place : Int) = found.length + position.toInt →
            document.outcome ((finder root kind preferCss).find (selector.withIndex position)) =
              document.validated selector found[place]) := by
  constructor
  · intro other
    cases normalized : selector.normalize kind with
    | error fault =>
        have ⟨one, all⟩ := outcome_of_invalid document root preferCss normalized
        rw [one, all]
        constructor
        · intro found succeeded
          cases succeeded
        · intro other failed _
          rw [Except.error.inj failed]
    | ok criteria =>
        have unplaced := Selector.contains_index_of_normalize absent normalized
        obtain ⟨one, all, _, _, yieldsOne, yieldsAll, agrees⟩ :=
          refines_locate document root kind preferCss unplaced other
        rw [outcome_find normalized yieldsOne, outcome_findAll normalized unplaced yieldsAll]
        constructor
        · intro found succeeded
          rw [absorb_settle_of_agrees agrees succeeded]
          cases found with
          | nil => rfl
          | cons first rest => rfl
        · intro fault failed present
          exact absorb_settle_of_agrees_error agrees failed present
  · intro several found all small position
    constructor
    · intro outside
      rw [outcome_find_withIndex absent several all, pick_eq_none small outside]
      rfl
    · intro place bound denotes
      rw [outcome_find_withIndex absent several all, pick_eq_some small bound denotes]
      rfl

/-- Of three buttons, of which the second is stale, every one is found by its position, and none
behind them. -/
theorem find_of_findAll_buttons :
    ∃ (document : Document) (selector : Selector),
      document.stale = [2] ∧ selector.contains "index" = false ∧ ¬ selector.IsIdentifiedTag ∧
      ¬ selector.IsLone ∧
      document.outcome ((finder none .generic false).findAll selector) = .ok [1, 2, 3] ∧
      document.outcome ((finder none .generic false).find selector) =
        document.validated selector 1 ∧
      document.outcome ((finder none .generic false).find (selector.withIndex (-2))) =
        document.validated selector 2 ∧
      document.outcome ((finder none .generic false).find (selector.withIndex 3)) = .ok none := by
  let document : Document := {
    tree := ⟨[⟨0, "button", [], "Save"⟩, ⟨0, "button", [], "Open"⟩, ⟨0, "button", [], "Quit"⟩],
      by decide⟩
    stubs := .empty
    stale := [2]
    calls := [] }
  let selector : Selector :=
    ⟨[("tag_name", .literal "Button"), ("xpath", .literal ".//button")], by decide⟩
  have all : document.outcome ((finder none .generic false).findAll selector) = .ok [1, 2, 3] := rfl
  have other : ¬ selector.IsIdentifiedTag := by
    rintro ⟨_, ⟨id, present⟩, _⟩
    cases present
  have several : ¬ selector.IsLone := by
    rintro ⟨name, value, alone, _⟩
    cases alone
  have refined := find_of_findAll document none .generic false
    (show selector.contains "index" = false by decide)
  exact ⟨document, selector, rfl, by decide, other, several, all, (refined.1 other).1 _ all,
    (refined.2 several _ all (by decide) (-2)).2 1 (by decide) (by decide),
    (refined.2 several _ all (by decide) 3).1 (by decide)⟩

end Document

end ElementSearch
