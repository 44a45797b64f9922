/-
# Lookups and scans

A lone literal is looked up by the page itself, while a lone pattern is checked on all elements
below the root, one after the other. Still the two can ask for the same: a pattern can be made for
exactly one text. Where every element can be read, the scan for such a pattern gives what the
lookup of the text is answered with, in the same order, for identifiers and for names.
-/

import ElementSearch.Proofs.Regex.Exact
import ElementSearch.Proofs.Search.Filter
import ElementSearch.Proofs.Selector.Filing

namespace ElementSearch

/-- A scan in which every test comes to something gives the members that pass. -/
theorem allThat_of_forall {α : Type} {test : α → Except Fault Bool} {passes : α → Bool}
    {members : List α} (each : ∀ member ∈ members, test member = .ok (passes member)) :
    allThat test members = .ok (members.filter passes) := by
  induction members with
  | nil => rfl
  | cons first rest ih =>
      rw [List.forall_mem_cons] at each
      rw [allThat, each.1, ih each.2, List.filter_cons]
      rfl

/-! ## Selectors of one criterion -/

namespace Selector

/-- The selector with one criterion. -/
def only (name : String) (value : Value) : Selector :=
  ⟨[(name, value)], by simp⟩

variable {kind : ElementKind} {name : String} {strategy : Strategy} {value : Value}

theorem get?_only_of_ne {other : String} (apart : name ≠ other) :
    (only name value).get? other = none := by
  simp [only, OrderedMap.get?, apart]

theorem lone?_only_literal (answered : Strategy.forName? name = some strategy) (text : String) :
    (only name (.literal text)).lone? = some (.literal strategy text) := by
  simp [lone?, only, answered]

theorem lone?_only_pattern (answered : Strategy.forName? name = some strategy) (asked : Pattern) :
    (only name (.pattern asked)).lone? = some (.pattern (loneKey name) asked) := by
  simp [lone?, only, answered]

theorem not_isIdentifiedTag_only : ¬ (only name value).IsIdentifiedTag := by
  rintro ⟨two, _⟩
  cases two

/-- What pages look elements up by is no position. -/
theorem contains_index_of_normalize_only (answered : Strategy.forName? name = some strategy)
    {criteria : Criteria} (normalized : (only name value).normalize kind = .ok criteria) :
    criteria.contains .index = false := by
  refine contains_index_of_normalize ?_ normalized
  rw [OrderedMap.contains_eq_false_iff]
  apply get?_only_of_ne
  rintro rfl
  cases answered

theorem normalize_only (good : ¬ IsBad kind (name, value)) :
    (only name value).normalize kind = .ok (.ofList [filed (name, value)]) :=
  normalize_eq_ok_iff.2 ⟨List.forall_mem_singleton.2 good, rfl⟩

/-- A page looks elements up by the attribute, so every kind takes a text or a pattern for it. -/
theorem not_isBad_of_attribute (free : (filed (name, value)).1.isReserved = false)
    (answered : (Strategy.forName? (canonicalName name)).isSome)
    (sort : ∀ position, value ≠ .index position) : ¬ IsBad kind (name, value) := by
  rintro (misfit | unknown)
  · cases own : (filed (name, value)).1 with
    | attr _ _ =>
        rw [own] at misfit
        obtain ⟨position, same⟩ := misfit
        exact sort position same
    | _ =>
        rw [own] at free
        cases free
  · rw [unknown.notLookedUp] at answered
    cases answered

end Selector

namespace Document

variable {document : Document} {root : Option Nat} {kind : ElementKind} {preferCss : Bool}

/-! ## Documents that can be read -/

/-- The root and the elements below it can be read. -/
def IsFreshBelow (document : Document) (root : Option Nat) : Prop :=
  ∀ node ∈ root.getD 0 :: document.tree.descendants (root.getD 0),
    document.stale.contains node = false

/-- The elements below a root of which something holds. -/
def allBelow (document : Document) (root : Option Nat) (holds : Element → Bool) : List Nat :=
  (document.tree.descendants (root.getD 0)).filter fun node => holds (document.tree.element node)

/-- The tree answers a lookup below a root that can be read. -/
theorem answer_of_fresh (fresh : document.stale.contains (root.getD 0) = false)
    {strategy : Strategy} {value : String} {asked : Element → Bool}
    (answered : answers? strategy value = some asked) :
    document.answer root strategy value = .ok (document.allBelow root asked) := by
  rw [answer, checkLive, fresh, lookup, answered]
  rfl

/-- Every element is what the path to all elements asks for. -/
theorem answers?_all : answers? .xpath ".//*" = some fun _ => true := rfl

theorem allBelow_true (document : Document) (root : Option Nat) :
    document.allBelow root (fun _ => true) = document.tree.descendants (root.getD 0) :=
  List.filter_eq_self.2 fun _ _ => rfl

/-- What a pattern is compared with can be read from an element that is not stale. -/
theorem fetch_of_fresh {node : Nat} (fresh : document.stale.contains node = false) (key : Key) :
    document.reader.fetch node key = .ok ((document.tree.element node).value? key) := by
  cases key with
  | tagName =>
      show document.readElement Element.tag node >>= _ = _
      rw [readElement_of_fresh fresh]
      rfl
  | text =>
      show document.readElement Element.text node >>= _ = _
      rw [readElement_of_fresh fresh]
      rfl
  | className => exact readElement_of_fresh fresh (·.attribute? "class")
  | label => exact readElement_of_fresh fresh (·.attribute? "label")
  | attr name free =>
      unfold ElementReader.fetch Element.value?
      dsimp only
      by_cases link : name = "href"
      · rw [if_pos link, if_pos (beq_iff_eq.2 link)]
        show document.readElement (·.attribute? "href") node >>= _ = _
        rw [readElement_of_fresh fresh]
        rfl
      · rw [if_neg link, if_neg (mt beq_iff_eq.1 link)]
        exact readElement_of_fresh fresh (·.attribute? _)
  | _ => rfl

theorem meetsPattern_of_fresh {node : Nat} (fresh : document.stale.contains node = false)
    (key : Key) (pattern : Pattern) :
    document.reader.meetsPattern key pattern node =
      .ok ((document.tree.element node).meets key pattern) := by
  rw [ElementReader.meetsPattern, fetch_of_fresh fresh]
  rfl

/-- A scan for a pattern gives the elements that meet it. -/
theorem scan_of_fresh (fresh : document.IsFreshBelow root) (key : Key) (pattern : Pattern) :
    document.answer root .xpath ".//*" >>= allThat (document.reader.meetsPattern key pattern) =
      .ok (document.allBelow root (·.meets key pattern)) := by
  rw [IsFreshBelow, List.forall_mem_cons] at fresh
  rw [answer_of_fresh fresh.1 answers?_all, allBelow_true]
  exact allThat_of_forall fun node below => meetsPattern_of_fresh (fresh.2 node below) key pattern

/-! ## Searches for one criterion -/

/-- A single match stands where nothing is said about its tag or its type. -/
theorem settle_of_unchecked {selector : Selector} (tag : selector.get? "tag_name" = none)
    (type : selector.get? "type" = none) : document.settle selector = Except.ok := by
  funext found
  cases found with
  | none => rfl
  | some node =>
      unfold settle ElementReader.fits ElementReader.tagFits ElementReader.typeFits
      rw [tag, type]
      rfl

section Only

variable {name : String} {strategy : Strategy} (answered : Strategy.forName? name = some strategy)

include answered

theorem findAll_only_literal {text : String}
    (good : ¬ Selector.IsBad kind (name, .literal text)) :
    document.outcome ((finder root kind preferCss).findAll (.only name (.literal text))) =
      document.answer root strategy text := by
  have normalized := Selector.normalize_only good
  have unplaced := Selector.contains_index_of_normalize_only answered normalized
  apply outcome_findAll normalized unplaced
  rw [Finder.locateAll, Selector.lone?_only_literal answered]
  exact yields_findElements document root strategy text

theorem findAll_only_pattern {asked : Pattern}
    (good : ¬ Selector.IsBad kind (name, .pattern asked)) :
    document.outcome ((finder root kind preferCss).findAll (.only name (.pattern asked))) =
      document.answer root .xpath ".//*" >>=
        allThat (document.reader.meetsPattern (Selector.loneKey name) asked) := by
  have normalized := Selector.normalize_only good
  have unplaced := Selector.contains_index_of_normalize_only answered normalized
  exact (scans_of_lone (Selector.lone?_only_pattern answered asked) normalized
    unplaced).result_eq

theorem settle_only (untagged : name ≠ "tag_name") (value : Value) :
    document.settle (.only name value) = Except.ok := by
  apply settle_of_unchecked (Selector.get?_only_of_ne untagged)
  apply Selector.get?_only_of_ne
  rintro rfl
  cases answered

/-- Of one criterion that is not for the tag, the first of all matches is found. -/
theorem find_only (untagged : name ≠ "tag_name") {value : Value} {found : List Nat}
    (all : document.outcome ((finder root kind preferCss).findAll (.only name value)) =
      .ok found) :
    document.outcome ((finder root kind preferCss).find (.only name value)) = .ok found.head? := by
  cases normalized : (Selector.only name value).normalize kind with
  | error fault =>
      rw [(outcome_of_invalid document root preferCss normalized).2] at all
      cases all
  | ok criteria =>
      have unplaced := Selector.contains_index_of_normalize_only answered normalized
      obtain ⟨one, every, _, _, yieldsOne, yieldsAll, agrees⟩ :=
        refines_locate document root kind preferCss unplaced Selector.not_isIdentifiedTag_only
      have succeeded := (outcome_findAll normalized unplaced yieldsAll).symm.trans all
      rw [outcome_find normalized yieldsOne, absorb_settle_of_agrees agrees succeeded,
        settle_only answered untagged]
      rfl

end Only

/-! ## Identifiers and names -/

section Identifying

variable {name : String} (named : name = "id" ∨ name = "name")

include named

/-- How a page looks elements up by their identifiers or names, and what it compares. -/
theorem exists_strategy_of_identifying :
    ∃ strategy, Strategy.forName? name = some strategy ∧
      (∀ text, answers? strategy text = some fun element => element.attribute? name == some text) ∧
      ∀ element : Element, element.value? (Selector.loneKey name) = element.attribute? name := by
  obtain rfl | rfl := named
  · exact ⟨.id, rfl, fun _ => rfl, fun _ => rfl⟩
  · exact ⟨.name, rfl, fun _ => rfl, fun _ => rfl⟩

theorem not_isBad_of_identifying {value : Value} (sort : ∀ position, value ≠ .index position) :
    ¬ Selector.IsBad kind (name, value) := by
  obtain rfl | rfl := named
  · exact Selector.not_isBad_of_attribute rfl rfl sort
  · exact Selector.not_isBad_of_attribute rfl rfl sort

end Identifying

/-- What has exactly one text under a key meets the pattern for that text, and nothing else does. -/
theorem meets_of_isExactly {pattern : Pattern} {text : String} (exactly : pattern.IsExactly text)
    (element : Element) (key : Key) :
    element.meets key pattern = (element.value? key == some text) := by
  rw [Element.meets, Bool.eq_iff_iff, beq_iff_eq]
  cases element.value? key with
  | none => simp
  | some actual => simp [Pattern.matchesIn_iff_of_isExactly exactly]

/-- Where the root and all elements below it can be read, a literal for their identifiers or names
gives the same as the pattern for exactly this text: the elements with this attribute, in order,
and of them the first. -/
theorem lookup_eq_scan (document : Document) (root : Option Nat) (kind : ElementKind)
    (preferCss : Bool) {name : String} (named : name = "id" ∨ name = "name") {text : String}
    {pattern : Pattern} (exactly : pattern.IsExactly text) (fresh : document.IsFreshBelow root) :
    let found := document.allBelow root fun element => element.attribute? name == some text
    document.outcome ((finder root kind preferCss).findAll (.only name (.literal text))) =
        .ok found ∧
      document.outcome ((finder root kind preferCss).findAll (.only name (.pattern pattern))) =
        .ok found ∧
      document.outcome ((finder root kind preferCss).find (.only name (.literal text))) =
        .ok found.head? ∧
      document.outcome ((finder root kind preferCss).find (.only name (.pattern pattern))) =
        .ok found.head? := by
  intro found
  obtain ⟨strategy, answered, compares, reads⟩ := exists_strategy_of_identifying named
  have untagged : name ≠ "tag_name" := by
    rintro rfl
    exact absurd named (by decide)
  have looked : document.outcome
      ((finder root kind preferCss).findAll (.only name (.literal text))) = .ok found := by
    rw [findAll_only_literal answered (not_isBad_of_identifying named nofun)]
    exact answer_of_fresh (fresh _ List.mem_cons_self) (compares text)
  have scanned : document.outcome
      ((finder root kind preferCss).findAll (.only name (.pattern pattern))) = .ok found := by
    rw [findAll_only_pattern answered (not_isBad_of_identifying named nofun),
      scan_of_fresh fresh]
    simp only [meets_of_isExactly exactly, reads]
    rfl
  exact ⟨looked, scanned, find_only answered untagged looked, find_only answered untagged scanned⟩

/-- Three paragraphs, of which the last is inside the second and has its identifier as well. -/
def dottedParagraphs : Document where
  tree := ⟨[⟨0, "p", [("id", "axb")], ""⟩, ⟨0, "p", [("id", "a.b")], ""⟩,
    ⟨2, "p", [("class", "c"), ("id", "a.b")], ""⟩], by decide⟩
  stubs := .empty
  stale := []
  calls := []

/-- A dot in an identifier stands for itself in the pattern for the identifier. -/
theorem lookup_eq_scan_dotted :
    ∃ pattern : Pattern, pattern.IsExactly "a.b" ∧ dottedParagraphs.IsFreshBelow none ∧
      dottedParagraphs.outcome
        ((finder none .generic false).findAll (.only "id" (.literal "a.b"))) = .ok [2, 3] ∧
      dottedParagraphs.outcome
        ((finder none .generic false).findAll (.only "id" (.pattern pattern))) = .ok [2, 3] ∧
      dottedParagraphs.outcome
        ((finder none .generic false).find (.only "id" (.literal "a.b"))) = .ok (some 2) ∧
      dottedParagraphs.outcome
        ((finder none .generic false).find (.only "id" (.pattern pattern))) = .ok (some 2) := by
  obtain ⟨pattern, exactly⟩ := Pattern.exists_isExactly "a.b"
  have fresh : dottedParagraphs.IsFreshBelow none := fun _ _ => rfl
  exact ⟨pattern, exactly, fresh,
    lookup_eq_scan dottedParagraphs none .generic false (.inl rfl) exactly fresh⟩

end Document

end ElementSearch
