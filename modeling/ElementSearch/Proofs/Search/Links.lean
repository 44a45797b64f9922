/-
# Links

Pages know links. One that is asked for by a text is looked up as a link, so whatever is found is
an `a` element. For a pattern the text of every element is checked, and nothing looks at the tag:
what is found is whatever shows such a text. Those are links exactly where nothing else shows it.
-/

import ElementSearch.Proofs.Search.Scans

namespace ElementSearch

/-- Whether the element is a link. -/
def Element.isLink (element : Element) : Bool := element.tag == "a"

/-- A scan that stops can only give the first member that passes. -/
theorem gives_firstThat {α : Type} {test : α → Except Fault Bool} {passes : α → Bool}
    (each : ∀ member, Gives (test member) (passes member)) (members : List α) :
    Gives (firstThat test members) (members.find? passes) := by
  induction members with
  | nil => exact .pure none
  | cons first rest ih =>
      apply (each first).bind
      rw [List.find?_cons]
      cases passes first with
      | true => exact .pure (some first)
      | false => exact ih

namespace Document

variable {document : Document} {root : Option Nat} {kind : ElementKind} {preferCss : Bool}
  {name : String} {strategy : Strategy} {value : Value}

/-! ## What searches for one criterion can give -/

/-- A search for all matches can only give the elements of which something holds, and one for a
single match can only find the first of them. -/
structure FindsOnly (document : Document) (finder : Finder Document Nat) (selector : Selector)
    (holds : Element → Bool) : Prop where
  all : Gives (document.outcome (finder.findAll selector)) (document.allBelow finder.root holds)
  one : ∀ node, document.outcome (finder.find selector) = .ok (some node) →
    (document.allBelow finder.root holds).head? = some node

/-- The tree can only answer with the elements that it is asked for. -/
theorem gives_answer {text : String} {asked : Element → Bool}
    (answers : answers? strategy text = some asked) :
    Gives (document.answer root strategy text) (document.allBelow root asked) := by
  have live : Gives (document.checkLive (root.getD 0)) () := fun _ _ => rfl
  apply live.bind
  rw [lookup, answers]
  exact .pure _

theorem gives_first_answer {text : String} {asked : Element → Bool}
    (answers : answers? strategy text = some asked) :
    Gives (some <$> (document.answer root strategy text >>= firstOf strategy text))
      (document.allBelow root asked).head? := by
  rw [map_bind]
  apply (gives_answer answers).bind
  cases document.allBelow root asked with
  | nil =>
      intro _ failed
      cases failed
  | cons node rest => exact .pure (some node)

theorem gives_scan (key : Key) (asked : Pattern) :
    Gives (document.answer root .xpath ".//*" >>=
        allThat (document.reader.meetsPattern key asked))
      (document.allBelow root (·.meets key asked)) := by
  apply (gives_answer answers?_all).bind
  rw [allBelow_true]
  exact gives_allThat (fun node => gives_meetsPattern document node key asked) _

theorem gives_first_scan (key : Key) (asked : Pattern) :
    Gives (document.answer root .xpath ".//*" >>=
        firstThat (document.reader.meetsPattern key asked))
      (document.allBelow root (·.meets key asked)).head? := by
  apply (gives_answer answers?_all).bind
  rw [allBelow_true, allBelow, List.head?_filter]
  exact gives_firstThat (fun node => gives_meetsPattern document node key asked) _

section Only

variable (answered : Strategy.forName? name = some strategy) (untagged : name ≠ "tag_name")
  (other : name ≠ "id")

include answered untagged other

/-- One criterion is searched for as it is, and nothing is checked afterwards. -/
theorem find_only_eq (good : ¬ Selector.IsBad kind (name, value)) {criterion : LoneCriterion}
    (lone : (Selector.only name value).lone? = some criterion)
    {result : Except Fault (Option Nat)} {calls : Calls}
    (located : Yields document ((finder root kind preferCss).firstLone criterion) result calls) :
    document.outcome ((finder root kind preferCss).find (.only name value)) =
      Work.absorb result := by
  have unidentified : (Selector.only name value).identifier? = none := by
    rw [Selector.identifier?, Selector.get?_only_of_ne other]
    rfl
  have found : Yields document ((finder root kind preferCss).locate (.only name value)
      (.ofList [Selector.filed (name, value)])) result calls := by
    simp only [Finder.locate, unidentified, lone]
    exact located
  rw [outcome_find (Selector.normalize_only good) found, settle_only answered untagged]
  cases result with
  | error fault => rfl
  | ok found => rfl

theorem findsOnly_literal {text : String} (good : ¬ Selector.IsBad kind (name, .literal text))
    {asked : Element → Bool} (answers : answers? strategy text = some asked) :
    document.FindsOnly (finder root kind preferCss) (.only name (.literal text)) asked where
  all := by
    rw [findAll_only_literal answered good]
    exact gives_answer answers
  one := by
    intro node found
    rw [find_only_eq answered untagged other good (Selector.lone?_only_literal answered text)
      ((yields_findElement document root strategy text).map some)] at found
    exact (gives_first_answer answers _ (eq_of_absorb_eq_some found)).symm

theorem findsOnly_pattern {asked : Pattern} (good : ¬ Selector.IsBad kind (name, .pattern asked)) :
    document.FindsOnly (finder root kind preferCss) (.only name (.pattern asked))
      (·.meets (Selector.loneKey name) asked) where
  all := by
    rw [findAll_only_pattern answered good]
    exact gives_scan _ asked
  one := by
    intro node found
    rw [find_only_eq answered untagged other good (Selector.lone?_only_pattern answered asked)
      ((yields_findElements document root .xpath ".//*").bind
        (yields_firstThat fun node => yields_meetsPattern document node _ asked))] at found
    exact (gives_first_scan _ asked _ (eq_of_absorb_eq_some found)).symm

end Only

/-! ## Links -/

section Links

variable (named : name ∈ linkNames)

include named

/-- How a page looks links up: whatever text it compares, it looks at the tag as well. -/
theorem exists_strategy_of_link :
    ∃ strategy, Strategy.forName? name = some strategy ∧
      ∀ text, ∃ shows : Element → Bool,
        answers? strategy text = some fun element => element.isLink && shows element := by
  simp only [linkNames, List.mem_cons, List.not_mem_nil, or_false] at named
  obtain rfl | rfl | rfl := named
  · exact ⟨.linkText, rfl, fun _ => ⟨_, rfl⟩⟩
  · exact ⟨.linkText, rfl, fun _ => ⟨_, rfl⟩⟩
  · exact ⟨.partialLinkText, rfl, fun _ => ⟨_, rfl⟩⟩

theorem loneKey_of_link : Selector.loneKey name = .text :=
  if_pos (List.contains_iff_mem.2 named)

theorem not_isBad_of_link (sort : ∀ position, value ≠ .index position) :
    ¬ Selector.IsBad kind (name, value) := by
  simp only [linkNames, List.mem_cons, List.not_mem_nil, or_false] at named
  obtain rfl | rfl | rfl := named
  all_goals exact Selector.not_isBad_of_attribute rfl rfl sort

end Links

/-- Every element below a root that shows a text which the pattern matches is a link. -/
def OnlyLinksShow (document : Document) (root : Option Nat) (asked : Pattern) : Prop :=
  ∀ node ∈ document.tree.descendants (root.getD 0),
    (document.tree.element node).meets .text asked = true →
      (document.tree.element node).isLink = true

theorem onlyLinksShow_iff {asked : Pattern} :
    document.OnlyLinksShow root asked ↔
      ∀ node ∈ document.allBelow root (·.meets .text asked),
        (document.tree.element node).isLink = true := by
  simp only [OnlyLinksShow, allBelow, List.mem_filter, and_imp]

/-- What is found by the text of a link is a link. What is found by a pattern for that text shows
it, whatever it is: all that is found are links exactly if only links show such a text, and the
one that is found is the first element that does. -/
theorem links_of_lone (document : Document) (root : Option Nat) (kind : ElementKind)
    (preferCss : Bool) {name : String} (named : name ∈ linkNames) :
    (∀ text,
      (∀ found, document.outcome
          ((finder root kind preferCss).findAll (.only name (.literal text))) = .ok found →
        ∀ node ∈ found, (document.tree.element node).isLink = true) ∧
      ∀ node, document.outcome
          ((finder root kind preferCss).find (.only name (.literal text))) = .ok (some node) →
        (document.tree.element node).isLink = true) ∧
    ∀ asked,
      (∀ found, document.outcome
          ((finder root kind preferCss).findAll (.only name (.pattern asked))) = .ok found →
        ((∀ node ∈ found, (document.tree.element node).isLink = true) ↔
          document.OnlyLinksShow root asked)) ∧
      ∀ node, document.outcome
          ((finder root kind preferCss).find (.only name (.pattern asked))) = .ok (some node) →
        (document.tree.descendants (root.getD 0)).find?
            (fun below => (document.tree.element below).meets .text asked) = some node ∧
          (document.OnlyLinksShow root asked → (document.tree.element node).isLink = true) := by
  obtain ⟨strategy, answered, compares⟩ := exists_strategy_of_link named
  have untagged : name ≠ "tag_name" := ne_of_mem_of_not_mem named (by decide)
  have other : name ≠ "id" := ne_of_mem_of_not_mem named (by decide)
  constructor
  · intro text
    obtain ⟨shows, answers⟩ := compares text
    have finds : document.FindsOnly (finder root kind preferCss) (.only name (.literal text))
        fun element => element.isLink && shows element :=
      findsOnly_literal answered untagged other (not_isBad_of_link named nofun) answers
    have link : ∀ node ∈ document.allBelow root fun element => element.isLink && shows element,
        (document.tree.element node).isLink = true := by
      intro node listed
      exact (Bool.and_eq_true_iff.1 (List.mem_filter.1 listed).2).1
    constructor
    · intro found all
      rw [finds.all found all]
      exact link
    · intro node one
      exact link node (List.mem_of_mem_head? (finds.one node one))
  · intro asked
    have finds : document.FindsOnly (finder root kind preferCss) (.only name (.pattern asked))
        (·.meets .text asked) := by
      rw [← loneKey_of_link named]
      exact findsOnly_pattern answered untagged other (not_isBad_of_link named nofun)
    constructor
    · intro found all
      rw [finds.all found all, onlyLinksShow_iff]
      rfl
    · intro node one
      have first := finds.one node one
      refine ⟨?_, fun only => onlyLinksShow_iff.1 only node (List.mem_of_mem_head? first)⟩
      rw [← first, ← List.head?_filter]
      rfl

/-- A pattern that is found in a word. -/
def guidePattern : Pattern := (Pattern.ofSource? "Guide" false).get (by decide +kernel)

/-- A page with a paragraph of this text, and a link behind it. -/
def linkBehind (text : String) : Document where
  tree := ⟨[⟨0, "p", [], text⟩, ⟨0, "a", [], "Guide"⟩],
    fun | 0, _ => Nat.zero_le 0 | 1, _ => Nat.zero_le 1⟩
  stubs := .empty
  stale := []
  calls := []

/-- Behind a paragraph about something else, the link is found by its text and by a pattern. -/
theorem links_of_lone_guide :
    (linkBehind "More").OnlyLinksShow none guidePattern ∧
      (linkBehind "More").outcome
        ((finder none .generic false).findAll (.only "link" (.literal "Guide"))) = .ok [2] ∧
      (linkBehind "More").outcome
        ((finder none .generic false).find (.only "link" (.pattern guidePattern))) =
          .ok (some 2) ∧
      ((linkBehind "More").tree.element 2).isLink = true := by
  have only : (linkBehind "More").OnlyLinksShow none guidePattern := by
    unfold OnlyLinksShow
    decide +kernel
  have all : (linkBehind "More").outcome
    ((finder none .generic false).findAll (.only "link" (.literal "Guide"))) = .ok [2] := rfl
  have one : (linkBehind "More").outcome
    ((finder none .generic false).find (.only "link" (.pattern guidePattern))) =
      .ok (some 2) := rfl
  have named : "link" ∈ linkNames := by decide
  have links := links_of_lone (linkBehind "More") none .generic false named
  exact ⟨only, all, one, ((links.2 guidePattern).2 2 one).2 only⟩

/-- A paragraph that shows the text of a link is found by a pattern for links, and before the
link. -/
theorem exists_link_without_tag :
    (linkBehind "Guide").outcome
        ((finder none .generic false).findAll (.only "link" (.pattern guidePattern))) =
          .ok [1, 2] ∧
      (linkBehind "Guide").outcome
        ((finder none .generic false).find (.only "link" (.pattern guidePattern))) =
          .ok (some 1) ∧
      ((linkBehind "Guide").tree.element 1).isLink = false ∧
      (linkBehind "Guide").outcome
        ((finder none .generic false).findAll (.only "link" (.literal "Guide"))) = .ok [2] :=
  ⟨rfl, rfl, rfl, rfl⟩

end Document

end ElementSearch
