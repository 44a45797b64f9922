/-
# What filtered searches give

A search with patterns asks for more than it gives, and what it gives is what meets the
patterns: the candidates of the last lookup, in their order and as often as they are there,
but for those that some pattern does not match. No answer can add to this, whatever the page
gives. A single match has passed a check beside all this, so its tag, and the type of an
input, are what was asked for even where the caller's own query did not look at them.
-/

import ElementSearch.Proofs.Search.Candidates
import ElementSearch.Proofs.Search.SingleMatch

namespace ElementSearch

/-! ## What elements are compared with -/

/-- The key whose value a pattern is compared with: links are known by their text. -/
def Key.compared (key : Key) : Key := if linkNames.contains key.name then .text else key

namespace Element

/-- What an element has under a key. -/
def value? (element : Element) : Key → Option String
  | .text => some (Text.collapse element.text)
  | .tagName => some (Text.lowercase element.tag)
  | .className => element.attribute? "class"
  | .label => element.attribute? "label"
  | .attr name free =>
      if name = "href" then (element.attribute? "href").map Text.trim
      else element.attribute? (Key.attr name free).htmlName
  | .xpath | .css | .index => none

/-- The pattern matches what the element has under the key. -/
def meets (element : Element) (key : Key) (pattern : Pattern) : Bool :=
  (element.value? key).any pattern.matchesIn

/-- Every pattern matches what the element is compared with. -/
def meetsAll (element : Element) (patterns : List (Key × Pattern)) : Bool :=
  patterns.all fun entry => element.meets entry.1.compared entry.2

end Element

/-- Literals and the text are compared in lower case, and patterns are matched on the text in
lower case. -/
def Value.AcceptsAnyCase : Value → String → Prop
  | .literal text, actual => Text.lowercase text = Text.lowercase actual
  | .oneOf texts, actual => ∃ text ∈ texts, Text.lowercase text = Text.lowercase actual
  | .pattern asked, actual => asked.matchesIn (Text.lowercase actual) = true
  | .index _, _ => False

theorem Value.acceptsLowered_iff {value : Value} {actual : Option String} :
    value.acceptsLowered actual = true ↔
      ∃ text, actual = some text ∧ value.AcceptsAnyCase text := by
  cases actual with
  | none => simp [acceptsLowered, accepts]
  | some text =>
      cases value <;> simp [acceptsLowered, lowered, accepts, AcceptsAnyCase]

/-- The element's tag, and its type where it is an input, are what the selector asks for. -/
structure Selector.Suits (selector : Selector) (element : Element) : Prop where
  tag : ∀ asked, selector.get? "tag_name" = some asked → asked.AcceptsAnyCase element.tag
  type : ∀ asked, selector.get? "type" = some asked →
    Text.sameAsciiLetters element.tag "input" = true →
      ∃ type, element.attribute? "type" = some type ∧ asked.AcceptsAnyCase type

namespace Selector

variable (selector : Selector) (element : Element)

/-- The element's tag is what the selector asks for, in whatever case. -/
def tagSuits : Bool := (selector.get? "tag_name").all (·.acceptsLowered element.tag)

/-- The element's type is what the selector asks for, in whatever case, where it is an input. -/
def typeSuits : Bool :=
  (selector.get? "type").all fun asked =>
    !Text.sameAsciiLetters element.tag "input" || asked.acceptsLowered (element.attribute? "type")

variable {selector element}

theorem suits_iff :
    selector.Suits element ↔ (selector.tagSuits element && selector.typeSuits element) = true := by
  rw [Bool.and_eq_true, tagSuits, typeSuits, Option.all_eq_true, Option.all_eq_true]
  constructor
  · intro suits
    refine ⟨fun asked present => ?_, fun asked present => ?_⟩
    · exact Value.acceptsLowered_iff.2 ⟨_, rfl, suits.tag asked present⟩
    · cases input : Text.sameAsciiLetters element.tag "input" with
      | true => exact Value.acceptsLowered_iff.2 (suits.type asked present input)
      | false => rfl
  · rintro ⟨tag, type⟩
    refine ⟨fun asked present => ?_, fun asked present input => ?_⟩
    · obtain ⟨text, same, accepted⟩ := Value.acceptsLowered_iff.1 (tag asked present)
      cases same
      exact accepted
    · have accepted := type asked present
      rw [input] at accepted
      exact Value.acceptsLowered_iff.1 accepted

end Selector

/-! ## Results that may only be one value -/

/-- If there is a result, it is this value. -/
def Gives {α : Type} (result : Except Fault α) (value : α) : Prop :=
  ∀ got, result = .ok got → got = value

namespace Gives

variable {α β : Type} {result : Except Fault α} {value : α}

theorem pure (value : α) : Gives (Pure.pure value) value := by
  intro got same
  exact (Except.ok.inj same).symm

theorem bind {next : α → Except Fault β} {outcome : β} (first : Gives result value)
    (later : Gives (next value) outcome) : Gives (result >>= next) outcome := by
  cases result with
  | error fault =>
      intro got same
      cases same
  | ok got =>
      obtain rfl := first got rfl
      exact later

end Gives

/-- A scan of all members gives those that pass. -/
theorem gives_allThat {α : Type} {test : α → Except Fault Bool} {passes : α → Bool}
    (each : ∀ member, Gives (test member) (passes member)) (members : List α) :
    Gives (allThat test members) (members.filter passes) := by
  induction members with
  | nil => exact .pure []
  | cons first rest ih =>
      apply (each first).bind
      apply ih.bind
      rw [List.filter_cons]
      exact .pure _

namespace Document

/-! ## Reading elements -/

section Reading

variable (document : Document) (node : Nat)

theorem gives_readElement {α : Type} (part : Element → α) :
    Gives (document.readElement part node) (part (document.tree.element node)) := by
  intro got read
  exact (not_stale_of_readElement read).2

theorem gives_fetch (key : Key) :
    Gives (document.reader.fetch node key) ((document.tree.element node).value? key) := by
  cases key with
  | tagName => exact (gives_readElement document node Element.tag).bind (.pure _)
  | text => exact (gives_readElement document node Element.text).bind (.pure _)
  | className => exact gives_readElement document node (·.attribute? "class")
  | label => exact gives_readElement document node (·.attribute? "label")
  | attr name free =>
      unfold ElementReader.fetch Element.value?
      dsimp only
      by_cases link : name = "href"
      · rw [if_pos link, if_pos (beq_iff_eq.2 link)]
        exact (gives_readElement document node (·.attribute? "href")).bind (.pure _)
      · rw [if_neg link, if_neg (mt beq_iff_eq.1 link)]
        exact gives_readElement document node (·.attribute? _)
  | _ => exact .pure none

theorem gives_meetsPattern (key : Key) (pattern : Pattern) :
    Gives (document.reader.meetsPattern key pattern node)
      ((document.tree.element node).meets key pattern) :=
  (gives_fetch document node key).bind (.pure _)

theorem gives_meetsPatterns {patterns : List (Key × Pattern)}
    (own : ∀ entry ∈ patterns, entry.1.compared = entry.1) :
    Gives (document.reader.meetsPatterns patterns node)
      ((document.tree.element node).meetsAll patterns) := by
  induction patterns with
  | nil => exact .pure true
  | cons entry rest ih =>
      rw [List.forall_mem_cons] at own
      apply (gives_meetsPattern document node entry.1 entry.2).bind
      rw [Element.meetsAll, List.all_cons, own.1]
      cases (document.tree.element node).meets entry.1 entry.2 with
      | true => exact ih own.2
      | false => exact .pure false

theorem gives_tagFits (selector : Selector) :
    Gives (document.reader.tagFits selector node)
      (selector.tagSuits (document.tree.element node)) := by
  unfold ElementReader.tagFits Selector.tagSuits
  cases selector.get? "tag_name" with
  | none => exact .pure true
  | some asked => exact (gives_readElement document node Element.tag).bind (.pure _)

theorem gives_typeFits (selector : Selector) :
    Gives (document.reader.typeFits selector node)
      (selector.typeSuits (document.tree.element node)) := by
  unfold ElementReader.typeFits Selector.typeSuits
  cases selector.get? "type" with
  | none => exact .pure true
  | some asked =>
      apply (gives_readElement document node Element.tag).bind
      rw [Option.all_some]
      cases Text.sameAsciiLetters (document.tree.element node).tag "input" with
      | true => exact (gives_readElement document node (·.attribute? "type")).bind (.pure _)
      | false => exact .pure true

theorem gives_fits (selector : Selector) :
    Gives (document.reader.fits selector node)
      (selector.tagSuits (document.tree.element node) &&
        selector.typeSuits (document.tree.element node)) := by
  apply (gives_tagFits document node selector).bind
  cases selector.tagSuits (document.tree.element node) with
  | true => exact gives_typeFits document node selector
  | false => exact .pure false

variable {document node}

/-- What is not stale is read. -/
theorem readElement_of_fresh {α : Type} (fresh : document.stale.contains node = false)
    (part : Element → α) :
    document.readElement part node = .ok (part (document.tree.element node)) := by
  unfold readElement checkLive
  rw [fresh]
  rfl

/-- What has read an element has read one that is not stale. -/
theorem fresh_of_bind {α β : Type} {part : Element → α} {next : α → Except Fault β} {value : β}
    (read : document.readElement part node >>= next = .ok value) :
    document.stale.contains node = false := by
  cases known : document.readElement part node with
  | error fault =>
      rw [known] at read
      cases read
  | ok _ => exact (not_stale_of_readElement known).1

theorem fresh_of_readAttribute {name : String} {value : Option String}
    (read : document.reader.readAttribute node name = .ok value) :
    document.stale.contains node = false := by
  have known : document.readElement (·.attribute? name) node = .ok value := read
  exact (not_stale_of_readElement known).1

theorem fresh_of_fetch {key : Key} {text : String}
    (read : document.reader.fetch node key = .ok (some text)) :
    document.stale.contains node = false := by
  cases key with
  | tagName => exact fresh_of_bind read
  | text => exact fresh_of_bind read
  | className => exact fresh_of_readAttribute read
  | label => exact fresh_of_readAttribute read
  | attr name free =>
      unfold ElementReader.fetch at read
      dsimp only at read
      split at read
      · change document.readElement (·.attribute? "href") node >>= _ = _ at read
        exact fresh_of_bind read
      · exact fresh_of_readAttribute read
  | _ => cases read

/-- A pattern matches only on an element that is not stale. -/
theorem fresh_of_meetsPattern {key : Key} {pattern : Pattern}
    (passed : document.reader.meetsPattern key pattern node = .ok true) :
    document.stale.contains node = false := by
  unfold ElementReader.meetsPattern at passed
  cases read : document.reader.fetch node key with
  | error fault =>
      rw [read] at passed
      cases passed
  | ok found =>
      cases found with
      | none =>
          rw [read] at passed
          cases passed
      | some text => exact fresh_of_fetch read

/-- An element that passes the check of all patterns passes that of each. -/
theorem meetsPattern_of_meetsPatterns {patterns : List (Key × Pattern)}
    (passed : document.reader.meetsPatterns patterns node = .ok true) :
    ∀ entry ∈ patterns, document.reader.meetsPattern entry.1 entry.2 node = .ok true := by
  induction patterns with
  | nil => exact List.forall_mem_nil _
  | cons entry rest ih =>
      rw [ElementReader.meetsPatterns] at passed
      cases first : document.reader.meetsPattern entry.1 entry.2 node with
      | error fault =>
          rw [first] at passed
          cases passed
      | ok passes =>
          rw [first] at passed
          cases passes with
          | false => cases passed
          | true => exact List.forall_mem_cons.2 ⟨first, ih passed⟩

/-- An element that passes the check meets every pattern. -/
theorem meets_of_meetsPatterns {patterns : List (Key × Pattern)}
    (passed : document.reader.meetsPatterns patterns node = .ok true) :
    ∀ entry ∈ patterns, (document.tree.element node).meets entry.1 entry.2 = true := by
  intro entry listed
  have met := meetsPattern_of_meetsPatterns passed entry listed
  exact (gives_meetsPattern document node entry.1 entry.2 true met).symm

theorem tagFits_of_fresh (fresh : document.stale.contains node = false) (selector : Selector) :
    document.reader.tagFits selector node =
      .ok (selector.tagSuits (document.tree.element node)) := by
  unfold ElementReader.tagFits Selector.tagSuits
  cases selector.get? "tag_name" with
  | none => rfl
  | some asked =>
      show document.readElement Element.tag node >>= _ = _
      rw [readElement_of_fresh fresh]
      rfl

theorem typeFits_of_fresh (fresh : document.stale.contains node = false) (selector : Selector) :
    document.reader.typeFits selector node =
      .ok (selector.typeSuits (document.tree.element node)) := by
  unfold ElementReader.typeFits Selector.typeSuits
  cases selector.get? "type" with
  | none => rfl
  | some asked =>
      show (do
        if Text.sameAsciiLetters (← document.readElement Element.tag node) "input" then
          return asked.acceptsLowered (← document.readElement (·.attribute? "type") node)
        else return true) = _
      rw [readElement_of_fresh fresh, readElement_of_fresh fresh, Option.all_some]
      cases input : Text.sameAsciiLetters (document.tree.element node).tag "input" with
      | true => exact if_pos input
      | false => exact if_neg (Bool.eq_false_iff.1 input)

/-- An element that is not stale passes the check of a single result if its tag and its type suit
the selector, and fails it otherwise. -/
theorem fits_of_fresh (fresh : document.stale.contains node = false) (selector : Selector) :
    document.reader.fits selector node =
      .ok (selector.tagSuits (document.tree.element node) &&
        selector.typeSuits (document.tree.element node)) := by
  unfold ElementReader.fits
  rw [tagFits_of_fresh fresh, typeFits_of_fresh fresh]
  cases selector.tagSuits (document.tree.element node) with
  | true => rfl
  | false => rfl

end Reading

end Document

/-! ## A lone pattern -/

/-- A lone pattern is checked on the key that it is compared with. -/
theorem loneKey_eq_compared (name : String) :
    Selector.loneKey name = (Key.ofName (canonicalName name)).compared := by
  unfold Selector.loneKey Key.compared
  rw [Key.name_ofName]
  have named : linkNames.contains (canonicalName name) = linkNames.contains name := by
    unfold canonicalName
    split <;> first | decide | rfl
  rw [named]

/-! ## Planned patterns -/

namespace Criteria

variable {criteria : Criteria}

/-- Where nothing asks for links, patterns are compared with what their keys name. -/
theorem compared_of_linkless (kind : ElementKind)
    (linkless : ∀ key ∈ criteria.keys, linkNames.contains key.name = false) :
    ∀ entry ∈ criteria.checkedPatterns kind, entry.1.compared = entry.1 := by
  intro entry member
  have asked : entry ∈ criteria.patterns := by
    unfold checkedPatterns at member
    split at member
    · exact member
    · exact (List.mem_filter.1 member).1
  have filed := OrderedMap.get?_eq_some_iff.1 (mem_patterns_iff.1 asked)
  rw [Key.compared, linkless entry.1 (List.mem_map_of_mem filed)]
  rfl

/-- Patterns are filtered by unless the caller gave a query. -/
theorem plan_of_pattern (kind : ElementKind) (preferCss : Bool)
    (patterned : criteria.hasPattern = true) (path : criteria.contains .xpath = false)
    (css : criteria.contains .css = false) (unplaced : criteria.contains .index = false) :
    criteria.plan kind preferCss = .ok .filtered := by
  rw [OrderedMap.contains_eq_false_iff] at path css
  rw [plan, unplaced, givenQuery?, path, css, patterned]
  rfl

end Criteria

namespace Document

/-! ## Searches for all matches -/

section All

variable {document : Document} {root : Option Nat} {kind : ElementKind} {preferCss : Bool}
  {selector : Selector} {criteria : Criteria} {found : List Nat}

/-- The last lookup of the work is for elements below a place, and it gives those of them that
meet the patterns. -/
def Filters (document : Document) (work : Work Document (List Nat)) (before : Calls)
    (place : Option Nat) (patterns : List (Key × Pattern)) (found : List Nat) : Prop :=
  ∃ strategy value candidates, document.Sends work (before ++ [(strategy, value)]) ∧
    document.answer place strategy value = .ok candidates ∧
    found = candidates.filter fun node => (document.tree.element node).meetsAll patterns

/-- Work that scans what its last lookup is answered with filters it. -/
theorem filters_of_yields {work : Work Document (List Nat)} {before : Calls} {place : Option Nat}
    {strategy : Strategy} {value : String} {patterns : List (Key × Pattern)}
    {test : Nat → Except Fault Bool}
    (each : ∀ node, Gives (test node) ((document.tree.element node).meetsAll patterns))
    (yields : Yields document work (document.answer place strategy value >>= allThat test)
      (before ++ document.recorded place strategy value))
    (all : document.outcome work = .ok found) :
    document.Filters work before place patterns found := by
  have scanned := yields.result_eq.symm.trans all
  have sent := yields.sends
  cases answered : document.answer place strategy value with
  | error fault =>
      rw [answered] at scanned
      cases scanned
  | ok candidates =>
      rw [answered] at scanned
      rw [(recorded_of_answer answered).2] at sent
      exact ⟨strategy, value, candidates, sent, answered, gives_allThat each candidates _ scanned⟩

theorem yields_allLone (document : Document) (root : Option Nat) (kind : ElementKind)
    (preferCss : Bool) (key : Key) (asked : Pattern) :
    Yields document ((finder root kind preferCss).allLone (.pattern key asked))
      (document.answer root .xpath ".//*" >>= allThat (document.reader.meetsPattern key asked))
      (document.recorded root .xpath ".//*") :=
  (yields_findElements document root .xpath ".//*").bind
    (yields_allThat fun node => yields_meetsPattern document node key asked)

/-- A search for all matches of a lone pattern scans all elements. -/
theorem scans_of_lone {key : Key} {asked : Pattern}
    (lone : selector.lone? = some (.pattern key asked))
    (normalized : selector.normalize kind = .ok criteria)
    (unplaced : criteria.contains .index = false) :
    Yields document ((finder root kind preferCss).findAll selector)
      (document.answer root .xpath ".//*" >>= allThat (document.reader.meetsPattern key asked))
      (document.recorded root .xpath ".//*") := by
  apply yields_findAll normalized unplaced
  rw [Finder.locateAll, lone]
  exact yields_allLone document root kind preferCss key asked

/-- A lone pattern is checked on all elements. -/
theorem filters_of_lone {key : Key} {asked : Pattern}
    (lone : selector.lone? = some (.pattern key asked))
    (normalized : selector.normalize kind = .ok criteria)
    (unplaced : criteria.contains .index = false)
    (all : document.outcome ((finder root kind preferCss).findAll selector) = .ok found) :
    document.resolvedLabel root kind criteria = .ok none ∧
      document.Filters ((finder root kind preferCss).findAll selector) [] root
        (criteria.checkedPatterns kind) found := by
  obtain ⟨name, value, alone, answered, rfl, rfl⟩ := Selector.exists_entry_of_lone? lone
  have filed := Selector.entries_of_normalize_alone alone normalized
  have unlabelled : Key.ofName (canonicalName name) ≠ .label := by
    intro same
    rw [(ofName_canonicalName_eq_iff (by decide)).1 same] at answered
    cases answered
  constructor
  · unfold resolvedLabel OrderedMap.get?
    rw [filed]
    simp [unlabelled]
  · have checked : criteria.checkedPatterns kind = [(Key.ofName (canonicalName name), asked)] := by
      simp [Criteria.checkedPatterns, Criteria.patterns, filed, Value.pattern?, unlabelled]
    refine filters_of_yields (fun node => ?_) (scans_of_lone lone normalized unplaced) all
    rw [checked, Element.meetsAll, List.all_cons, List.all_nil, Bool.and_true,
      ← loneKey_eq_compared]
    exact gives_meetsPattern document node _ asked

/-- A search for all planned matches scans what its last lookup is answered with, unless there is no
label to look below. -/
theorem scans_of_planned (several : selector.lone? = none)
    (normalized : selector.normalize kind = .ok criteria)
    (unplaced : criteria.contains .index = false)
    (planned : criteria.plan kind preferCss = .ok .filtered)
    (all : document.outcome ((finder root kind preferCss).findAll selector) = .ok found) :
    (∀ key ∈ criteria.keys, linkNames.contains key.name = false) ∧
      ∃ target, document.resolvedLabel root kind criteria = .ok target ∧
        (target = some .nowhere → found = [] ∧
          document.Sends ((finder root kind preferCss).findAll selector) [(.tagName, "label")]) ∧
        (target ≠ some .nowhere → ∃ strategy value,
          Yields document ((finder root kind preferCss).findAll selector)
            (document.answer (place root target) strategy value >>=
              allThat (document.reader.meetsPatterns (criteria.checkedPatterns kind)))
            (labelCalls target ++ document.recorded (place root target) strategy value)) := by
  have gathered {result : Except Fault (List (Key × Pattern) × List Nat)} {calls : Calls}
      (linkless : (finder root kind preferCss).refuseLinks criteria = .ok ())
      (chosen : Yields document ((finder root kind preferCss).candidates criteria) result calls) :
      Yields document ((finder root kind preferCss).findAll selector) (result >>= fun chosen =>
        allThat (document.reader.meetsPatterns chosen.1) chosen.2) calls := by
    apply yields_findAll normalized unplaced
    rw [Finder.locateAll, several]
    exact yields_allPlanned linkless planned chosen
  cases linkless : (finder root kind preferCss).refuseLinks criteria with
  | error fault =>
      have refused : Yields document
          ((finder root kind preferCss).locateAll selector criteria) (.error fault) [] := by
        rw [Finder.locateAll, several, Finder.allPlanned, linkless]
        exact (Yields.ofExcept _).bind_error
      rw [outcome_findAll normalized unplaced refused] at all
      cases all
  | ok _ =>
      refine ⟨(Finder.refuseLinks_eq_ok_iff _).1 linkless, ?_⟩
      cases resolved : document.resolvedLabel root kind criteria with
      | error fault =>
          have chosen := yields_candidates_of_error preferCss resolved
          have failed := (gathered linkless chosen).result_eq.symm.trans all
          cases failed
      | ok target =>
          refine ⟨target, rfl, ?_, ?_⟩
          · rintro rfl
            have chosen := gathered linkless (yields_candidates_of_nowhere preferCss resolved)
            have none := chosen.result_eq.symm.trans all
            exact ⟨(Except.ok.inj none).symm, chosen.sends⟩
          · intro there
            obtain ⟨base, _, chosen⟩ := yields_candidates preferCss unplaced resolved there
            have scanned := gathered linkless chosen
            rw [bind_map_left] at scanned
            exact ⟨_, _, scanned⟩

/-- What a search for all planned matches looks up and gives. -/
theorem filters_of_planned (several : selector.lone? = none)
    (normalized : selector.normalize kind = .ok criteria)
    (unplaced : criteria.contains .index = false)
    (planned : criteria.plan kind preferCss = .ok .filtered)
    (all : document.outcome ((finder root kind preferCss).findAll selector) = .ok found) :
    ∃ target, document.resolvedLabel root kind criteria = .ok target ∧
      (target = some .nowhere → found = [] ∧
        document.Sends ((finder root kind preferCss).findAll selector) [(.tagName, "label")]) ∧
      (target ≠ some .nowhere →
        document.Filters ((finder root kind preferCss).findAll selector) (labelCalls target)
          (place root target) (criteria.checkedPatterns kind) found) := by
  obtain ⟨linkless, target, resolved, nowhere, somewhere⟩ :=
    scans_of_planned several normalized unplaced planned all
  refine ⟨target, resolved, nowhere, fun there => ?_⟩
  obtain ⟨strategy, value, scanned⟩ := somewhere there
  have own := Criteria.compared_of_linkless kind linkless
  exact filters_of_yields (fun node => gives_meetsPatterns document node own) scanned all

end All

/-! ## Searches for one match -/

/-- Absence is no match. -/
theorem eq_of_absorb_eq_some {α : Type} {result : Except Fault (Option α)} {value : α}
    (absorbed : Work.absorb result = .ok (some value)) : result = .ok (some value) := by
  cases result with
  | error fault =>
      cases absent : fault.isAbsence with
      | true =>
          rw [Work.absorb_of_absence absent] at absorbed
          cases absorbed
      | false =>
          rw [Work.absorb_of_not_absence absent] at absorbed
          cases absorbed
  | ok found => exact absorbed

/-- A match that is found passed the check of a single result. -/
theorem fits_of_settle {document : Document} {selector : Selector}
    {located : Except Fault (Option Nat)} {node : Nat}
    (settled : located >>= document.settle selector = .ok (some node)) :
    document.reader.fits selector node = .ok true := by
  rcases located with fault | ⟨⟩ | element
  · cases settled
  · cases settled
  · have checked : (do
        if ← document.reader.fits selector element then return some element
        else return none) = Except.ok (some node) := settled
    cases fits : document.reader.fits selector element with
    | error fault =>
        rw [fits] at checked
        cases checked
    | ok passes =>
        rw [fits] at checked
        cases passes with
        | false => cases checked
        | true =>
            obtain rfl : element = node := Option.some.inj (Except.ok.inj checked)
            exact fits

/-- A search for all matches of patterns gives those candidates of its last lookup that meet all
patterns but that of a label which was looked for first, and nothing where that label is not
there. A search for one match, with whatever criteria, gives an element whose tag and type are
what was asked for. -/
theorem filters_findAll_suits_find (document : Document) (root : Option Nat) (kind : ElementKind)
    (preferCss : Bool) (selector : Selector) :
    (∀ criteria, selector.normalize kind = .ok criteria → criteria.hasPattern = true →
      selector.contains "xpath" = false → selector.contains "css" = false →
      selector.contains "index" = false → ∀ found,
      document.outcome ((finder root kind preferCss).findAll selector) = .ok found →
        ∃ target, document.resolvedLabel root kind criteria = .ok target ∧
          (target = some .nowhere → found = [] ∧
            document.Sends ((finder root kind preferCss).findAll selector)
              [(.tagName, "label")]) ∧
          (target ≠ some .nowhere →
            document.Filters ((finder root kind preferCss).findAll selector) (labelCalls target)
              (place root target) (criteria.checkedPatterns kind) found)) ∧
    ∀ node, document.outcome ((finder root kind preferCss).find selector) = .ok (some node) →
      selector.Suits (document.tree.element node) := by
  constructor
  · intro criteria normalized patterned path css absent found all
    have unplaced := Selector.contains_index_of_normalize absent normalized
    cases several : selector.lone? with
    | none =>
        have planned := Criteria.plan_of_pattern kind preferCss patterned
          ((Selector.contains_of_normalize normalized (by decide)).trans path)
          ((Selector.contains_of_normalize normalized (by decide)).trans css) unplaced
        exact filters_of_planned several normalized unplaced planned all
    | some criterion =>
        cases criterion with
        | literal strategy text =>
            obtain ⟨name, value, alone, _, rfl⟩ := Selector.exists_entry_of_lone? several
            have filed := Selector.entries_of_normalize_alone alone normalized
            rw [Criteria.hasPattern, filed] at patterned
            cases patterned
        | pattern key asked =>
            obtain ⟨resolved, filtered⟩ := filters_of_lone several normalized unplaced all
            refine ⟨none, resolved, fun nowhere => ?_, fun _ => filtered⟩
            cases nowhere
  · intro node succeeded
    cases normalized : selector.normalize kind with
    | error fault =>
        rw [(outcome_of_invalid document root preferCss normalized).1] at succeeded
        cases succeeded
    | ok criteria =>
        obtain ⟨located, calls, yields⟩ :=
          determined_locate document root kind preferCss selector criteria
        rw [outcome_find normalized yields] at succeeded
        exact Selector.suits_iff.2 (gives_fits document node selector _
          (fits_of_settle (eq_of_absorb_eq_some succeeded))).symm

/-- A pattern that is found in a word. -/
def mailPattern : Pattern := (Pattern.ofSource? "mail" false).get (by decide +kernel)

/-- A page with a label around two inputs, and an input beside them. -/
def enclosedInputs : Document where
  tree := ⟨[⟨0, "label", [], "E-mail:"⟩, ⟨1, "input", [("type", "text")], ""⟩,
    ⟨1, "input", [("type", "email")], ""⟩, ⟨0, "input", [("type", "email")], ""⟩], by decide⟩
  stubs := .empty
  stale := []
  calls := []

/-- Of the inputs inside a label, the one is found whose type meets the pattern. -/
theorem filters_findAll_suits_find_mail :
    ∃ selector criteria, selector.normalize .generic = .ok criteria ∧
      enclosedInputs.outcome ((finder none .generic false).findAll selector) = .ok [3] ∧
      enclosedInputs.Filters ((finder none .generic false).findAll selector)
        [(.tagName, "label")] (some 1) (criteria.checkedPatterns .generic) [3] ∧
      enclosedInputs.outcome ((finder none .generic false).find selector) = .ok (some 3) ∧
      selector.Suits (enclosedInputs.tree.element 3) := by
  let selector : Selector :=
    ⟨[("tag_name", .literal "input"), ("label", .pattern mailPattern),
      ("type", .pattern mailPattern)], by decide⟩
  let criteria : Criteria :=
    ⟨[(.tagName, .literal "input"), (.label, .pattern mailPattern),
      (Key.ofName "type", .pattern mailPattern)], by decide⟩
  have normalized : selector.normalize .generic = .ok criteria := rfl
  have all : enclosedInputs.outcome ((finder none .generic false).findAll selector) = .ok [3] := rfl
  have one : enclosedInputs.outcome ((finder none .generic false).find selector) =
    .ok (some 3) := rfl
  have both := filters_findAll_suits_find enclosedInputs none .generic false selector
  obtain ⟨target, resolved, _, filtered⟩ := both.1 criteria normalized (by decide) (by decide)
    (by decide) (by decide) [3] all
  have inside : enclosedInputs.resolvedLabel none .generic criteria = .ok (some (.inside 1)) := rfl
  obtain rfl : some (.inside 1) = target := Except.ok.inj (inside.symm.trans resolved)
  exact ⟨selector, criteria, normalized, all, filtered (by decide), one, both.2 3 one⟩

end Document

end ElementSearch
