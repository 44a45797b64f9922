/-
# Finding elements

A finder answers selectors with elements below a root. A lone criterion that pages
answer by themselves is passed on as it is; other selectors are planned, and where
patterns take part, the answers of a broader query are filtered.
-/

import ElementSearch.Query.LiteralEdges
import ElementSearch.Query.Plan
import ElementSearch.Search.Check
import ElementSearch.Search.Position
import ElementSearch.Search.Driver
import ElementSearch.Selector.Normalize

namespace ElementSearch

/-- A finder: where it looks, what selectors may ask for, and which language it prefers. -/
structure Finder (σ η : Type) where
  driver : Driver σ η
  root : Option η
  kind : ElementKind
  preferCss : Bool

/-- The names of criteria that ask for links and cannot stand beside others. -/
def linkNames : List String := ["link", "link_text", "partial_link_text"]

/-- A criterion that stands alone and that pages answer by themselves. -/
inductive LoneCriterion
  | literal (strategy : Strategy) (text : String)
  /-- Pages know no patterns, so this one is checked on every element. -/
  | pattern (key : Key) (asked : Pattern)

namespace Selector

/-- The key that a lone pattern is checked on: links are known by their text. -/
def loneKey (name : String) : Key :=
  if linkNames.contains name then .text else .ofName (canonicalName name)

/-- The only criterion of the selector, if there is only one and pages answer it. -/
def lone? (selector : Selector) : Option LoneCriterion :=
  match selector.entries with
  | [(name, value)] =>
      (Strategy.forName? name).bind fun strategy =>
        match value with
        | .literal text => some (.literal strategy text)
        | .pattern asked => some (.pattern (loneKey name) asked)
        | _ => none
  | _ => none

/-- The identifier that the selector asks for, if it asks for nothing else but perhaps a tag. -/
def identifier? (selector : Selector) : Option String :=
  (selector.get? "id").bind Value.literal? |>.filter fun _ =>
    selector.size == (if selector.contains "tag_name" then 2 else 1)

end Selector

namespace Finder

variable {σ η : Type}

/-- Ask the page for elements below the finder's root. -/
def query (finder : Finder σ η) (query : Query) : Work σ (List η) :=
  finder.driver.findElements finder.root query.strategy query.text

/-- Every element below the finder's root. -/
def allElements (finder : Finder σ η) : Work σ (List η) :=
  finder.query (.xpath ".//*")

/-- Refuse criteria about links, which stand beside others here. -/
def refuseLinks (finder : Finder σ η) (criteria : Criteria) : Except Fault Unit :=
  match criteria.keys.find? fun key => linkNames.contains key.name with
  | some key => .error (.unsupportedAttribute key.name finder.kind.tag)
  | none => .ok ()

/-- The pattern of a label that has to be looked for as an element, and the other patterns. -/
def labelPattern? (finder : Finder σ η) (patterns : List (Key × Pattern)) : Option Pattern :=
  if finder.kind.hasNativeLabel then none
  else (patterns.find? (·.1 == .label)).map (·.2)

/-- Ask a broader query for the criteria without patterns, narrowed by the patterns; the answers
are filtered by the patterns afterwards. -/
def candidatesBelow (finder : Finder σ η) (root : Option η) (criteria : Criteria)
    (patterns : List (Key × Pattern)) : Work σ (List η) := do
  let base ← Work.ofExcept (criteria.exactQuery finder.kind finder.preferCss)
  let query := base.narrow patterns
  finder.driver.findElements root query.strategy query.text

/-- The candidates for criteria with patterns, and the patterns left to check on them. A label
is looked for first: it gives its element's identifier or the place to look in. -/
def candidates (finder : Finder σ η) (criteria : Criteria) :
    Work σ (List (Key × Pattern) × List η) := do
  let patterns := criteria.patterns
  let others := criteria.withoutPatterns
  match finder.labelPattern? patterns with
  | none => return (patterns, ← finder.candidatesBelow finder.root others patterns)
  | some label =>
      let patterns := patterns.filter (·.1 != .label)
      match ← finder.driver.resolveLabel finder.root label with
      | .identified id =>
          let others := others.insert .id (.literal id)
          return (patterns, ← finder.candidatesBelow finder.root others patterns)
      | .inside root => return (patterns, ← finder.candidatesBelow (some root) others patterns)
      | .nowhere => return (patterns, [])

/-- The first match of criteria with patterns. -/
def firstFiltered (finder : Finder σ η) (criteria : Criteria) : Work σ (Option η) := do
  let (patterns, found) ← finder.candidates criteria
  firstThat (finder.driver.reader.meetsPatterns patterns) found

/-- Every match of criteria with patterns. -/
def allFiltered (finder : Finder σ η) (criteria : Criteria) : Work σ (List η) := do
  let (patterns, found) ← finder.candidates criteria
  allThat (finder.driver.reader.meetsPatterns patterns) found

/-- The first match of a lone criterion. -/
def firstLone (finder : Finder σ η) : LoneCriterion → Work σ (Option η)
  | .literal strategy text => some <$> finder.driver.findElement finder.root strategy text
  | .pattern key asked => do
      let found ← finder.allElements
      firstThat (finder.driver.reader.meetsPattern key asked) found

/-- Every match of a lone criterion. -/
def allLone (finder : Finder σ η) : LoneCriterion → Work σ (List η)
  | .literal strategy text => finder.driver.findElements finder.root strategy text
  | .pattern key asked => do
      let found ← finder.allElements
      allThat (finder.driver.reader.meetsPattern key asked) found

/-- The element with an identifier, if its tag is what the selector asks for. -/
def firstIdentified (finder : Finder σ η) (selector : Selector) (id : String) :
    Work σ (Option η) := do
  let element ← finder.driver.findElement finder.root .id id
  if ← finder.driver.reader.tagFits selector element then return some element
  else return none

/-- The match of planned criteria that their position denotes, or the first. -/
def firstPlanned (finder : Finder σ η) (criteria : Criteria) : Work σ (Option η) := do
  Work.ofExcept (finder.refuseLinks criteria)
  let position := criteria.index?
  let criteria := criteria.withoutIndex
  match ← Work.ofExcept (criteria.plan finder.kind finder.preferCss), position with
  | .exact query, none =>
      some <$> finder.driver.findElement finder.root query.strategy query.text
  | .exact query, some position => return pick (← finder.query query) position
  | .filtered, none => finder.firstFiltered criteria
  | .filtered, some position => return pick (← finder.allFiltered criteria) position

/-- Every match of planned criteria. -/
def allPlanned (finder : Finder σ η) (criteria : Criteria) : Work σ (List η) := do
  Work.ofExcept (finder.refuseLinks criteria)
  match ← Work.ofExcept (criteria.plan finder.kind finder.preferCss) with
  | .exact query => finder.query query
  | .filtered => finder.allFiltered criteria

/-- The first match of a selector that was normalized to `criteria`, before it is checked. -/
def locate (finder : Finder σ η) (selector : Selector) (criteria : Criteria) :
    Work σ (Option η) :=
  match selector.identifier? with
  | some id => finder.firstIdentified selector id
  | none =>
      match selector.lone? with
      | some criterion => finder.firstLone criterion
      | none => finder.firstPlanned criteria

/-- The first match of a selector, if there is one. Faults that mean absence are taken for it. -/
def find (finder : Finder σ η) (selector : Selector) : Work σ (Option η) := do
  let criteria ← Work.ofExcept (selector.normalize finder.kind)
  Work.absent do
    match ← finder.locate selector criteria with
    | none => return none
    | some element =>
        if ← finder.driver.reader.fits selector element then return some element
        else return none

/-- Every match of a selector, in document order. A position cannot be asked for. -/
def findAll (finder : Finder σ η) (selector : Selector) : Work σ (List η) := do
  let criteria ← Work.ofExcept (selector.normalize finder.kind)
  if criteria.contains .index then throw .indexForAll
  else
    match selector.lone? with
    | some criterion => finder.allLone criterion
    | none => finder.allPlanned criteria

end Finder

end ElementSearch
