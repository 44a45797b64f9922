/-
# Lookups in a scripted browser

Looking elements up in a tab, or below an element, takes a fixed row of calls. By XPath an
element searches its whole page. The calls and their order are those of the stand-in that
a scripted browser is; what is proved of searches holds for every page, however it answers.
-/

import ElementSearch.Browser.Scripted

namespace ElementSearch

namespace Browser

/-- Take the message that a node is unknown for there being no element. -/
def unknownIsNothing {α : Type} (work : BrowserWork α) : BrowserWork α :=
  tryCatch work fun refusal =>
    throw (if refusal = refused "Could not find node with given id" then nothingFound else refusal)

/-- Get hold of a node as an element. -/
def element (page node : Nat) : BrowserWork PageElement := do
  unknownIsNothing (callPage page .describe (some node))
  callPage page .resolve (some node)
  return ⟨page, node, (((← get).page page).tree.element node).tag⟩

/-- What a CSS query selects below a node, which is the page's own root or an element. -/
def runCss (entry : Nat → String → Nat → LogEntry) (page root : Nat) (query : String) :
    BrowserWork (List Nat) := do
  note (entry page query root)
  unknownIsNothing (callPage page .query (some root))
  let shown := (← get).page page
  let found := BrowserPage.selected shown.css query
  return if root == 0 then found
    else found.filter (shown.tree.descendants root).contains

/-- What an XPath query selects on a page. -/
def runXPath (page : Nat) (query : String) : BrowserWork (List Nat) := do
  callPage page .results none
  return BrowserPage.selected ((← get).page page).xpath query

/-- Start to search a page by XPath. -/
def startXPath (page : Nat) (query : String) : BrowserWork Unit := do
  callPage page .document none
  note (.xpath page query)
  callPage page .search none

/-- The refusal of a search that selects nothing. -/
def emptyRange : Refusal := refused "Invalid search result range"

/-- The first element of a tab by CSS. -/
def tabCss (page : Nat) (query : String) : BrowserWork PageElement := do
  callPage page .document none
  match ← runCss .css page 0 query with
  | first :: _ => element page first
  | [] => throw nothingFound

/-- All elements of a tab by CSS; that there are none is a refusal. -/
def tabCssAll (page : Nat) (query : String) : BrowserWork (List PageElement) := do
  callPage page .document none
  match ← runCss .cssAll page 0 query with
  | [] => throw nothingFound
  | found => found.mapM (element page)

/-- The first element of a tab by XPath. Whatever goes wrong with the results of the search
counts as finding nothing. -/
def tabXPath (page : Nat) (query : String) : BrowserWork PageElement := do
  startXPath page query
  match ← tryCatch (runXPath page query) fun _ => throw nothingFound with
  | first :: _ => element page first
  | [] => throw nothingFound

/-- All elements of a tab by XPath; that there are none is a refusal. -/
def tabXPathAll (page : Nat) (query : String) : BrowserWork (List PageElement) := do
  startXPath page query
  match ← runXPath page query with
  | [] => throw emptyRange
  | found => found.mapM (element page)

/-- The first element below an element by CSS. -/
def elementCss (root : PageElement) (query : String) : BrowserWork PageElement := do
  match ← runCss .css root.page root.node query with
  | first :: _ => element root.page first
  | [] => throw nothingFound

/-- All elements below an element by CSS. -/
def elementCssAll (root : PageElement) (query : String) : BrowserWork (List PageElement) := do
  (← runCss .cssAll root.page root.node query).mapM (element root.page)

/-- All elements by XPath, as an element finds them: on its whole page, and not below it. -/
def elementXPathAll (root : PageElement) (query : String) : BrowserWork (List PageElement) :=
  tabXPathAll root.page query

/-- The first element by XPath, as an element finds it: on its whole page, and not below it. -/
def elementXPath (root : PageElement) (query : String) : BrowserWork PageElement := do
  startXPath root.page query
  match ← runXPath root.page query with
  | first :: _ => element root.page first
  | [] => throw emptyRange

/-- Read an element, which takes a call. -/
def readElement {α : Type} (part : Element → α) (element : PageElement) : BrowserWork α := do
  callPage element.page .invoke (some element.node)
  return part (((← get).page element.page).tree.element element.node)

/-- A page as its elements and queries see it. -/
def remotePage (page : Nat) : RemotePage Browser PageElement where
  first
    | none, .css query => tabCss page query
    | none, .xpath query => tabXPath page query
    | some root, .css query => elementCss root query
    | some root, .xpath query => elementXPath root query
  all
    | none, .css query => tabCssAll page query
    | none, .xpath query => tabXPathAll page query
    | some root, .css query => elementCssAll root query
    | some root, .xpath query => elementXPathAll root query
  tagOf := PageElement.tag
  readAttribute element name := readElement (·.attribute? name) element
  readText := readElement Element.text

/-- The driver of a tab. -/
def driver (page : Nat) : Driver Browser PageElement := (remotePage page).driver

end Browser

end ElementSearch
