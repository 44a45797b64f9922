/-
# Scripted browsers

A scripted browser holds pages whose answers to queries are given in advance, and any of
its calls can be made to fail. What reaches the browser is logged. It stands in for a real
browser where sessions are run: its wording of refusals and the order of its calls are those
of the stand-in, and no result is about them.
-/

import ElementSearch.Browser.Remote
import ElementSearch.Tree

namespace ElementSearch

/-- The calls that a browser answers. -/
inductive Call
  | discover
  | create
  | document
  | query
  | search
  | results
  | describe
  | resolve
  | invoke
  | evaluate
  | navigate
  | close
  deriving DecidableEq, Repr

/-- A call that fails, on one node or on any. -/
structure CallFault where
  call : Call
  node : Option Nat
  message : String
  deriving DecidableEq, Repr

/-- The message of the first fault of a call. -/
def faultMessage? (faults : List CallFault) (call : Call) (node : Option Nat) : Option String :=
  (faults.find? fun fault => fault.call == call && (fault.node.isNone || fault.node == node)).map
    (·.message)

/-- A page of a scripted browser. -/
structure BrowserPage where
  visible : Bool
  focused : Bool
  tree : Tree
  /-- What each CSS query selects. -/
  css : List (String × List Nat)
  /-- What each XPath query selects. -/
  xpath : List (String × List Nat)
  faults : List CallFault
  /-- Why no other page can be opened in its place, if so. -/
  navigateError : Option String

namespace BrowserPage

/-- A page with nothing on it that is not shown. -/
def empty : BrowserPage := ⟨false, false, .empty, [], [], [], none⟩

instance : Inhabited BrowserPage := ⟨empty⟩

/-- What a query selects by a table; nothing, if it is not listed. -/
def selected (table : List (String × List Nat)) (query : String) : List Nat :=
  ((table.find? (·.1 == query)).map (·.2)).getD []

end BrowserPage

/-- What reached a browser. -/
inductive LogEntry
  | css (page : Nat) (query : String) (root : Nat)
  | cssAll (page : Nat) (query : String) (root : Nat)
  | xpath (page : Nat) (query : String)
  | evaluate (page : Nat) (expression : String)
  | navigate (page : Nat) (url : String)
  | close (page : Nat)
  deriving DecidableEq, Repr

/-- A scripted browser. Pages are numbered in the order in which they were opened. -/
structure Browser where
  pages : List BrowserPage
  /-- The pages that are open in tabs, in order. -/
  tabs : List Nat
  /-- What further tabs will show. -/
  waiting : List BrowserPage
  faults : List CallFault
  log : List LogEntry

/-- An element of a page, with its tag as the page writes it. -/
structure PageElement where
  page : Nat
  node : Nat
  tag : String
  deriving DecidableEq, Repr

/-- Work in a scripted browser that it may refuse. -/
abbrev BrowserWork := RemoteWork Browser

namespace Browser

/-- A browser with pages open in its tabs. -/
def ofPages (pages waiting : List BrowserPage) (faults : List CallFault) : Browser :=
  ⟨pages, List.range pages.length, waiting, faults, []⟩

/-- The page with a number. -/
def page (browser : Browser) (number : Nat) : BrowserPage := browser.pages.getD number .empty

/-- Log what reached the browser. -/
def note (entry : LogEntry) : BrowserWork Unit :=
  modify fun browser => { browser with log := browser.log ++ [entry] }

/-- The refusal of a lookup that finds nothing. -/
def nothingFound : Refusal := .nothingFound "No element found"

/-- The refusal of a call that fails. -/
def refused (message : String) : Refusal := .failed ("Method call error -32000: " ++ message)

/-- The refusal to open a page. -/
def notOpened (reason : String) : Refusal := .failed ("Navigate failed: " ++ reason)

/-- Make a call of the browser itself. -/
def callBrowser (call : Call) : BrowserWork Unit := do
  match faultMessage? (← get).faults call none with
  | some message => throw (refused message)
  | none => return ()

/-- Make a call of a page. -/
def callPage (page : Nat) (call : Call) (node : Option Nat) : BrowserWork Unit := do
  match faultMessage? ((← get).page page).faults call node with
  | some message => throw (refused message)
  | none => return ()

/-- Evaluate whether a page is shown, and if the expression asks for it, has the focus. -/
def evaluateShown (page : Nat) (asksFocus : Bool) (expression : String) : BrowserWork Bool := do
  note (.evaluate page expression)
  callPage page .evaluate none
  let shown := (← get).page page
  return shown.visible && (!asksFocus || shown.focused)

/-- Open a tab with the next page that waits, or an empty one. -/
def openTab : BrowserWork Nat := do
  callBrowser .create
  let browser ← get
  let number := browser.pages.length
  set { browser with
    pages := browser.pages ++ [browser.waiting.headD .empty]
    tabs := browser.tabs ++ [number]
    waiting := browser.waiting.tail }
  return number

/-- Close a tab. -/
def closeTab (page : Nat) : BrowserWork Unit := do
  note (.close page)
  callPage page .close none
  modify fun browser => { browser with tabs := browser.tabs.filter (· != page) }

/-- Open an address in a tab. -/
def navigate (page : Nat) (url : String) : BrowserWork Unit := do
  note (.navigate page url)
  callPage page .navigate none
  match ((← get).page page).navigateError with
  | some reason => throw (notOpened reason)
  | none => return ()

/-- Make a call fail from now on: one of a page, or one of the browser itself. -/
def addFault (browser : Browser) (page : Option Nat) (fault : CallFault) : Browser :=
  match page with
  | none => { browser with faults := browser.faults ++ [fault] }
  | some number =>
      { browser with
        pages := browser.pages.modify number fun page =>
          { page with faults := page.faults ++ [fault] } }

/-- Let every call succeed from now on. -/
def clearFaults (browser : Browser) : Browser :=
  { browser with
    faults := []
    pages := browser.pages.map fun page => { page with faults := [] } }

end Browser

end ElementSearch
