/-
# Sessions with a scripted browser

A session owns a browser and the settings of its searches, and it knows which tab is the
active one. The browser is the scripted one, so that sessions can be run; results are about
the settings and about any page or tabs, not about this stand-in.
-/

import ElementSearch.Browser.Lookup
import ElementSearch.Browser.Options
import ElementSearch.Browser.Settings
import ElementSearch.Browser.Tabs

namespace ElementSearch

/-- A session with a browser. -/
structure Session extends SearchSettings where
  browser : Browser

namespace Session

/-- A session with the HTML kinds. -/
def ofBrowser (browser : Browser) (preferCss : Bool) : Session :=
  ⟨.ofPreference preferCss, browser⟩

/-- Connect to a running browser, or to none where nobody answers. -/
def connect (browser : Option Browser) (preferCss : Bool) : Except Fault Session :=
  match browser with
  | none => .error (.connectionFailed "no answer")
  | some browser =>
      match (Browser.callBrowser .discover).run.run browser with
      | (.ok (), browser) => .ok (ofBrowser browser preferCss)
      | (.error refusal, _) => .error (.connectionFailed refusal.text)

/-- Start a browser and open a tab in it. A scripted browser is no program that could be found
under a path. -/
def launch (browser : Browser) (options : LaunchOptions) (preferCss : Bool) :
    Except Fault Session :=
  match options.program with
  | some program => .error (.launchFailed ("no such program: " ++ program))
  | none =>
      match (Browser.callBrowser .discover).run.run browser with
      | (.error refusal, _) => .error (.launchFailed refusal.text)
      | (.ok (), browser) =>
          match Browser.openTab.run.run browser with
          | (.ok _, browser) => .ok (ofBrowser browser preferCss)
          | (.error refusal, _) =>
              .error (.launchFailed ("Failed to create tab: " ++ refusal.text))

variable (session : Session)

/-- The finder for elements of a kind in a tab, or below an element. -/
def finder (page : Nat) (root : Option PageElement) (kind : String) :
    Finder Browser PageElement :=
  session.finderOn (Browser.remotePage page) root kind

/-- The first element of a kind in a tab that a selector matches, if there is one. -/
def locate (page : Nat) (selector : Selector) (kind : String) :
    Work Browser (Option PageElement) :=
  session.locateOn (Browser.remotePage page) selector kind

/-- Every element of a kind in a tab that a selector matches, in document order. -/
def locateAll (page : Nat) (selector : Selector) (kind : String) :
    Work Browser (List PageElement) :=
  session.locateAllOn (Browser.remotePage page) selector kind

end Session

namespace Browser

/-- The tabs of the browser. An expression that asks for the focus is true in a page that is seen
and has it, any other in a page that is seen. -/
def remoteTabs : RemoteTabs Browser Nat where
  list := return .ok (← get).tabs
  evaluate tab expression := do
    let asksFocus := Text.contains expression "hasFocus"
    return some (.bool (← evaluateShown tab asksFocus expression))

/-- The active tab. -/
def activeTab : Work Browser Nat := remoteTabs.active

/-- Open a tab. -/
def newTab : Work Browser Nat :=
  openTab.orFault fun refusal => .tabFailed ("Failed to create tab: " ++ refusal.text)

/-- Open an address in the active tab. -/
def navigateActive (url : String) : Work Browser Unit := do
  let tab ← activeTab
  (navigate tab url).orFault fun refusal =>
    .navigationFailed ("Failed to navigate to " ++ url ++ ": " ++ refusal.text)

/-- Wait until the active tab has loaded. Scripted pages have. -/
def awaitNavigation : Work Browser Unit := do
  let _ ← activeTab
  return ()

/-- Close every tab; those that cannot be closed stay open. -/
def closeAll : List Nat → StateM Browser Unit
  | [] => return ()
  | tab :: rest => do
      let _ ← (closeTab tab).run
      closeAll rest

end Browser

namespace PageElement

/-- The element as debugging output shows it. -/
def debug (element : PageElement) : String :=
  "ChromeElement \x7b tag_name: " ++ Text.quoted element.tag ++ ", backend_node_id: " ++
    toString element.node ++ " \x7d"

end PageElement

end ElementSearch
