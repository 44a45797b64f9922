/-
# Tabs

A browser shows its pages in tabs, and expressions can be evaluated in each of them. Which tab is
the active one has to be asked of the tabs themselves: whether they are seen and have the focus
or, if that is true of none, whether they are seen.
-/

import ElementSearch.Browser.Remote
import ElementSearch.Json.Writer
import ElementSearch.Search.Driver

namespace ElementSearch

/-- The tabs of a browser. -/
structure RemoteTabs (σ τ : Type) where
  /-- The open tabs in order, or why they cannot be listed. -/
  list : StateM σ (Except String (List τ))
  /-- The value of an expression in a tab, if it has one. -/
  evaluate : τ → String → RemoteWork σ (Option Json)

namespace RemoteTabs

variable {σ τ : Type}

/-- The first tab that passes the earliest test that any tab passes, or the very first tab. -/
def choose {m : Type → Type} [Monad m] (shown : List τ) : List (τ → m Bool) → m (Option τ)
  | [] => return shown.head?
  | test :: tests => do
      match ← firstThat test shown with
      | some tab => return some tab
      | none => choose shown tests

/-- Whether an expression came to the value `true`. -/
def isYes : Except Refusal (Option Json) → Bool
  | .ok (some (.bool value)) => value
  | _ => false

/-- Whether an expression is true in a tab. It is not in a tab that cannot be asked. -/
def isTrue (tabs : RemoteTabs σ τ) (expression : String) (tab : τ) : StateM σ Bool :=
  return isYes (← (tabs.evaluate tab expression).run)

/-- What is true in a tab that is seen and has the focus. -/
def isFocused : String := "document.visibilityState === 'visible' && document.hasFocus()"

/-- What is true in a tab that is seen. -/
def isSeen : String := "document.visibilityState === 'visible'"

/-- Of the tabs that are shown, one that is seen and has the focus, else one that is seen, else the
first. -/
def preferred (tabs : RemoteTabs σ τ) (shown : List τ) : StateM σ (Option τ) :=
  choose shown [tabs.isTrue isFocused, tabs.isTrue isSeen]

/-- The active tab. -/
def active (tabs : RemoteTabs σ τ) : Work σ τ := do
  match ← tabs.list with
  | .error reason => throw (.tabFailed ("Failed to get tabs: " ++ reason))
  | .ok shown =>
      match ← tabs.preferred shown with
      | some tab => return tab
      | none => throw (.tabFailed "No active tab found")

end RemoteTabs

end ElementSearch
