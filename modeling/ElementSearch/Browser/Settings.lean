/-
# Searches in a page

What a session with a browser searches by: the kinds of elements that it knows, and which
query language it prefers. It does not matter here which browser that is, or how a page
of it answers.
-/

import ElementSearch.Browser.Remote
import ElementSearch.Search.Finder

namespace ElementSearch

/-- How searches are carried out. -/
structure SearchOptions where
  /-- Whether CSS is tried before XPath. -/
  preferCss : Bool
  deriving DecidableEq, Repr

namespace SearchOptions

/-- The options that start out with the preference of the process. -/
def ofPreference (preferCss : Bool) : SearchOptions := ⟨preferCss⟩

end SearchOptions

/-- What the searches of a session have in common. -/
structure SearchSettings where
  kinds : KindRegistry
  options : SearchOptions

namespace SearchSettings

/-- The HTML kinds, and the preference of the process. -/
def ofPreference (preferCss : Bool) : SearchSettings := ⟨.html, .ofPreference preferCss⟩

variable {σ η : Type} (settings : SearchSettings)

/-- The finder for elements of a kind in a page, or below an element of it. -/
def finderOn (page : RemotePage σ η) (root : Option η) (kind : String) : Finder σ η :=
  ⟨page.driver, root, settings.kinds.kindFor kind, settings.options.preferCss⟩

/-- The first element of a kind in a page that a selector matches, if there is one. -/
def locateOn (page : RemotePage σ η) (selector : Selector) (kind : String) :
    Work σ (Option η) :=
  (settings.finderOn page none kind).find selector

/-- Every element of a kind in a page that a selector matches, in document order. -/
def locateAllOn (page : RemotePage σ η) (selector : Selector) (kind : String) :
    Work σ (List η) :=
  (settings.finderOn page none kind).findAll selector

end SearchSettings

end ElementSearch
