/-
# References and collections

A reference stands for one element, which may still have to be looked up. A collection
stands for every match of a selector: they are looked up once, when first needed, and
kept from then on.
-/

import ElementSearch.Search.Finder

namespace ElementSearch

/-- A reference to an element, with the element once that is known. -/
structure Reference (η : Type) where
  selector : Selector
  element : Option η

namespace Reference

variable {σ η : Type}

/-- Whether the element is known. -/
def isLocated (reference : Reference η) : Bool := reference.element.isSome

/-- The element, looked up unless it is known. What is found is not kept. -/
def locate (reference : Reference η) (finder : Finder σ η) : Work σ (Option η) :=
  match reference.element with
  | some element => return some element
  | none => finder.find reference.selector

/-- Whether there is an element. -/
def exists? (reference : Reference η) (finder : Finder σ η) : Work σ Bool :=
  return (← reference.locate finder).isSome

/-- The element, which has to be there. -/
def demand (reference : Reference η) (finder : Finder σ η) : Work σ η := do
  match ← reference.locate finder with
  | some element => return element
  | none => throw (.elementNotFound reference.selector.display)

end Reference

/-- The matches of a selector, once they have been looked up. -/
structure Collection (η : Type) where
  selector : Selector
  fetched : Option (List η)

namespace Collection

variable {σ η : Type}

/-- A collection that has not been looked up. -/
def ofSelector (selector : Selector) : Collection η := ⟨selector, none⟩

/-- Whether the matches have been looked up. -/
def isFetched (collection : Collection η) : Bool := collection.fetched.isSome

/-- The matches, and the collection that keeps them. Nothing is kept of a failure. -/
def fetch (collection : Collection η) (finder : Finder σ η) :
    Work σ (List η × Collection η) :=
  match collection.fetched with
  | some found => return (found, collection)
  | none => do
      let found ← finder.findAll collection.selector
      return (found, { collection with fetched := some found })

/-- How many matches there are, and the collection that keeps them. -/
def size (collection : Collection η) (finder : Finder σ η) : Work σ (Nat × Collection η) := do
  let (found, collection) ← collection.fetch finder
  return (found.length, collection)

/-- Whether there is no match, and the collection that keeps the matches. -/
def isEmpty (collection : Collection η) (finder : Finder σ η) : Work σ (Bool × Collection η) := do
  let (found, collection) ← collection.fetch finder
  return (found.isEmpty, collection)

/-- A reference to the match that a position denotes. Where there is none, the element is looked
up when the reference is used. -/
def reference (collection : Collection η) (found : List η) (position : Int64) : Reference η :=
  ⟨collection.selector.withIndex position, (place? found.length position).map found.get⟩

/-- A reference by position, and the collection that keeps the matches. -/
def referenceAt (collection : Collection η) (finder : Finder σ η) (position : Int64) :
    Work σ (Reference η × Collection η) := do
  let (found, collection) ← collection.fetch finder
  return (collection.reference found position, collection)

/-- A reference to the first match. -/
def firstReference (collection : Collection η) (finder : Finder σ η) :
    Work σ (Reference η × Collection η) :=
  collection.referenceAt finder 0

/-- A reference to the last match. -/
def lastReference (collection : Collection η) (finder : Finder σ η) :
    Work σ (Reference η × Collection η) :=
  collection.referenceAt finder (-1)

/-- What a collection can be asked. -/
inductive Operation
  | isFetched
  /-- The matches, to look at. -/
  | fetch
  /-- The matches, one after the other. -/
  | iterate
  /-- The matches, in a list of their own. -/
  | toList
  | size
  | isEmpty
  | at (position : Int64)
  | first
  | last
  deriving DecidableEq

/-- What a collection answers. -/
inductive Answer (η : Type)
  | flag (value : Bool)
  | count (value : Nat)
  | elements (found : List η)
  | reference (taken : Reference η)

/-- Answer what is asked; the collection keeps the matches if they had to be looked up. -/
def perform (collection : Collection η) (finder : Finder σ η) :
    Operation → Work σ (Answer η × Collection η)
  | .isFetched => return (.flag collection.isFetched, collection)
  | .fetch | .iterate | .toList => do
      let (found, collection) ← collection.fetch finder
      return (.elements found, collection)
  | .size => do
      let (count, collection) ← collection.size finder
      return (.count count, collection)
  | .isEmpty => do
      let (empty, collection) ← collection.isEmpty finder
      return (.flag empty, collection)
  | .at position => do
      let (taken, collection) ← collection.referenceAt finder position
      return (.reference taken, collection)
  | .first => do
      let (taken, collection) ← collection.firstReference finder
      return (.reference taken, collection)
  | .last => do
      let (taken, collection) ← collection.lastReference finder
      return (.reference taken, collection)

end Collection

end ElementSearch
