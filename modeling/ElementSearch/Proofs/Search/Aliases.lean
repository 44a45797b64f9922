/-
# Aliases

Two names of criteria are aliases: a class may be asked for as `class_name`, a text as `caption`.
A selector can be written without them, each alias replaced by the name that it stands for at the
place where it was, unless that name is there already. Searches do not tell the two selectors
apart. Some parts of a search look at the selector as it was given, though, and others at its
criteria, so this is shown for each part that looks at names.
-/

import ElementSearch.Proofs.Search.SingleMatch

namespace ElementSearch

/-- The aliases, each with the name that it stands for. -/
def aliases : List (String × String) := [("class_name", "class"), ("caption", "text")]

/-- The name without aliases. -/
def unaliasedName (name : String) : String := (aliases.lookup name).getD name

/-- A name is one of the aliases, or it is kept. -/
theorem unaliasedName_cases (name : String) :
    (name, unaliasedName name) ∈ aliases ∨ unaliasedName name = name := by
  unfold unaliasedName
  cases listed : aliases.lookup name with
  | none => exact .inr rfl
  | some canonical =>
      obtain ⟨before, after, split, _⟩ := List.lookup_eq_some_iff.1 listed
      rw [split]
      exact .inl (List.mem_append_right before List.mem_cons_self)

/-- What depends on a name and is the same for an alias and what it stands for. -/
theorem apply_unaliasedName {α : Type} {meaning : String → α}
    (alike : ∀ pair ∈ aliases, meaning pair.2 = meaning pair.1) (name : String) :
    meaning (unaliasedName name) = meaning name := by
  rcases unaliasedName_cases name with listed | kept
  · exact alike _ listed
  · rw [kept]

theorem canonicalName_unaliasedName (name : String) :
    canonicalName (unaliasedName name) = canonicalName name :=
  apply_unaliasedName (by decide) name

theorem forName?_unaliasedName (name : String) :
    Strategy.forName? (unaliasedName name) = Strategy.forName? name :=
  apply_unaliasedName (by decide) name

theorem loneKey_unaliasedName (name : String) :
    Selector.loneKey (unaliasedName name) = Selector.loneKey name :=
  apply_unaliasedName (by decide) name

/-- Only its own name comes to be a name that is no alias and has none. -/
theorem unaliasedName_eq_iff {name other : String} (single : name ∉ aliasedNames) :
    unaliasedName other = name ↔ other = name := by
  have free : ∀ pair ∈ aliases, pair.1 ∈ aliasedNames ∧ pair.2 ∈ aliasedNames := by decide
  rcases unaliasedName_cases other with listed | kept
  · obtain ⟨aliased, canonical⟩ := free _ listed
    exact iff_of_false (fun same => single (same ▸ canonical)) (fun same => single (same ▸ aliased))
  · rw [kept]

/-- Two names that come to be the same are an alias and what it stands for. -/
theorem eq_or_mem_aliases {first second : String}
    (same : unaliasedName first = unaliasedName second) :
    first = second ∨ (first, second) ∈ aliases ∨ (second, first) ∈ aliases := by
  have single : ∀ pair ∈ aliases, ∀ other ∈ aliases, pair.2 = other.2 → pair.1 = other.1 := by
    decide
  rcases unaliasedName_cases first with listed | kept
  · rcases unaliasedName_cases second with listedToo | keptToo
    · exact .inl (single _ listed _ listedToo same)
    · rw [same, keptToo] at listed
      exact .inr (.inl listed)
  · rcases unaliasedName_cases second with listedToo | keptToo
    · rw [← same, kept] at listedToo
      exact .inr (.inr listedToo)
    · rw [kept, keptToo] at same
      exact .inl same

namespace Selector

/-- No alias stands beside the name that it stands for. -/
def IsUnambiguous (selector : Selector) : Prop :=
  ∀ pair ∈ aliases, ¬ (selector.contains pair.1 = true ∧ selector.contains pair.2 = true)

instance (selector : Selector) : Decidable selector.IsUnambiguous :=
  inferInstanceAs (Decidable (∀ pair ∈ aliases, _))

variable {selector : Selector}

/-- Without ambiguity, no two names come to be the same. -/
theorem unaliasedName_injOn (unambiguous : selector.IsUnambiguous) {first second : String}
    (one : first ∈ selector.keys) (other : second ∈ selector.keys)
    (same : unaliasedName first = unaliasedName second) : first = second := by
  rcases eq_or_mem_aliases same with same | listed | listed
  · exact same
  · exact absurd ⟨OrderedMap.contains_iff_mem_keys.2 one, OrderedMap.contains_iff_mem_keys.2 other⟩
      (unambiguous _ listed)
  · exact absurd ⟨OrderedMap.contains_iff_mem_keys.2 other, OrderedMap.contains_iff_mem_keys.2 one⟩
      (unambiguous _ listed)

/-- The selector with every alias replaced, at its place, by the name that it stands for. -/
def unaliased (selector : Selector) (unambiguous : selector.IsUnambiguous) : Selector where
  entries := selector.entries.map fun entry => (unaliasedName entry.1, entry.2)
  distinct := by
    have names : (selector.entries.map fun entry => (unaliasedName entry.1, entry.2)).map Prod.fst =
        selector.keys.map unaliasedName := by
      rw [OrderedMap.keys, List.map_map, List.map_map]
      rfl
    rw [names]
    exact List.pairwise_map.2 <| selector.distinct.imp_of_mem fun one other apart same =>
      apart (unaliasedName_injOn unambiguous one other same)

variable (unambiguous : selector.IsUnambiguous)

theorem entries_unaliased : (selector.unaliased unambiguous).entries =
    selector.entries.map fun entry => (unaliasedName entry.1, entry.2) := rfl

theorem size_unaliased : (selector.unaliased unambiguous).size = selector.size :=
  List.length_map _

/-- Other names have the values that they had. -/
theorem get?_unaliased {name : String} (single : name ∉ aliasedNames) :
    (selector.unaliased unambiguous).get? name = selector.get? name := by
  unfold OrderedMap.get? unaliased
  rw [List.find?_map, Option.map_map]
  have alike : ((fun entry : String × Value => decide (entry.1 = name)) ∘
      fun entry : String × Value => (unaliasedName entry.1, entry.2)) =
        fun entry => decide (entry.1 = name) := by
    funext entry
    exact decide_eq_decide.2 (unaliasedName_eq_iff single)
  rw [alike]
  rfl

theorem contains_unaliased {name : String} (single : name ∉ aliasedNames) :
    (selector.unaliased unambiguous).contains name = selector.contains name := by
  rw [OrderedMap.contains_eq_isSome_get?, get?_unaliased unambiguous single,
    OrderedMap.contains_eq_isSome_get?]

theorem fileAll_unaliased (kind : ElementKind) (done : Criteria) (entries : List (String × Value)) :
    fileAll kind done (entries.map fun entry => (unaliasedName entry.1, entry.2)) =
      fileAll kind done entries := by
  induction entries generalizing done with
  | nil => rfl
  | cons entry rest ih => simp only [List.map_cons, fileAll, canonicalName_unaliasedName, ih]

/-- Criteria are filed under the same keys. -/
theorem normalize_unaliased (kind : ElementKind) :
    (selector.unaliased unambiguous).normalize kind = selector.normalize kind :=
  fileAll_unaliased kind .empty selector.entries

theorem identifier?_unaliased :
    (selector.unaliased unambiguous).identifier? = selector.identifier? := by
  unfold identifier?
  rw [get?_unaliased unambiguous (by decide), contains_unaliased unambiguous (by decide),
    size_unaliased]

theorem lone?_unaliased : (selector.unaliased unambiguous).lone? = selector.lone? := by
  unfold lone?
  rw [entries_unaliased]
  cases selector.entries with
  | nil => rfl
  | cons entry rest =>
      cases rest with
      | nil => simp only [List.map_cons, List.map_nil, forName?_unaliasedName,
          loneKey_unaliasedName]
      | cons second others => rfl

end Selector

/-! ## Searches -/

section Searches

variable {σ η : Type} (finder : Finder σ η) {selector : Selector}
  (unambiguous : selector.IsUnambiguous)

theorem ElementReader.tagFits_unaliased {m : Type → Type} [Monad m] (reader : ElementReader m η) :
    reader.tagFits (selector.unaliased unambiguous) = reader.tagFits selector := by
  funext element
  unfold tagFits
  rw [Selector.get?_unaliased unambiguous (by decide)]

theorem ElementReader.fits_unaliased {m : Type → Type} [Monad m] (reader : ElementReader m η) :
    reader.fits (selector.unaliased unambiguous) = reader.fits selector := by
  funext element
  unfold fits typeFits
  rw [tagFits_unaliased, Selector.get?_unaliased unambiguous (by decide)]

theorem Finder.locate_unaliased (criteria : Criteria) :
    finder.locate (selector.unaliased unambiguous) criteria = finder.locate selector criteria := by
  unfold locate firstIdentified
  rw [Selector.identifier?_unaliased, Selector.lone?_unaliased,
    ElementReader.tagFits_unaliased]

/-- On every page, both searches do the same for a selector with aliases and for the selector
without them: they come to the same result or fault, by the same lookups. -/
theorem Finder.find_unaliased :
    finder.find (selector.unaliased unambiguous) = finder.find selector ∧
      finder.findAll (selector.unaliased unambiguous) = finder.findAll selector := by
  constructor
  · unfold find
    rw [Selector.normalize_unaliased, ElementReader.fits_unaliased]
    simp only [locate_unaliased]
  · unfold findAll
    rw [Selector.normalize_unaliased, Selector.lone?_unaliased]

/-- A page with a button, which is found by its text and its class. -/
def savePage : Document where
  tree := ⟨[⟨0, "button", [("class", "primary")], "Save"⟩], by decide⟩
  stubs := OrderedMap.empty.insert
    (.xpath, ".//*[normalize-space() = 'Save' and " ++
      "contains(concat(' ', @class, ' '), ' primary ')]") [1]
  stale := []
  calls := []

/-- The button is found without the aliases as it is with them. -/
theorem Finder.find_unaliased_button :
    ∃ (selector : Selector) (unambiguous : selector.IsUnambiguous),
      selector.entries = [("caption", .literal "Save"), ("class_name", .literal "primary")] ∧
      (selector.unaliased unambiguous).entries =
        [("text", .literal "Save"), ("class", .literal "primary")] ∧
      let finder := Document.finder none .generic true
      (finder.find (selector.unaliased unambiguous)).run savePage =
          (finder.find selector).run savePage ∧
        (finder.findAll (selector.unaliased unambiguous)).run savePage =
          (finder.findAll selector).run savePage ∧
        savePage.outcome (finder.findAll selector) = .ok [1] := by
  let selector : Selector :=
    ⟨[("caption", .literal "Save"), ("class_name", .literal "primary")], by decide⟩
  have unambiguous : selector.IsUnambiguous := by decide
  obtain ⟨one, all⟩ := find_unaliased (Document.finder none .generic true) unambiguous
  refine ⟨selector, unambiguous, rfl, rfl, ?_⟩
  dsimp only
  rw [one, all]
  exact ⟨rfl, rfl, rfl⟩

end Searches

end ElementSearch
