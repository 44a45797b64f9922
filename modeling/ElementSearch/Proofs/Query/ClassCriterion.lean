/-
# Three tests of a class

A class that is asked for alone goes to the page as it is: a browser looks for it between spaces
once the white space of the attribute is normalized, and a document in memory looks for it among
the words of the attribute. Beside other criteria it is compiled into a condition of the query,
which looks for it between the spaces that are there. The three tests come down to the words of
the attribute, and differ in what separates those.
-/

import ElementSearch.Browser.Remote
import ElementSearch.Document
import ElementSearch.Proofs.Query.Languages
import ElementSearch.Proofs.Selector.Normalize
import ElementSearch.Search.Finder

namespace ElementSearch

open XPath

namespace Element

/-- The class attribute, which is empty where it is missing. -/
def classText (element : Element) : String := (element.attribute? "class").getD ""

/-- The only blanks in the class attribute are these. -/
def BlanksInClass (element : Element) (blanks : Char → Bool) : Prop :=
  ∀ c ∈ element.classText.toList, Text.isBlank c = true → blanks c = true

end Element

/-- The condition that a browser is asked for a class with. -/
def XPath.hasClass (name : String) : Condition :=
  .includes (.padded (.normalized (.attr "class"))) (" " ++ name ++ " ")

theorem BrowserQuery.ofLookup_className (name : String) :
    ofLookup .className name = .xpath (Path.render ⟨none, [hasClass name]⟩) := rfl

/-- A name that can be one class: it is not empty and has no white space. -/
structure IsClassName (name : String) : Prop where
  nonempty : name.toList ≠ []
  solid : ∀ c ∈ name.toList, isSpace c = false

/-! ## What each test looks for -/

section Tests

variable (labelled : String → Bool) (kind : ElementKind) {element : Element} {name : String}

theorem IsClassName.not_space (plain : IsClassName name) :
    ∀ c ∈ name.toList, (c == ' ') = false := by
  intro c member
  exact ne_space_of_not_isSpace (plain.solid c member)

/-- The condition of a query looks for the name between spaces. -/
theorem holds_condition_className (plain : IsClassName name) :
    (Criteria.condition kind .className name).holds labelled element = true ↔
      name.toList ∈ Text.wordsBy (· == ' ') element.classText.toList :=
  holds_includes_padded labelled element plain.nonempty plain.not_space (.attr "class")

/-- A browser looks for the name between white space. -/
theorem holds_hasClass (plain : IsClassName name) :
    (hasClass name).holds labelled element = true ↔
      name.toList ∈ Text.wordsBy isSpace element.classText.toList := by
  rw [← wordsBy_normalizeSpace]
  exact holds_includes_padded labelled element plain.nonempty plain.not_space
    (.normalized (.attr "class"))

/-- A document in memory looks for the name between blanks. -/
theorem answers?_className :
    ∃ asked, Document.answers? .className name = some asked ∧ ∀ element,
      asked element = true ↔ name.toList ∈ Text.wordsBy Text.isBlank element.classText.toList := by
  refine ⟨_, rfl, fun element => ?_⟩
  unfold Element.classText
  cases element.attribute? "class" with
  | none => simp
  | some text =>
      rw [Option.any_some, List.contains_iff_mem, Option.getD_some]
      exact Text.mem_map_ofList_iff

/-- Blanks that are white space separate as white space does. -/
theorem wordsBy_isBlank_of_blanks (blanks : element.BlanksInClass isSpace) :
    Text.wordsBy Text.isBlank element.classText.toList =
      Text.wordsBy isSpace element.classText.toList := by
  apply Text.wordsBy_congr
  intro c member
  rw [Bool.eq_iff_iff]
  exact ⟨blanks c member, isBlank_of_isSpace⟩

/-- White space that is spaces only separates as spaces do. -/
theorem wordsBy_isSpace_of_blanks (blanks : element.BlanksInClass (· == ' ')) :
    Text.wordsBy isSpace element.classText.toList =
      Text.wordsBy (· == ' ') element.classText.toList := by
  apply Text.wordsBy_congr
  intro c member
  rw [Bool.eq_iff_iff]
  constructor
  · intro space
    exact blanks c member (isBlank_of_isSpace space)
  · exact isSpace_of_eq_space

end Tests

/-! ## A class alone and beside other criteria -/

/-- A class that is asked for alone goes to the page as it is. -/
theorem Selector.lone?_of_class {selector : Selector} {name : String}
    (alone : selector.entries = [("class", .literal name)]) :
    selector.lone? = some (.literal .className name) := by
  rw [lone?, alone]
  rfl

/-- A path selects what it would without the class, as far as the condition for the class holds. -/
theorem Criteria.selects_path_iff_erase_className (labelled : String → Bool) (kind : ElementKind)
    {criteria : Criteria} {element : Element} {name : String}
    (asked : criteria.get? .className = some (.literal name)) :
    (criteria.path kind).selects labelled element = true ↔
      (Criteria.path kind (criteria.erase .className)).selects labelled element = true ∧
        (condition kind .className name).holds labelled element = true := by
  have kept {key : Key} (other : key ≠ .className) :
      (criteria.erase .className).get? key = criteria.get? key :=
    OrderedMap.get?_erase_of_ne criteria other
  rw [selects_path_iff_holds, selects_path_iff_holds, kept (by decide)]
  constructor
  · rintro ⟨tagged, met⟩
    refine ⟨⟨tagged, fun key value sought other => ?_⟩, met .className _ asked rfl⟩
    have apart : key ≠ .className := by
      rintro rfl
      rw [OrderedMap.get?_erase_self] at sought
      cases sought
    rw [kept apart] at sought
    exact met key value sought other
  · rintro ⟨⟨tagged, met⟩, classed⟩
    refine ⟨tagged, fun key value sought other => ?_⟩
    by_cases same : key = .className
    · subst same
      rw [asked] at sought
      cases sought
      exact classed
    · rw [← kept same] at sought
      exact met key value sought other

/-! ## Where they agree -/

/-- Where white space sets the name apart in the class attribute, spaces do. -/
def Element.SetsApart (element : Element) (name : String) : Prop :=
  name.toList ∈ Text.wordsBy isSpace element.classText.toList →
    name.toList ∈ Text.wordsBy (· == ' ') element.classText.toList

/-- A document in memory finds a class exactly where a browser does, as long as the only blanks in
the attribute are white space. Whatever the condition of a query finds, they find; and the
condition finds what they do exactly where spaces set the name apart that white space sets
apart, as they do if there is no other white space. That condition is what a class comes to
beside other criteria; alone, it goes to the page as it is. -/
theorem class_tests_agree {name : String} (plain : IsClassName name) (labelled : String → Bool)
    (kind : ElementKind) :
    BrowserQuery.ofLookup .className name = .xpath (Path.render ⟨none, [hasClass name]⟩) ∧
      (∀ (document : Document) (root : Nat), ∃ found,
        document.lookup root .className name = .ok found ∧
        ∀ node ∈ document.tree.descendants root,
          (document.tree.element node).BlanksInClass isSpace →
            (node ∈ found ↔ (hasClass name).holds labelled (document.tree.element node) = true)) ∧
      (∀ element,
        ((Criteria.condition kind .className name).holds labelled element = true →
          (hasClass name).holds labelled element = true) ∧
        ((Criteria.condition kind .className name).holds labelled element =
          (hasClass name).holds labelled element ↔ element.SetsApart name) ∧
        (element.BlanksInClass (· == ' ') → element.SetsApart name)) ∧
      (∀ selector : Selector, selector.entries = [("class", .literal name)] →
        selector.lone? = some (.literal .className name)) ∧
      ∀ (criteria : Criteria) element, criteria.get? .className = some (.literal name) →
        ((criteria.path kind).selects labelled element = true ↔
          (Criteria.path kind (criteria.erase .className)).selects labelled element = true ∧
            (Criteria.condition kind .className name).holds labelled element = true) := by
  refine ⟨BrowserQuery.ofLookup_className name, ?_, ?_, ?_, ?_⟩
  · intro document root
    obtain ⟨asked, answered, finds⟩ := @answers?_className name
    refine ⟨_, by rw [Document.lookup, answered], ?_⟩
    intro node below blanks
    rw [List.mem_filter, finds, wordsBy_isBlank_of_blanks blanks, holds_hasClass labelled plain]
    exact and_iff_right below
  · intro element
    have found : (Criteria.condition kind .className name).holds labelled element = true →
        (hasClass name).holds labelled element = true := by
      rw [holds_condition_className labelled kind plain, holds_hasClass labelled plain]
      exact Text.mem_wordsBy_of_imp (fun _ => isSpace_of_eq_space) plain.solid
    refine ⟨found, ?_, ?_⟩
    · rw [Bool.eq_iff_iff, Element.SetsApart, ← holds_condition_className labelled kind plain,
        ← holds_hasClass labelled plain]
      exact ⟨Iff.mpr, fun apart => ⟨found, apart⟩⟩
    · intro blanks
      rw [Element.SetsApart, wordsBy_isSpace_of_blanks blanks]
      exact id
  · intro selector alone
    exact Selector.lone?_of_class alone
  · intro criteria element asked
    exact Criteria.selects_path_iff_erase_className labelled kind asked

/-- A page with one link of these classes. -/
def onlyLink (classes : String) : Document where
  tree := ⟨[⟨0, "a", [("class", classes)], ""⟩], by simp⟩
  stubs := .empty
  stale := []
  calls := []

/-- Of a link with these classes, `compiled` says whether the condition of a query holds, and `remote`
whether the one does that a browser is asked for the class with. -/
def FindsClass (name classes : String) (compiled remote : Bool) : Prop :=
  (Criteria.condition .generic .className name).holds (fun _ => false)
      ((onlyLink classes).tree.element 1) = compiled ∧
    (hasClass name).holds (fun _ => false) ((onlyLink classes).tree.element 1) = remote

theorem isClassName_btn : IsClassName "btn" where
  nonempty := by decide
  solid := by
    have solid : ("btn".toList.all fun c => !isSpace c) = true := by decide
    intro c member
    exact Bool.not_eq_eq_eq_not.1 (List.all_eq_true.1 solid c member)

/-- The second of two classes with spaces around them is found by all tests. -/
theorem class_tests_agree_btn :
    IsClassName "btn" ∧ FindsClass "btn" " big  btn" true true ∧
      (onlyLink " big  btn").lookup 0 .className "btn" = .ok [1] := by
  obtain ⟨_, _, tests, _⟩ := class_tests_agree isClassName_btn (fun _ => false) .generic
  have found := (tests ((onlyLink " big  btn").tree.element 1)).1
  have compiled : (Criteria.condition .generic .className "btn").holds (fun _ => false)
      ((onlyLink " big  btn").tree.element 1) = true := by
    decide +kernel
  exact ⟨isClassName_btn, ⟨compiled, found compiled⟩, rfl⟩

/-- A class behind a tab is found by a browser and in memory, and not by the condition of a
query. -/
theorem exists_class_missed :
    IsClassName "btn" ∧ FindsClass "btn" "big\tbtn" false true ∧
      (onlyLink "big\tbtn").lookup 0 .className "btn" = .ok [1] :=
  ⟨isClassName_btn, ⟨by decide +kernel, by decide +kernel⟩, rfl⟩

end ElementSearch
