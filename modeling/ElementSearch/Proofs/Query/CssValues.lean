/-
# Values in CSS queries

A query in CSS has the value of every attribute in a string of its own. Backslashes and quotation
marks are escaped in it and the ends of lines are not, so that the string is read as the value
that was asked for exactly if no line ends in that, and otherwise is a bad one, with which the
query cannot be used.
-/

import ElementSearch.Proofs.Css.StringReader
import ElementSearch.Proofs.Query.Languages

namespace ElementSearch

namespace Css

/-- How the test of an attribute for a value is written. -/
def renderTest (name operator value : String) : String :=
  "[" ++ name ++ operator ++ inString value ++ "]"

theorem AttributeTest.render_equals (name value : String) :
    (AttributeTest.equals name value).render = renderTest name "=" value := by
  rw [render, renderTest, inString, ← String.toList_inj]
  simp only [String.toList_append, List.append_assoc]
  rfl

theorem AttributeTest.render_hasWord (name value : String) :
    (AttributeTest.hasWord name value).render = renderTest name "~=" value := by
  rw [render, renderTest, inString, ← String.toList_inj]
  simp only [String.toList_append, List.append_assoc]
  rfl

/-- A query has each of its tests in it. -/
theorem Query.exists_render_eq {query : Query} {test : AttributeTest}
    (member : test ∈ query.tests) :
    ∃ before after, query.render = before ++ test.render ++ after := by
  obtain ⟨ahead, behind, whole⟩ := List.append_of_mem member
  refine ⟨query.tag.getD "*" ++ query.token.elim "" ("." ++ ·) ++
    String.join (ahead.map (·.render)), String.join (behind.map (·.render)), ?_⟩
  rw [render, whole, List.map_append, List.map_cons, String.join_append, String.join_cons]
  simp only [String.append_assoc]

/-- The string of a test is read as it stands in the query that the test stands in. -/
theorem preprocess_renderTest (before name operator value after : String) : ∃ ahead,
    preprocess (before ++ renderTest name operator value ++ after).toList =
      ahead ++ preprocess ((inString value).toList ++ ']' :: after.toList) := by
  refine ⟨preprocess (before ++ "[" ++ name ++ operator).toList, ?_⟩
  have split : (before ++ renderTest name operator value ++ after).toList =
      (before ++ "[" ++ name ++ operator).toList ++
        ((inString value).toList ++ ']' :: after.toList) := by
    simp only [renderTest, String.toList_append, List.append_assoc]
    rfl
  rw [split, toList_inString, List.cons_append, preprocess_append_quote]

end Css

namespace Criteria

variable {criteria : Criteria}

/-- Every attribute but the target of a link is tested for the literal that is asked for. -/
theorem mem_attributeTests? {entries : List (Key × Value)} {tests : List Css.AttributeTest}
    (compiled : attributeTests? entries = some tests) {name value : String}
    {free : reservedNames.contains name = false} (other : name ≠ "href")
    (member : (Key.attr name free, Value.literal value) ∈ entries) :
    Css.AttributeTest.equals (Key.attr name free).htmlName value ∈ tests := by
  induction entries generalizing tests with
  | nil => cases member
  | cons entry rest ih =>
      obtain ⟨key, sought⟩ := entry
      obtain same | later := List.mem_cons.1 member
      · cases same
        rw [attributeTests?, if_neg (mt beq_iff_eq.1 other)] at compiled
        obtain ⟨others, -, rfl⟩ := Option.map_eq_some_iff.1 compiled
        exact List.mem_cons_self ..
      · cases key with
        | attr first reserved =>
            rw [attributeTests?] at compiled
            split at compiled
            · exact ih compiled later
            · obtain ⟨text, -, tested⟩ := Option.bind_eq_some_iff.1 compiled
              obtain ⟨others, behind, rfl⟩ := Option.map_eq_some_iff.1 tested
              exact List.mem_cons_of_mem _ (ih behind later)
        | _ => exact ih compiled later

/-- The value of an attribute stands in the query as a string of its own. The target of a link is
asked for as a word, other attributes as they are. -/
theorem exists_renderTest_of_exactQuery {kind : ElementKind} {text name value : String}
    {free : reservedNames.contains name = false}
    (built : criteria.exactQuery kind true = .ok (.css text))
    (asked : criteria.get? (.attr name free) = some (.literal value)) :
    ∃ before after, text = before ++ Css.renderTest (Key.attr name free).htmlName
      (if name = "href" then "~=" else "=") value ++ after := by
  obtain ⟨-, -, query, compiled, rfl⟩ := exactQuery_eq_css built
  obtain ⟨target, others, targeted, tested, tests⟩ := (saidBy_of_css? compiled).tests
  by_cases link : name = "href"
  · subst link
    have sought : target = some value := by
      have read := get?_of_literalOrAbsent? targeted
      rw [Key.href, asked] at read
      obtain ⟨found, rfl, same⟩ := Option.map_eq_some_iff.1 read.symm
      cases same
      rfl
    have member : Css.AttributeTest.hasWord "href" value ∈ query.tests := by
      rw [tests, sought]
      exact List.mem_append_left _ (List.mem_singleton_self _)
    have spelled : Key.href.htmlName = "href" := by decide
    rw [← Key.href, if_pos rfl, spelled, ← Css.AttributeTest.render_hasWord]
    exact Css.Query.exists_render_eq member
  · have member : Css.AttributeTest.equals (Key.attr name free).htmlName value ∈ query.tests := by
      rw [tests]
      exact List.mem_append_right _
        (mem_attributeTests? tested link (OrderedMap.get?_eq_some_iff.1 asked))
    rw [if_neg link, ← Css.AttributeTest.render_equals]
    exact Css.Query.exists_render_eq member

/-- The value of an attribute is read off the query as one string with exactly this value, up to
the bracket behind it and whatever follows, if and only if no line ends in the value and there is
no NUL in it. With the end of a line in it the string is a bad one, so that a value without NUL is
never read as another. -/
theorem attribute_read_iff (value : String) :
    (∀ rest, Css.readString (Css.preprocess ((Css.inString value).toList ++ rest)) =
        some (.closed value.toList, Css.preprocess rest) ↔
      ∀ c ∈ value.toList, Css.isLineEnd c = false ∧ c ≠ '\x00') ∧
    (∀ rest, (∃ c ∈ value.toList, Css.isLineEnd c = true) → ∃ left,
      Css.readString (Css.preprocess ((Css.inString value).toList ++ rest)) =
        some (.bad, left)) ∧
    ∀ (kind : ElementKind) (criteria : Criteria) (text name : String)
      (free : reservedNames.contains name = false),
      criteria.exactQuery kind true = .ok (.css text) →
      criteria.get? (.attr name free) = some (.literal value) →
        ∃ before after ahead,
          text = before ++ Css.renderTest (Key.attr name free).htmlName
            (if name = "href" then "~=" else "=") value ++ after ∧
          Css.preprocess text.toList =
            ahead ++ Css.preprocess ((Css.inString value).toList ++ ']' :: after.toList) := by
  refine ⟨Css.readString_eq_closed_iff value,
    fun rest broken => Css.readString_of_isLineEnd broken rest, ?_⟩
  intro kind criteria text name free built asked
  obtain ⟨before, after, rfl⟩ := exists_renderTest_of_exactQuery built asked
  obtain ⟨ahead, read⟩ := Css.preprocess_renderTest before (Key.attr name free).htmlName
    (if name = "href" then "~=" else "=") value after
  exact ⟨before, after, ahead, rfl, read⟩

/-- Criteria that ask for one title. -/
def ofTitle (title : String) : Criteria := ⟨[(.attr "title" (by decide), .literal title)], by simp⟩

/-- A title with a quotation mark and a backslash in it is read as it is. -/
theorem attribute_read_iff_quoted :
    (ofTitle "a\"b\\").exactQuery .generic true = .ok (.css "*[title=\"a\\\"b\\\\\"]") ∧
      Css.readString (Css.preprocess "\"a\\\"b\\\\\"]".toList) =
        some (.closed "a\"b\\".toList, [']']) ∧
      ∃ before after, "*[title=\"a\\\"b\\\\\"]" =
        before ++ Css.renderTest "title" "=" "a\"b\\" ++ after := by
  obtain ⟨read, -, stands⟩ := attribute_read_iff "a\"b\\"
  have built : (ofTitle "a\"b\\").exactQuery .generic true =
      .ok (.css "*[title=\"a\\\"b\\\\\"]") := rfl
  obtain ⟨before, after, -, whole, -⟩ := stands .generic _ _ "title" (by decide) built rfl
  have inLine : ("a\"b\\".toList.all fun c => !Css.isLineEnd c && c != '\x00') = true := by decide
  have each : ∀ c ∈ "a\"b\\".toList, Css.isLineEnd c = false ∧ c ≠ '\x00' := by
    intro c member
    have here := List.all_eq_true.1 inLine c member
    rwa [Bool.and_eq_true, Bool.not_eq_true', bne_iff_ne] at here
  exact ⟨built, (read [']']).2 each, before, after, whole⟩

/-- A title over two lines is asked for by a query in which its string is a bad one. -/
theorem exists_value_broken :
    (ofTitle "a\nb").exactQuery .generic true = .ok (.css "*[title=\"a\nb\"]") ∧
      Css.readString (Css.preprocess ((Css.inString "a\nb").toList ++ [']'])) =
        some (.bad, "\nb\"]".toList) :=
  ⟨rfl, by decide⟩

end Criteria

end ElementSearch
