/-
# The same criteria in CSS and in XPath

The tag and most attributes are compared alike in both languages. A class, the target of a
link, a type, and a query beside other criteria are not: CSS compares words where XPath
compares what stands between spaces or the whole attribute, it looks at the case of a type,
and it does not see the query. The two queries select the same elements exactly where
these differences do not decide.
-/

import ElementSearch.Proofs.Css.Meaning
import ElementSearch.Proofs.XPath.Meaning
import ElementSearch.Query.Basic
import ElementSearch.Query.Plan

namespace ElementSearch

/-- The attribute that says what sort of input or button an element is. -/
def Key.type : Key := .attr "type" (by decide)

theorem Key.htmlName_type : Key.type.htmlName = "type" := by decide

namespace Value

/-- The texts that a value asks for. -/
def texts : Value → List String
  | .literal text => [text]
  | .oneOf texts => texts
  | .pattern _ | .index _ => []

/-- Without patterns, what is accepted is one of the texts that are asked for. -/
theorem accepts_iff {value : Value} (plain : value.isPattern = false) {actual : Option String} :
    value.accepts actual = true ↔ ∃ text ∈ value.texts, actual = some text := by
  cases actual with
  | none => simp [accepts]
  | some actual =>
      cases value with
      | pattern asked => cases plain
      | literal text =>
          rw [accepts, beq_iff_eq, texts]
          simp only [List.mem_singleton, exists_eq_left, Option.some_inj]
          exact eq_comm
      | oneOf texts => simp [accepts, Value.texts]
      | index position => simp [accepts, texts]

end Value

namespace Criteria

variable {criteria : Criteria} {element : Element}

/-! ## What each language asks -/

/-- The element meets the criteria that both languages compare alike. -/
structure MeetsShared (criteria : Criteria) (element : Element) : Prop where
  tag : ∀ tag, criteria.get? .tagName = some (.literal tag) → element.tag = tag
  attributes : ∀ name free text, name ≠ "href" → name ≠ "type" →
    criteria.get? (.attr name free) = some (.literal text) →
      element.attribute? (Key.attr name free).htmlName = some text

/-- The element meets the other criteria as CSS compares them: a class and a target are words of
their attributes, and a type is what it is. -/
structure MeetsCss (criteria : Criteria) (element : Element) : Prop where
  token : ∀ token, criteria.get? .className = some (.literal token) →
    ∃ text, element.attribute? "class" = some text ∧ token ∈ Css.words text
  target : ∀ target, criteria.get? .href = some (.literal target) →
    ∃ text, element.attribute? "href" = some text ∧ target ∈ Css.words text
  type : ∀ type, criteria.get? .type = some (.literal type) →
    element.attribute? "type" = some type

/-- The element meets the other criteria as XPath compares them: a class stands between spaces, a
target is the whole attribute but for white space, a type is compared in lower case, and a
query is an attribute like any other. What is missing is empty. -/
structure MeetsXPath (criteria : Criteria) (element : Element) : Prop where
  token : ∀ token, criteria.get? .className = some (.literal token) →
    token.toList ∈ Text.wordsBy (· == ' ') ((element.attribute? "class").getD "").toList
  target : ∀ target, criteria.get? .href = some (.literal target) →
    XPath.normalizeSpace ((element.attribute? "href").getD "") = target
  type : ∀ type, criteria.get? .type = some (.literal type) →
    String.ofList (((element.attribute? "type").getD "").toList.map Char.toLower) =
      Text.lowercase type
  given : ∀ key value, key = .xpath ∨ key = .css → criteria.get? key = some value →
    value.accepts (element.attribute? key.name) = true

/-! ## Criteria that CSS can say -/

/-- The criteria are said by a query in CSS. -/
structure SaidBy (criteria : Criteria) (query : Css.Query) : Prop where
  text : criteria.contains .text = false
  label : criteria.contains .label = false
  index : criteria.contains .index = false
  tag : criteria.literalOrAbsent? .tagName = some query.tag
  token : criteria.literalOrAbsent? .className = some query.token
  plain : query.token.all Css.isToken = true
  tests : ∃ target others, criteria.literalOrAbsent? .href = some target ∧
    attributeTests? criteria.entries = some others ∧
    query.tests = (target.map (Css.AttributeTest.hasWord "href")).toList ++ others

theorem saidBy_of_css? {query : Css.Query} (compiled : criteria.css? = some query) :
    criteria.SaidBy query := by
  unfold css? at compiled
  split at compiled
  · cases compiled
  · next sayable =>
      simp only [Bool.or_eq_true, not_or, Bool.not_eq_true] at sayable
      obtain ⟨tag, tagged, compiled⟩ := Option.bind_eq_some_iff.1 compiled
      split at compiled
      · cases compiled
      · obtain ⟨token, classed, compiled⟩ := Option.bind_eq_some_iff.1 compiled
        split at compiled
        · next plain =>
            obtain ⟨target, targeted, compiled⟩ := Option.bind_eq_some_iff.1 compiled
            obtain ⟨others, tested, compiled⟩ := Option.bind_eq_some_iff.1 compiled
            obtain rfl := Option.some.inj compiled
            exact ⟨sayable.1.1, sayable.1.2, sayable.2, tagged, classed, plain, target, others,
              targeted, tested, rfl⟩
        · cases compiled

/-- A query in CSS is built only for criteria without patterns that CSS can say. -/
theorem exactQuery_eq_css {kind : ElementKind} {text : String}
    (built : criteria.exactQuery kind true = .ok (.css text)) :
    criteria.hasPattern = false ∧
      criteria.exactQuery kind false = .ok (.xpath (criteria.path kind).render) ∧
      ∃ query, criteria.css? = some query ∧ text = query.render := by
  have exactly : ¬ (criteria.contains .index || criteria.hasPattern) = true := by
    intro unbuildable
    rw [exactQuery, if_pos unbuildable] at built
    cases built
  rw [exactQuery, if_neg exactly] at built
  simp only [Bool.or_eq_true, not_or, Bool.not_eq_true] at exactly
  refine ⟨exactly.2, exactQuery_false kind exactly.1 exactly.2, ?_⟩
  have same := Except.ok.inj built
  rw [if_pos rfl] at same
  cases compiled : criteria.css? with
  | none =>
      rw [compiled] at same
      cases congrArg Query.strategy same
  | some query =>
      rw [compiled] at same
      exact ⟨query, rfl, (congrArg Query.text same).symm⟩

/-- What is read as a literal or as absent is no other value. -/
theorem get?_of_literalOrAbsent? {key : Key} {found : Option String}
    (read : criteria.literalOrAbsent? key = some found) :
    criteria.get? key = found.map Value.literal := by
  unfold literalOrAbsent? at read
  split at read
  · next absent =>
      obtain rfl := Option.some.inj read
      exact absent
  · next value present =>
      rw [present]
      cases value with
      | literal text =>
          obtain rfl := Option.some.inj read
          rfl
      | _ => cases read

theorem literal_of_literalOrAbsent? {key : Key} {found : Option String} {value : Value}
    (read : criteria.literalOrAbsent? key = some found) (asked : criteria.get? key = some value) :
    ∃ text, value = .literal text := by
  rw [get?_of_literalOrAbsent? read, Option.map_eq_some_iff] at asked
  obtain ⟨text, _, same⟩ := asked
  exact ⟨text, same.symm⟩

theorem get?_ne_some_of_absent {key : Key} (absent : criteria.contains key = false)
    (value : Value) : criteria.get? key ≠ some value := by
  intro asked
  rw [OrderedMap.contains_eq_isSome_get?, asked] at absent
  cases absent

theorem isPattern_of_get? {key : Key} {value : Value} (plain : criteria.hasPattern = false)
    (asked : criteria.get? key = some value) : value.isPattern = false :=
  Bool.not_eq_true _ ▸ List.any_eq_false.1 plain _ (OrderedMap.get?_eq_some_iff.1 asked)

theorem all_iff_of_literalOrAbsent? {key : Key} {found : Option String}
    (read : criteria.literalOrAbsent? key = some found) (test : String → Bool) :
    found.all test = true ↔
      ∀ text, criteria.get? key = some (.literal text) → test text = true := by
  rw [get?_of_literalOrAbsent? read]
  cases found <;> simp

/-- Attributes are tested only for literals. -/
theorem literal_of_attributeTests? {entries : List (Key × Value)} {tests : List Css.AttributeTest}
    (compiled : attributeTests? entries = some tests) {name : String}
    {free : reservedNames.contains name = false} {value : Value} (other : name ≠ "href")
    (member : (Key.attr name free, value) ∈ entries) : ∃ text, value = .literal text := by
  induction entries generalizing tests with
  | nil => exact absurd member List.not_mem_nil
  | cons entry rest ih =>
      obtain ⟨key, sought⟩ := entry
      obtain same | later := List.mem_cons.1 member
      · cases same
        rw [attributeTests?, if_neg (mt beq_iff_eq.1 other)] at compiled
        obtain ⟨text, literal, _⟩ := Option.bind_eq_some_iff.1 compiled
        exact ⟨text, Value.literal?_eq_some_iff.1 literal⟩
      · cases key with
        | attr first reserved =>
            rw [attributeTests?] at compiled
            split at compiled
            · exact ih compiled later
            · obtain ⟨text, _, compiled⟩ := Option.bind_eq_some_iff.1 compiled
              obtain ⟨others, compiled, _⟩ := Option.map_eq_some_iff.1 compiled
              exact ih compiled later
        | _ => exact ih compiled later

/-- What has a place in a query in CSS is a single text. -/
theorem SaidBy.literal {query : Css.Query} (said : criteria.SaidBy query) {key : Key}
    {value : Value} (placed : key = .tagName ∨ key = .className ∨ key.isReserved = false)
    (asked : criteria.get? key = some value) : ∃ text, value = .literal text := by
  rcases placed with rfl | rfl | named
  · exact literal_of_literalOrAbsent? said.tag asked
  · exact literal_of_literalOrAbsent? said.token asked
  · obtain ⟨target, others, targeted, tested, _⟩ := said.tests
    cases key with
    | attr name free =>
        by_cases href : name = "href"
        · subst href
          exact literal_of_literalOrAbsent? targeted asked
        · exact literal_of_attributeTests? tested href (OrderedMap.get?_eq_some_iff.1 asked)
    | _ => cases named

/-- The tests of attributes hold where every attribute has the literal that is asked for. -/
theorem attributeTests?_holds {entries : List (Key × Value)} {tests : List Css.AttributeTest}
    (compiled : attributeTests? entries = some tests) :
    tests.all (·.holds element) = true ↔ ∀ name free text, name ≠ "href" →
      (Key.attr name free, Value.literal text) ∈ entries →
        element.attribute? (Key.attr name free).htmlName = some text := by
  induction entries generalizing tests with
  | nil =>
      obtain rfl := Option.some.inj compiled
      simp
  | cons entry rest ih =>
      obtain ⟨key, value⟩ := entry
      cases key with
      | attr name free =>
          rw [attributeTests?] at compiled
          by_cases target : name = "href"
          · rw [if_pos (beq_iff_eq.2 target)] at compiled
            rw [ih compiled]
            constructor
            · intro asked other free' text different member
              obtain same | later := List.mem_cons.1 member
              · cases same
                exact absurd target different
              · exact asked other free' text different later
            · intro asked other free' text different member
              exact asked other free' text different (List.mem_cons_of_mem _ member)
          · rw [if_neg (mt beq_iff_eq.1 target)] at compiled
            obtain ⟨text, literal, compiled⟩ := Option.bind_eq_some_iff.1 compiled
            obtain ⟨others, later, rfl⟩ := Option.map_eq_some_iff.1 compiled
            obtain rfl := Value.literal?_eq_some_iff.1 literal
            rw [List.all_cons, Bool.and_eq_true, ih later, Css.holds_equals_iff]
            constructor
            · rintro ⟨here, others⟩ other free' sought different member
              obtain same | later := List.mem_cons.1 member
              · cases same
                exact here
              · exact others other free' sought different later
            · intro asked
              exact ⟨asked name free text target (List.mem_cons_self ..),
                fun other free' sought different member =>
                  asked other free' sought different (List.mem_cons_of_mem _ member)⟩
      | _ =>
          rw [ih compiled]
          simp

/-! ## What each query selects -/

/-- The query in CSS selects the elements that meet the criteria as CSS compares them. -/
theorem selects_css_iff {query : Css.Query} (said : criteria.SaidBy query) :
    query.selects element = true ↔ criteria.MeetsShared element ∧ criteria.MeetsCss element := by
  obtain ⟨target, others, targeted, tested, tests⟩ := said.tests
  have linked : (target.map (Css.AttributeTest.hasWord "href")).toList.all (·.holds element) =
      target.all fun word => (Css.AttributeTest.hasWord "href" word).holds element := by
    cases target with
    | none => rfl
    | some word => exact Bool.and_true _
  rw [Css.Query.selects, tests, List.all_append, linked, Bool.and_eq_true, Bool.and_eq_true,
    Bool.and_eq_true, all_iff_of_literalOrAbsent? said.tag, all_iff_of_literalOrAbsent? said.token,
    all_iff_of_literalOrAbsent? targeted, attributeTests?_holds tested]
  simp only [Css.holds_hasWord_iff, beq_iff_eq, ← OrderedMap.get?_eq_some_iff]
  constructor
  · rintro ⟨⟨tag, token⟩, target, attributes⟩
    have shared : criteria.MeetsShared element := {
      tag := by
        intro text asked
        exact (tag text asked).symm
      attributes := by
        intro name free text other _ asked
        exact attributes name free text other asked }
    have own : criteria.MeetsCss element := {
      token := token
      target := target
      type := by
        intro type asked
        rw [← Key.htmlName_type]
        exact attributes "type" _ type (by decide) asked }
    exact ⟨shared, own⟩
  · rintro ⟨shared, own⟩
    have attributes : ∀ name free text, name ≠ "href" →
        criteria.get? (.attr name free) = some (.literal text) →
          element.attribute? (Key.attr name free).htmlName = some text := by
      intro name free text other asked
      by_cases type : name = "type"
      · subst type
        show element.attribute? Key.type.htmlName = some text
        rw [Key.htmlName_type]
        exact own.type text asked
      · exact shared.attributes name free text other type asked
    exact ⟨⟨fun text asked => (shared.tag text asked).symm, own.token⟩, own.target, attributes⟩

section Path

variable (labelled : String → Bool) (kind : ElementKind)

/-- The condition that a criterion is met holds where it does for one of its texts. -/
theorem holds_conditionFor_iff (key : Key) (value : Value) :
    (conditionFor kind key value).holds labelled element = true ↔
      ∃ text ∈ value.texts, (condition kind key text).holds labelled element = true := by
  cases value with
  | oneOf texts =>
      cases texts with
      | nil =>
          show false = true ↔ _
          simp [Value.texts]
      | cons first others =>
          show ((condition kind key first).holds labelled element ||
            XPath.anyHolds labelled element (others.map (condition kind key))) = true ↔ _
          rw [XPath.anyHolds_eq_any, List.any_map, Value.texts, ← List.any_eq_true, List.any_cons]
          rfl
  | literal text =>
      show (condition kind key text).holds labelled element = true ↔ _
      simp [Value.texts]
  | _ =>
      show false = true ↔ _
      simp [Value.texts]

/-- A query beside other criteria is compared with an attribute of its own name. -/
theorem holds_conditionFor_given {key : Key} (given : key = .xpath ∨ key = .css) {value : Value}
    (plain : value.isPattern = false) :
    (conditionFor kind key value).holds labelled element =
      value.accepts (element.attribute? key.name) := by
  have single (text : String) : (condition kind key text).holds labelled element = true ↔
      element.attribute? key.name = some text := by
    obtain rfl | rfl := given
    · exact beq_iff_eq
    · exact beq_iff_eq
  rw [Bool.eq_iff_iff, holds_conditionFor_iff, Value.accepts_iff plain]
  simp only [single]

/-- A class is met between spaces. -/
theorem holds_conditionFor_className {token : String} (plain : Css.isToken token = true) :
    (conditionFor kind .className (.literal token)).holds labelled element = true ↔
      token.toList ∈ Text.wordsBy (· == ' ') ((element.attribute? "class").getD "").toList :=
  XPath.holds_includes_padded labelled element (Css.chars_of_isToken plain).1
    (Css.not_space_of_isToken plain) (.attr "class")

theorem holds_conditionFor_href (target : String) :
    (conditionFor kind .href (.literal target)).holds labelled element = true ↔
      XPath.normalizeSpace ((element.attribute? "href").getD "") = target :=
  beq_iff_eq

theorem holds_conditionFor_type (type : String) :
    (conditionFor kind .type (.literal type)).holds labelled element = true ↔
      String.ofList (((element.attribute? "type").getD "").toList.map Char.toLower) =
        Text.lowercase type := by
  rw [← XPath.translate_letters]
  exact beq_iff_eq

theorem holds_conditionFor_attr {name : String} (free : reservedNames.contains name = false)
    (target : name ≠ "href") (type : name ≠ "type") (text : String) :
    (conditionFor kind (.attr name free) (.literal text)).holds labelled element = true ↔
      element.attribute? (Key.attr name free).htmlName = some text := by
  have read : (Key.attr name free).reading = .attr (Key.attr name free).htmlName := by
    rw [Key.reading, if_neg (mt beq_iff_eq.1 target), if_neg (mt beq_iff_eq.1 type)]
  rw [conditionFor, condition, read, if_neg (mt beq_iff_eq.1 type)]
  exact beq_iff_eq

/-- The path selects the elements that have its tag and meet the other criteria. -/
theorem selects_path_iff_holds :
    (criteria.path kind).selects labelled element = true ↔
      (∀ tag, criteria.get? .tagName = some (.literal tag) → element.tag = tag) ∧
        ∀ key value, criteria.get? key = some value → isTag key value = false →
          (conditionFor kind key value).holds labelled element = true := by
  have tagged : (criteria.path kind).tag.all (· == element.tag) = true ↔
      ∀ tag, criteria.get? .tagName = some (.literal tag) → element.tag = tag := by
    simp only [path, Option.all_eq_true, beq_iff_eq, Option.bind_eq_some_iff,
      Value.literal?_eq_some_iff, exists_eq_right, @eq_comm _ element.tag]
  have conditions : (criteria.path kind).conditions.all (·.holds labelled element) = true ↔
      ∀ key value, criteria.get? key = some value → isTag key value = false →
        (conditionFor kind key value).holds labelled element = true := by
    simp only [path, List.all_map, List.all_eq_true, List.mem_filter, Function.comp_apply,
      Prod.forall, and_imp, Bool.not_eq_true', OrderedMap.get?_eq_some_iff]
  rw [XPath.Path.selects, Bool.and_eq_true, tagged, conditions]

/-- The path selects the elements that meet the criteria as XPath compares them. -/
theorem selects_path_iff {query : Css.Query} (said : criteria.SaidBy query)
    (plain : criteria.hasPattern = false) :
    (criteria.path kind).selects labelled element = true ↔
      criteria.MeetsShared element ∧ criteria.MeetsXPath element := by
  have tokens := (all_iff_of_literalOrAbsent? said.token Css.isToken).1 said.plain
  rw [selects_path_iff_holds]
  constructor
  · rintro ⟨tag, met⟩
    have shared : criteria.MeetsShared element := {
      tag := tag
      attributes := by
        intro name free text target type asked
        apply (holds_conditionFor_attr labelled kind free target type text).1
        exact met _ _ asked rfl }
    have own : criteria.MeetsXPath element := {
      token := by
        intro token asked
        apply (holds_conditionFor_className labelled kind (tokens token asked)).1
        exact met _ _ asked rfl
      target := by
        intro target asked
        apply (holds_conditionFor_href labelled kind target).1
        exact met _ _ asked rfl
      type := by
        intro type asked
        apply (holds_conditionFor_type labelled kind type).1
        exact met _ _ asked rfl
      given := by
        intro key value given asked
        rw [← holds_conditionFor_given labelled kind given (isPattern_of_get? plain asked)]
        apply met key value asked
        obtain rfl | rfl := given <;> rfl }
    exact ⟨shared, own⟩
  · rintro ⟨shared, own⟩
    refine ⟨shared.tag, ?_⟩
    intro key value asked other
    -- A query beside other criteria is what CSS does not see at all.
    have given (named : key = .xpath ∨ key = .css) :
        (conditionFor kind key value).holds labelled element = true := by
      rw [holds_conditionFor_given labelled kind named (isPattern_of_get? plain asked)]
      exact own.given key value named asked
    cases key with
    | tagName =>
        obtain ⟨text, rfl⟩ := said.literal (.inl rfl) asked
        cases other
    | text => exact absurd asked (get?_ne_some_of_absent said.text value)
    | label => exact absurd asked (get?_ne_some_of_absent said.label value)
    | index => exact absurd asked (get?_ne_some_of_absent said.index value)
    | className =>
        obtain ⟨token, rfl⟩ := said.literal (.inr (.inl rfl)) asked
        exact (holds_conditionFor_className labelled kind (tokens token asked)).2
          (own.token token asked)
    | xpath => exact given (.inl rfl)
    | css => exact given (.inr rfl)
    | attr name free =>
        obtain ⟨text, rfl⟩ := said.literal (.inr (.inr rfl)) asked
        by_cases href : name = "href"
        · subst href
          exact (holds_conditionFor_href labelled kind text).2 (own.target text asked)
        · by_cases type : name = "type"
          · subst type
            exact (holds_conditionFor_type labelled kind text).2 (own.type text asked)
          · exact (holds_conditionFor_attr labelled kind free href type text).2
              (shared.attributes name free text href type asked)

end Path

/-! ## Where they agree -/

/-- White space and case do not matter: there are only spaces in the class, the target is one word,
the type is in lower case, and neither is asked to be empty or to be a query. -/
structure IsOrdinary (criteria : Criteria) (element : Element) : Prop where
  spaces : ∀ text, element.attribute? "class" = some text →
    ∀ c ∈ text.toList, Css.isSpace c = (c == ' ')
  word : ∀ text, element.attribute? "href" = some text →
    (Css.words text).length ≤ 1 ∧ ∀ c ∈ text.toList, c ≠ '\x0C'
  lower : ∀ text, element.attribute? "type" = some text →
    text.toList.map Char.toLower = text.toList
  target : criteria.get? .href ≠ some (.literal "")
  type : ∀ type, criteria.get? .type = some (.literal type) →
    type ≠ "" ∧ Text.lowercase type = type
  xpath : criteria.contains .xpath = false
  css : criteria.contains .css = false

namespace IsOrdinary

variable (ordinary : criteria.IsOrdinary element)

include ordinary

theorem token_iff (token : String) :
    (∃ text, element.attribute? "class" = some text ∧ token ∈ Css.words text) ↔
      token.toList ∈ Text.wordsBy (· == ' ') ((element.attribute? "class").getD "").toList := by
  cases present : element.attribute? "class" with
  | none => simp
  | some text =>
      rw [Option.getD_some, ← Text.wordsBy_congr (ordinary.spaces text present),
        ← Css.mem_words_iff]
      simp

theorem target_iff {target : String} (asked : criteria.get? .href = some (.literal target)) :
    (∃ text, element.attribute? "href" = some text ∧ target ∈ Css.words text) ↔
      XPath.normalizeSpace ((element.attribute? "href").getD "") = target := by
  have nonempty : "" ≠ target := by
    rintro rfl
    exact ordinary.target asked
  cases present : element.attribute? "href" with
  | none =>
      have empty : XPath.normalizeSpace "" = "" := rfl
      simpa [empty] using nonempty
  | some text =>
      obtain ⟨single, plain⟩ := ordinary.word text present
      have same : ∀ c ∈ text.toList, Css.isSpace c = XPath.isSpace c := by
        intro c member
        have := plain c member
        grind [Css.isSpace, XPath.isSpace]
      have normalized : XPath.normalizeSpace text = " ".intercalate (Css.words text) := by
        rw [XPath.normalizeSpace, Css.words, Text.wordsBy_congr same]
      rw [Option.getD_some, normalized]
      simp only [Option.some_inj, exists_eq_left']
      cases words : Css.words text with
      | nil => simpa using nonempty
      | cons word rest =>
          rw [words, List.length_cons] at single
          obtain rfl : rest = [] := List.eq_nil_of_length_eq_zero (by omega)
          simp [eq_comm]

theorem type_iff {type : String} (asked : criteria.get? .type = some (.literal type)) :
    element.attribute? "type" = some type ↔
      String.ofList (((element.attribute? "type").getD "").toList.map Char.toLower) =
        Text.lowercase type := by
  obtain ⟨nonempty, lower⟩ := ordinary.type type asked
  rw [lower]
  cases present : element.attribute? "type" with
  | none => simpa using nonempty.symm
  | some text =>
      rw [Option.getD_some, ordinary.lower text present, String.ofList_toList, Option.some_inj]

theorem meetsCss_iff_meetsXPath : criteria.MeetsCss element ↔ criteria.MeetsXPath element := by
  constructor
  · intro own
    refine ⟨fun token asked => (ordinary.token_iff token).1 (own.token token asked),
      fun target asked => (ordinary.target_iff asked).1 (own.target target asked),
      fun type asked => (ordinary.type_iff asked).1 (own.type type asked), ?_⟩
    intro key value given asked
    obtain rfl | rfl := given
    · exact absurd asked (get?_ne_some_of_absent ordinary.xpath value)
    · exact absurd asked (get?_ne_some_of_absent ordinary.css value)
  · intro own
    exact ⟨fun token asked => (ordinary.token_iff token).2 (own.token token asked),
      fun target asked => (ordinary.target_iff asked).2 (own.target target asked),
      fun type asked => (ordinary.type_iff asked).2 (own.type type asked)⟩

end IsOrdinary

/-- Of criteria that CSS can say, the query in CSS and the path select the same elements exactly
where the criteria that the languages compare differently do not decide. In particular they do
where white space and case do not matter. -/
theorem selects_css_eq_selects_path_iff (kind : ElementKind) {criteria : Criteria} {text : String}
    (built : criteria.exactQuery kind true = .ok (.css text)) :
    criteria.exactQuery kind false = .ok (.xpath (criteria.path kind).render) ∧
      ∃ query, criteria.css? = some query ∧ text = query.render ∧ ∀ labelled element,
        (query.selects element = (criteria.path kind).selects labelled element ↔
          (criteria.MeetsShared element →
            (criteria.MeetsCss element ↔ criteria.MeetsXPath element))) ∧
        (criteria.IsOrdinary element →
          query.selects element = (criteria.path kind).selects labelled element) := by
  obtain ⟨plain, path, query, compiled, written⟩ := exactQuery_eq_css built
  have said := saidBy_of_css? compiled
  refine ⟨path, query, compiled, written, fun labelled element => ?_⟩
  rw [Bool.eq_iff_iff, selects_css_iff said, selects_path_iff labelled kind said plain]
  refine ⟨and_congr_right_iff, fun ordinary => ?_⟩
  rw [ordinary.meetsCss_iff_meetsXPath]

/-- A link with a class and a target. -/
theorem selects_css_eq_selects_path_iff_link :
    ∃ criteria : Criteria,
      criteria.entries = [(.tagName, .literal "a"), (.className, .literal "nav"),
        (.href, .literal "/docs")] ∧
      criteria.exactQuery .generic true = .ok (.css "a.nav[href~=\"/docs\"]") ∧
      ∃ query, criteria.css? = some query ∧ query.render = "a.nav[href~=\"/docs\"]" ∧
        ∀ labelled element,
          (query.selects element = (criteria.path .generic).selects labelled element ↔
            (criteria.MeetsShared element →
              (criteria.MeetsCss element ↔ criteria.MeetsXPath element))) ∧
          (criteria.IsOrdinary element →
            query.selects element = (criteria.path .generic).selects labelled element) := by
  let criteria : Criteria := ⟨[(.tagName, .literal "a"), (.className, .literal "nav"),
    (.href, .literal "/docs")], by decide⟩
  have built : criteria.exactQuery .generic true = .ok (.css "a.nav[href~=\"/docs\"]") := rfl
  obtain ⟨_, query, compiled, written, same⟩ := selects_css_eq_selects_path_iff .generic built
  exact ⟨criteria, rfl, built, query, compiled, written.symm, same⟩

/-- The two queries for a criterion do not both select, or both pass over, an element with these
attributes. -/
def AreTornOn (name value : String) (attributes : List (String × String)) : Prop :=
  ∃ (criteria : Criteria) (query : Css.Query) (element : Element),
    criteria.entries = [(.ofName name, .literal value)] ∧
    criteria.exactQuery .generic true = .ok (.css query.render) ∧
    criteria.css? = some query ∧ element.attributes = attributes ∧
    query.selects element ≠ (criteria.path .generic).selects (fun _ => false) element

/-- The two queries differ on a class behind a tab, on a target that is one of two words, on an
empty target that is missing, and on a type in another case. -/
theorem exists_selects_css_ne_selects_path :
    AreTornOn "class" "btn" [("class", "big\tbtn")] ∧
      AreTornOn "href" "/docs" [("href", "/docs /up")] ∧ AreTornOn "href" "" [] ∧
      AreTornOn "type" "submit" [("type", "Submit")] := by
  refine ⟨?_, ?_, ?_, ?_⟩
  · exact ⟨⟨[(.ofName "class", .literal "btn")], by decide⟩, ⟨none, some "btn", []⟩,
      ⟨0, "a", [("class", "big\tbtn")], ""⟩, rfl, rfl, rfl, rfl, by decide +kernel⟩
  · exact ⟨⟨[(.ofName "href", .literal "/docs")], by decide⟩,
      ⟨none, none, [.hasWord "href" "/docs"]⟩, ⟨0, "a", [("href", "/docs /up")], ""⟩, rfl, rfl, rfl,
      rfl, by decide +kernel⟩
  · exact ⟨⟨[(.ofName "href", .literal "")], by decide⟩, ⟨none, none, [.hasWord "href" ""]⟩,
      ⟨0, "a", [], ""⟩, rfl, rfl, rfl, rfl, by decide +kernel⟩
  · exact ⟨⟨[(.ofName "type", .literal "submit")], by decide⟩,
      ⟨none, none, [.equals "type" "submit"]⟩, ⟨0, "a", [("type", "Submit")], ""⟩, rfl, rfl, rfl,
      rfl, by decide +kernel⟩

end Criteria

end ElementSearch
