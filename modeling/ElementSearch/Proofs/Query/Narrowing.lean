/-
# Narrowed queries keep what the patterns match

A broad query is narrowed by the literal edges of the patterns that its answers are checked
for afterwards. The page and the check do not read an element alike: where the page
normalizes the white space of a target, the check trims its blanks, and a tag or a type is
lowered by one of them and not by the other. Narrowing keeps away from the keys and from the
edges where this would show. So it only ever adds conditions that an edge stands in an
attribute, and every element that passes the check meets all of them.
-/

import ElementSearch.Proofs.Regex.Search
import ElementSearch.Proofs.Search.Filter
import ElementSearch.Proofs.XPath.Meaning
import ElementSearch.Proofs.XPath.Reader
import ElementSearch.Proofs.Query.ReadBack
import ElementSearch.Query.LiteralEdges

namespace ElementSearch

open XPath

/-- Trimming a text leaves a part of it. -/
theorem Text.trim_infix (text : String) : (trim text).toList <:+: text.toList := by
  have front := List.dropWhile_suffix isBlank (l := text.toList)
  have back := List.dropWhile_suffix isBlank (l := (text.toList.dropWhile isBlank).reverse)
  rw [trim, String.toList_ofList]
  have kept := List.reverse_infix.2 back.isInfix
  rw [List.reverse_reverse] at kept
  exact kept.trans front.isInfix

/-- Every literal edge of the pattern stands in every text that the pattern is found in. -/
def Pattern.EdgesStand (pattern : Pattern) : Prop :=
  ∀ edges, pattern.literalEdges? = some edges → ∀ literal ∈ edges.literals, ∀ text,
    pattern.matchesIn text = true → Text.contains text literal = true

/-! ## Conditions behind a query -/

/-- A condition in brackets of its own, which asks for a text in a reading. -/
def XPath.readStep (input : List Char) : Option (Condition × List Char) := do
  let rest ← expect "[" input
  let (condition, rest) ← readIncludes rest
  let rest ← expect "]" rest
  some (condition, rest)

/-- A condition in brackets is read back, whatever follows it. -/
theorem XPath.readStep_renderStep {reading : Reading} (plain : reading.IsPlain) (text : String)
    (rest : List Char) :
    readStep ((Condition.includes reading text).renderStep.toList ++ rest) =
      some (.includes reading text, rest) := by
  have shape : (Condition.includes reading text).renderStep.toList ++ rest =
      "[".toList ++ ((Condition.includes reading text).render.toList ++ ("]".toList ++ rest)) := by
    simp only [Condition.renderStep, String.toList_append, List.append_assoc]
  simp only [shape, readStep, expect_append, readIncludes_render plain, bind, Option.bind_some]

namespace Key

variable {key : Key}

/-- The condition asks for a literal edge of the pattern in the attribute that the key names, as
that is or with its white space normalized. -/
inductive AsksForEdge (key : Key) (pattern : Pattern) : Condition → Prop
  | asItIs {edges : LiteralEdges} {literal : String}
      (found : pattern.literalEdges? = some edges) (edge : literal ∈ edges.literals) :
      AsksForEdge key pattern (.includes (.attr key.htmlName) literal)
  | normalized {edges : LiteralEdges} {literal : String}
      (found : pattern.literalEdges? = some edges) (edge : literal ∈ edges.literals) :
      AsksForEdge key pattern (.includes (.normalized (.attr key.htmlName)) literal)

theorem htmlName_href : href.htmlName = "href" := by decide

/-- Where a key narrows, it stands for an attribute, whose white space may be normalized. -/
theorem reading_of_narrows (narrows : key.narrows = true) :
    key.reading = if key.normalizesSpace then .normalized (.attr key.htmlName)
      else .attr key.htmlName := by
  cases key with
  | tagName => cases narrows
  | text => cases narrows
  | attr name free =>
      by_cases href : name = "href"
      · subst href
        have named : (attr "href" free).htmlName = "href" := htmlName_href
        rw [named]
        rfl
      · by_cases type : name = "type"
        · subst type
          cases narrows
        · have space : (attr name free).normalizesSpace = false := beq_eq_false_iff_ne.2 href
          rw [space, reading, if_neg (mt beq_iff_eq.1 href), if_neg (mt beq_iff_eq.1 type)]
          rfl
  | _ => rfl

/-- The names of the attributes that a key may stand for are plain if its own name is. -/
theorem isName_htmlName_of_narrows (narrows : key.narrows = true)
    (plain : ∀ name free, key = .attr name free → isName name = true) :
    isName key.htmlName = true := by
  cases key with
  | tagName => cases narrows
  | text => cases narrows
  | attr name free => exact Criteria.isName_htmlName (plain name free rfl) free
  | _ => decide

end Key

/-! ## The conditions that patterns add -/

section Conditions

variable {key : Key} {pattern : Pattern} {condition : Condition} {element : Element}

theorem mem_narrowingConditions_iff :
    condition ∈ narrowingConditions key pattern ↔ key.narrows = true ∧
      ∃ edges, pattern.literalEdges? = some edges ∧ ∃ literal ∈ edges.literals,
        (key.normalizesSpace = true → ∀ c ∈ literal.toList, Text.isBlank c = false) ∧
        condition = .includes key.reading literal := by
  unfold narrowingConditions
  cases key.narrows with
  | false => simp
  | true =>
      cases pattern.literalEdges? with
      | none => simp
      | some edges =>
          simp only [if_true, List.mem_map, List.mem_filter, Bool.not_eq_true',
            Bool.and_eq_false_imp, List.any_eq_false, Bool.not_eq_true, true_and,
            Option.some.injEq, exists_eq_left', and_assoc, @eq_comm _ _ condition]

/-- A condition that narrows asks for an edge of its pattern. -/
theorem asksForEdge_of_mem (member : condition ∈ narrowingConditions key pattern) :
    key.AsksForEdge pattern condition := by
  obtain ⟨narrows, edges, found, literal, edge, _, rfl⟩ := mem_narrowingConditions_iff.1 member
  rw [Key.reading_of_narrows narrows]
  split
  · exact .normalized found edge
  · exact .asItIs found edge

/-- A condition that narrows is read back where its attribute has a plain name. -/
theorem readStep_of_mem (member : condition ∈ narrowingConditions key pattern)
    (plain : ∀ name free, key = .attr name free → isName name = true) (rest : List Char) :
    readStep (condition.renderStep.toList ++ rest) = some (condition, rest) := by
  obtain ⟨narrows, edges, _, literal, _, _, rfl⟩ := mem_narrowingConditions_iff.1 member
  have named := Key.isName_htmlName_of_narrows narrows plain
  rw [Key.reading_of_narrows narrows]
  split
  · exact readStep_renderStep (.normalized named) literal rest
  · exact readStep_renderStep (.attr named) literal rest

/-- What a key that narrows is compared with is a part of its attribute. -/
theorem Element.exists_attribute_of_value? (narrows : key.narrows = true) {text : String}
    (found : element.value? key = some text) :
    ∃ whole, element.attribute? key.htmlName = some whole ∧ text.toList <:+: whole.toList := by
  cases key with
  | tagName => cases narrows
  | text => cases narrows
  | className => exact ⟨text, found, List.infix_rfl⟩
  | label => exact ⟨text, found, List.infix_rfl⟩
  | attr name free =>
      unfold value? at found
      dsimp only at found
      by_cases href : name = "href"
      · subst href
        have named : (Key.attr "href" free).htmlName = "href" := Key.htmlName_href
        obtain ⟨whole, present, rfl⟩ := Option.map_eq_some_iff.1 found
        rw [named]
        exact ⟨whole, present, Text.trim_infix whole⟩
      · rw [if_neg href] at found
        exact ⟨text, found, List.infix_rfl⟩
  | _ => cases found

/-- An element on which the pattern matches meets the conditions that the pattern adds. -/
theorem holds_of_meets (labelled : String → Bool) (stands : pattern.EdgesStand)
    (met : element.meets key pattern = true)
    (member : condition ∈ narrowingConditions key pattern) :
    condition.holds labelled element = true := by
  obtain ⟨narrows, edges, found, literal, edge, solid, rfl⟩ := mem_narrowingConditions_iff.1 member
  obtain ⟨text, read, matched⟩ := (Option.any_eq_true _ _).1 met
  obtain ⟨whole, present, part⟩ := Element.exists_attribute_of_value? narrows read
  have inside : literal.toList <:+: whole.toList :=
    (Text.occursIn_iff.1 (stands edges found literal edge text matched)).trans part
  rw [Condition.holds, Text.contains, Text.occursIn_iff, Key.reading_of_narrows narrows]
  split
  · next spaced =>
      rw [Reading.string, Reading.string, present, Option.getD_some]
      exact infix_normalizeSpace
        (fun c member => not_isSpace_of_not_isBlank (solid spaced c member)) inside
  · rw [Reading.string, present]
    exact inside

end Conditions

/-! ## Narrowed queries -/

namespace Query

/-- The conditions that patterns add to a query, in their order. -/
def narrowing (patterns : List (Key × Pattern)) : List Condition :=
  patterns.flatMap fun entry => narrowingConditions entry.1 entry.2

/-- A narrowed XPath query is the query with conditions behind it. Each asks for an edge of one of
the patterns in the attribute that its key names; and an element that all patterns match meets
them all, if the edges of the patterns stand in what they match. Queries in CSS are left as
they are. -/
theorem narrow_keeps_matches (base : Query) (patterns : List (Key × Pattern)) :
    (base.strategy ≠ .xpath → base.narrow patterns = base) ∧
      (base.strategy = .xpath →
        base.narrow patterns =
          .xpath (base.text ++ String.join ((narrowing patterns).map (·.renderStep))) ∧
        (∀ condition ∈ narrowing patterns, ∃ entry ∈ patterns,
          entry.1.AsksForEdge entry.2 condition ∧
            ((∀ name free, entry.1 = .attr name free → isName name = true) → ∀ rest,
              readStep (condition.renderStep.toList ++ rest) = some (condition, rest))) ∧
        ((∀ entry ∈ patterns, entry.2.EdgesStand) → ∀ (document : Document) (node : Nat),
          document.reader.meetsPatterns patterns node = .ok true →
            ∀ labelled, ∀ condition ∈ narrowing patterns,
              condition.holds labelled (document.tree.element node) = true)) := by
  constructor
  · intro other
    exact if_neg (mt beq_iff_eq.1 other)
  · intro path
    refine ⟨if_pos (beq_iff_eq.2 path), fun condition member => ?_, ?_⟩
    · obtain ⟨entry, listed, added⟩ := List.mem_flatMap.1 member
      exact ⟨entry, listed, asksForEdge_of_mem added, readStep_of_mem added⟩
    · intro stand document node passed labelled condition member
      obtain ⟨entry, listed, added⟩ := List.mem_flatMap.1 member
      have met := Document.meets_of_meetsPatterns passed entry listed
      exact holds_of_meets labelled (stand entry listed) met added

/-- A pattern for the targets below a directory. -/
def docsPattern : Pattern := (Pattern.ofSource? "^/docs/" false).get (by decide +kernel)

theorem edgesStand_docsPattern : docsPattern.EdgesStand := by
  have edges : docsPattern.literalEdges? = some ⟨"/docs/", ""⟩ := rfl
  have row : docsPattern.regex =
    Regex.concat ([.look .textStart] ++ "/docs/".toList.map Regex.char ++ []) := rfl
  intro found same literal edge text matched
  obtain rfl := Option.some.inj (edges.symm.trans same)
  obtain rfl : literal = "/docs/" := List.mem_singleton.1 edge
  rw [Pattern.matchesIn, row, Regex.accepts_iff] at matched
  rw [Text.contains, Text.occursIn_iff]
  exact matched.infix_of_concat

/-- Blanks around a target are trimmed by the check and normalized by the page. -/
theorem narrow_keeps_matches_docs :
    ∃ document : Document, (document.tree.element 1).attribute? "href" = some " /docs/up " ∧
      document.reader.meetsPatterns [(.href, docsPattern)] 1 = .ok true ∧
      (xpath ".//a").narrow [(.href, docsPattern)] =
        xpath ".//a[contains(normalize-space(@href), '/docs/')]" ∧
      ∀ labelled, ∀ condition ∈ narrowing [(.href, docsPattern)],
        condition.holds labelled (document.tree.element 1) = true := by
  let document : Document := {
    tree := ⟨[⟨0, "a", [("href", " /docs/up ")], "Up"⟩], by decide⟩
    stubs := .empty
    stale := []
    calls := [] }
  have passed : document.reader.meetsPatterns [(.href, docsPattern)] 1 = .ok true := rfl
  have stand : ∀ entry ∈ [(Key.href, docsPattern)], entry.2.EdgesStand := by
    intro entry member
    rw [List.mem_singleton.1 member]
    exact edgesStand_docsPattern
  have kept := (narrow_keeps_matches (xpath ".//a") [(.href, docsPattern)]).2 rfl
  exact ⟨document, rfl, passed, rfl, kept.2.2 stand document 1 passed⟩

end Query

end ElementSearch
