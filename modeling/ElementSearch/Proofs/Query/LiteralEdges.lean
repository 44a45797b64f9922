/-
# Literal edges stand in every match

A literal edge is the row of given characters at one end of a pattern, so that every text
in which the pattern is found contains it, whatever the names of properties in the pattern
stand for. Two things that the scan for edges does not tell apart have to be left out. `\<`
and `\>` assert where a word starts and ends, and are no literals. And a class may hold
brackets that open and close nothing: a closing bracket that comes first in an inner class,
and an opening one at the end of a range.
-/

import ElementSearch.Proofs.Query.AtomScan
import ElementSearch.Proofs.Regex.Search
import ElementSearch.Pattern

namespace ElementSearch.LiteralEdges

open Regex

/-! ## The ends of mirrored tokens -/

section Mirrors

variable {last tokens : List Token}

theorem Mirrors.noBar {atoms : List Atom} (mirrors : Mirrors last tokens atoms)
    (noBar : .bar ∉ last) : .bar ∉ tokens := by
  induction mirrors with
  | done => exact noBar
  | literal unrepeated later ih => simpa using ih
  | other other later ih => simpa [Ne.symm other] using ih
  | idle later ih => exact ih

/-- Literals at the front are items at the front, with no repetition behind them. -/
theorem Mirrors.of_literals_append {chars : List Char} {rest : List Atom}
    (mirrors : Mirrors last tokens (chars.map .literal ++ rest)) :
    ∃ later, tokens = items (chars.map .ofChar) ++ later ∧ Mirrors last later rest ∧
      (chars ≠ [] → Unrepeated later) := by
  induction chars generalizing tokens with
  | nil => exact ⟨tokens, rfl, mirrors, fun some => absurd rfl some⟩
  | cons c chars ih =>
      cases mirrors with
      | literal unrepeated mirrors =>
          obtain ⟨later, rfl, mirrors, unrepeatedLater⟩ := ih mirrors
          refine ⟨later, rfl, mirrors, fun _ => ?_⟩
          cases chars with
          | nil => exact unrepeated
          | cons next chars => exact unrepeatedLater (List.cons_ne_nil next chars)

/-- Tokens may be cut where their atoms are. -/
theorem Mirrors.of_append {front back : List Atom}
    (mirrors : Mirrors last tokens (front ++ back)) :
    ∃ before after, tokens = before ++ after ∧ Mirrors last after back := by
  induction front generalizing tokens with
  | nil => exact ⟨[], tokens, rfl, mirrors⟩
  | cons atom front ih =>
      cases mirrors with
      | literal unrepeated later =>
          obtain ⟨before, after, rfl, mirrors⟩ := ih later
          exact ⟨_ :: before, after, rfl, mirrors⟩
      | other noBar later =>
          obtain ⟨before, after, rfl, mirrors⟩ := ih later
          exact ⟨_ :: before, after, rfl, mirrors⟩
      | idle later => exact ih later

/-- Literals at the end are items before what follows the source. -/
theorem Mirrors.of_append_literals {front : List Atom} {chars : List Char}
    (mirrors : Mirrors last tokens (front ++ chars.map .literal)) :
    ∃ before, tokens = before ++ (items (chars.map .ofChar) ++ last) := by
  obtain ⟨before, after, rfl, literals⟩ := mirrors.of_append
  have whole : Mirrors last after (chars.map .literal ++ []) := by rwa [List.append_nil]
  obtain ⟨later, rfl, ended, -⟩ := whole.of_literals_append
  cases ended
  exact ⟨before, rfl⟩

end Mirrors

/-! ## Edges of atoms -/

theorem map_literal_filterMap {atoms : List Atom}
    (literal : ∀ atom ∈ atoms, atom.isLiteral = true) :
    (atoms.filterMap Atom.char?).map .literal = atoms := by
  induction atoms with
  | nil => rfl
  | cons atom atoms ih =>
      have ⟨here, later⟩ := List.forall_mem_cons.1 literal
      cases atom with
      | literal c => simpa [Atom.char?] using ih later
      | other => cases here

theorem exists_leading (atoms : List Atom) :
    ∃ rest, atoms = (ofAtoms atoms).leading.toList.map .literal ++ rest := by
  refine ⟨atoms.dropWhile Atom.isLiteral, ?_⟩
  have literal := List.all_eq_true.1 (List.all_takeWhile (p := Atom.isLiteral) (l := atoms))
  rw [ofAtoms, String.toList_ofList, map_literal_filterMap literal]
  exact List.takeWhile_append_dropWhile.symm

theorem exists_trailing (atoms : List Atom) :
    ∃ front, atoms = front ++ (ofAtoms atoms).trailing.toList.map .literal := by
  rw [ofAtoms]
  dsimp only
  split
  · exact ⟨atoms, by simp⟩
  · refine ⟨(atoms.reverse.dropWhile Atom.isLiteral).reverse, ?_⟩
    have literal := List.all_eq_true.1
      (List.all_takeWhile (p := Atom.isLiteral) (l := atoms.reverse))
    rw [String.toList_ofList, map_literal_filterMap, ← List.reverse_append,
      List.takeWhile_append_dropWhile, List.reverse_reverse]
    exact fun atom member => literal atom (List.mem_reverse.1 member)

/-! ## The anchored source -/

/-- The part of a source that is scanned: what stands between a caret and a dollar sign. -/
def body (source : List Char) : List Char := dropDollar (dropCaret source)

/-- What stands behind the part of a source that is scanned. -/
def afterBody (source : List Char) : List Char :=
  (dropCaret source).drop (body source).length

theorem exists_tail (source : List Char) :
    ∃ tail, IsTail tail ∧ source = dropDollar source ++ tail := by
  unfold dropDollar
  split
  · next rest reversed =>
      split
      · refine ⟨['$'], .inr rfl, ?_⟩
        rw [← List.reverse_reverse source, reversed]
        simp
      · exact ⟨[], .inl rfl, by simp⟩
  · exact ⟨[], .inl rfl, by simp⟩

theorem body_append_afterBody (source : List Char) :
    IsTail (afterBody source) ∧ dropCaret source = body source ++ afterBody source := by
  obtain ⟨tail, isTail, whole⟩ := exists_tail (dropCaret source)
  have same : afterBody source = tail := by
    calc (dropCaret source).drop (body source).length
        = (body source ++ tail).drop (body source).length := congrArg (List.drop _) whole
      _ = tail := List.drop_left
  rw [same]
  exact ⟨isTail, whole⟩

variable {names : PropertyNames}

/-- A caret at the start is the assertion that a text starts there. -/
theorem exists_of_tokens {source : List Char} {read : List Token}
    (done : Regex.tokens names false source = some read) :
    ∃ caret fuel bodyTokens, read = items caret ++ bodyTokens ∧
      tokenize names fuel (.initial false) [] (body source ++ afterBody source) = some bodyTokens := by
  rw [← (body_append_afterBody source).2]
  unfold dropCaret
  split
  · next rest =>
      obtain ⟨later, found, rfl⟩ := Option.map_eq_some_iff.1 done
      exact ⟨[.ofLook .textStart], _, later, rfl, found⟩
  · exact ⟨[], _, read, rfl, done⟩

/-! ## Soundness -/

/-- The atoms of a source in which the escapes that compile to assertions are no literals. -/
def compiledAtoms (source : List Char) : Option (List Atom) :=
  scan isEscapable (source.length + 1) source

/-- The scan for edges reads a source the way it compiles. -/
structure ReadsAsCompiled (names : PropertyNames) (source : List Char) : Prop where
  /-- The edges are the same if escaped angle brackets are taken for the assertions they are. -/
  escapes : (compiledAtoms (body source)).map ofAtoms = (atoms (body source)).map ofAtoms
  /-- No inner class begins with a closing bracket, and no range ends in an opening one. -/
  classes : plainClasses names (afterBody source) ((body source).length + 1) (body source) = true

instance (source : List Char) : Decidable (ReadsAsCompiled names source) :=
  decidable_of_iff (_ ∧ _) ⟨fun ⟨escapes, classes⟩ => ⟨escapes, classes⟩,
    fun ⟨escapes, classes⟩ => ⟨escapes, classes⟩⟩

theorem items_append (first second : List Piece) :
    items (first ++ second) = items first ++ items second := List.map_append

/-- Given characters at the front of the body are a part of the expression. -/
theorem exists_row_of_leading {caret : List Piece} {tokens : List Token} {chars : List Char}
    {piece : Piece} (noBar : .bar ∉ tokens) (unrepeated : chars ≠ [] → Unrepeated tokens)
    (assembled : assemble (items caret ++ (items (chars.map .ofChar) ++ tokens)) .start [] =
      some piece) :
    ∃ front back, piece.regex = concat (front ++ chars.map Regex.char ++ back) := by
  by_cases empty : chars = []
  · subst empty
    exact ⟨[piece.regex], [], rfl⟩
  · rw [← List.append_assoc, ← items_append] at assembled
    obtain ⟨back, row⟩ := exists_row_of_assemble_items_append noBar (unrepeated empty) assembled
    refine ⟨caret.map Piece.regex, back.map Piece.regex, ?_⟩
    rw [row, List.map_append, List.map_append, List.map_map]
    rfl

/-- Given characters before the end of the body are a part of the expression. -/
theorem exists_row_of_trailing {before : List Token} {chars : List Char} {last : List Piece}
    {piece : Piece} (noBar : .bar ∉ before)
    (assembled : assemble (before ++ (items (chars.map .ofChar) ++ items last)) .start [] =
      some piece) :
    ∃ front back, piece.regex = concat (front ++ chars.map Regex.char ++ back) := by
  rw [← items_append] at assembled
  have single : Single (.start, []) := by
    intro group member
    rw [List.mem_singleton.1 member]
    rfl
  obtain ⟨front, row⟩ := exists_row_of_assemble_append_items noBar single assembled
  refine ⟨front.map Piece.regex, last.map Piece.regex, ?_⟩
  rw [row, List.map_append, List.map_append, List.map_map, ← List.append_assoc]
  rfl

/-- Both edges are a part of the expression, where the source is read the way it compiles. -/
theorem exists_rows {source : String} {regex : Regex} {edges : LiteralEdges}
    (parsed : Regex.parse names false source = some regex)
    (found : ofSource? false source = some edges) (plain : ReadsAsCompiled names source.toList) :
    (∃ front back, regex = concat (front ++ edges.leading.toList.map Regex.char ++ back)) ∧
      ∃ front back, regex = concat (front ++ edges.trailing.toList.map Regex.char ++ back) := by
  simp only [parse, bind, Option.bind_eq_some_iff] at parsed
  obtain ⟨read, tokenized, piece, assembled, parsed⟩ := parsed
  have made : piece.regex = regex := by
    split at parsed
    · exact Option.some.inj parsed
    · cases parsed
  subst made
  obtain ⟨caret, fuel, bodyTokens, rfl, tokenizedBody⟩ := exists_of_tokens tokenized
  -- The scan of the body, with every escape taken for what it compiles to.
  obtain ⟨scanned, read, found⟩ := Option.bind_eq_some_iff.1 found
  have scannedBody : atoms (body source.toList) = some scanned := read
  have same : ofAtoms scanned = edges := by
    dsimp only at found
    split at found
    · cases found
    · exact Option.some.inj found
  have escapes := plain.escapes
  rw [scannedBody, Option.map_some, same] at escapes
  obtain ⟨row, rowRead, rfl⟩ := Option.map_eq_some_iff.1 escapes
  have isTail := (body_append_afterBody source.toList).1
  have mirrors := (mirrorsBelow isTail _ _ (Nat.lt_succ_self _) fuel (body source.toList) []
    bodyTokens row rowRead plain.classes (by simp) tokenizedBody).1
  have noBar : .bar ∉ bodyTokens := mirrors.noBar (by simp [tailTokens])
  constructor
  · obtain ⟨rest, leading⟩ := exists_leading row
    rw [leading] at mirrors
    obtain ⟨later, rfl, -, unrepeated⟩ := mirrors.of_literals_append
    rw [List.mem_append, not_or] at noBar
    exact exists_row_of_leading noBar.2 unrepeated assembled
  · obtain ⟨front, trailing⟩ := exists_trailing row
    rw [trailing] at mirrors
    obtain ⟨before, rfl⟩ := mirrors.of_append_literals
    rw [List.mem_append, not_or] at noBar
    rw [← List.append_assoc] at assembled
    have noBarBefore : .bar ∉ items caret ++ before := by simpa [items] using noBar.1
    have ends : tailTokens (afterBody source.toList) =
        items ((afterBody source.toList).map fun _ => .ofLook .textEnd) := by
      simp [tailTokens, items]
    rw [ends] at assembled
    exact exists_row_of_trailing noBarBefore assembled

end LiteralEdges

namespace Pattern

/-- Every literal edge of a pattern stands in every text that the pattern is found in, where the
scan for edges reads the pattern the way it compiles. This is so for every pattern that compiles,
whatever the names of properties and the limit on size are. -/
theorem contains_of_mem_literals [Compiler] {pattern : Pattern} {edges : LiteralEdges}
    {text literal : String} (found : pattern.literalEdges? = some edges)
    (plain : LiteralEdges.ReadsAsCompiled Compiler.names pattern.source.toList)
    (matched : pattern.matchesIn text = true) (member : literal ∈ edges.literals) :
    Text.contains text literal = true := by
  have caseCounts : pattern.ignoreCase = false := by
    by_contra ignored
    rw [literalEdges?, LiteralEdges.ofSource?, if_pos (by simpa using ignored)] at found
    cases found
  have parsed := Compiler.parse_of_compile pattern.compiled
  rw [literalEdges?, caseCounts] at found
  rw [caseCounts] at parsed
  have ⟨⟨front, back, leading⟩, ⟨before, after, trailing⟩⟩ :=
    LiteralEdges.exists_rows parsed found plain
  have accepted := Regex.accepts_iff.1 matched
  rw [Text.contains, Text.occursIn_iff]
  rcases List.mem_cons.1 (List.mem_filter.1 member |>.1) with rfl | later
  · rw [leading] at accepted
    exact accepted.infix_of_concat
  · obtain rfl := List.mem_singleton.1 later
    rw [trailing] at accepted
    exact accepted.infix_of_concat

/-- Behind the leading edge of this pattern stands a class that names a property with a value. -/
theorem contains_of_mem_literals_named :
    ∃ pattern : Pattern, pattern.source = "btn[\\p\x7bAge:6.0\x7d]*$" ∧
      pattern.literalEdges? = some ⟨"btn", ""⟩ ∧ pattern.matchesIn "a btn" = true ∧
      Text.contains "a btn" "btn" = true := by
  have facts : (Pattern.ofSource? "btn[\\p\x7bAge:6.0\x7d]*$" false).any (fun pattern =>
      pattern.source = "btn[\\p\x7bAge:6.0\x7d]*$" ∧
        pattern.literalEdges? = some ⟨"btn", ""⟩ ∧ pattern.matchesIn "a btn" = true) = true := by
    decide +kernel
  obtain ⟨pattern, -, facts⟩ := (Option.any_eq_true _ _).1 facts
  obtain ⟨source, found, matched⟩ := of_decide_eq_true facts
  have plain : LiteralEdges.ReadsAsCompiled .standard pattern.source.toList := by
    rw [source]
    decide +kernel
  exact ⟨pattern, source, found, matched,
    contains_of_mem_literals found plain matched (by decide)⟩

/-- A pattern with this source is found in the text, where one of its literal edges is not. -/
def MissesLiteral (source text literal : String) : Prop :=
  ∃ pattern : Pattern, pattern.source = source ∧ pattern.matchesIn text = true ∧
    ∃ edges, pattern.literalEdges? = some edges ∧ literal ∈ edges.literals ∧
      Text.contains text literal = false

theorem missesLiteral_of_any {source text literal : String}
    (found : (ofSource? source false).any (fun pattern =>
      pattern.source = source ∧ pattern.matchesIn text = true ∧
        pattern.literalEdges?.any (fun edges => literal ∈ edges.literals ∧
          Text.contains text literal = false) = true) = true) : MissesLiteral source text literal := by
  obtain ⟨pattern, -, facts⟩ := (Option.any_eq_true _ _).1 found
  obtain ⟨same, matched, missing⟩ := of_decide_eq_true facts
  obtain ⟨edges, made, absent⟩ := (Option.any_eq_true _ _).1 missing
  exact ⟨pattern, same, matched, edges, made, of_decide_eq_true absent⟩

/-- Patterns that are found in a text without one of their edges: one begins with an assertion,
one has a range that ends in an opening bracket, and one has an inner class that begins with a
closing bracket. -/
theorem exists_missing_literal :
    MissesLiteral "\\<a" "a" "<a" ∧ MissesLiteral "[+-[]|a]b" "," "b" ∧
      MissesLiteral "[x[]]\x7b]a|b\x7dc" "xa" "c" := by
  refine ⟨missesLiteral_of_any ?_, missesLiteral_of_any ?_, missesLiteral_of_any ?_⟩
  all_goals decide +kernel

end Pattern

end ElementSearch
