/-
# Literal edges of escaped texts

A scan that may give up is right about every edge it finds, and still it could find none. Here
is where it must find them. A source that is an escaped text has the text for its leading edge,
and two escaped texts with anything allowed between them are the two edges, whether or not the
source is anchored. It does not matter what the texts are made of. They may begin with carets
and end with dollar signs or backslashes, and none of these is taken for an anchor or for half
of an escape.
-/

import ElementSearch.Proofs.Query.AtomScan
import ElementSearch.Proofs.Regex.Exact

namespace ElementSearch

namespace LiteralEdges

open Regex

/-- A source with a caret before it and a dollar sign behind it, where they are wanted. -/
def anchored (caret dollar : Bool) (source : List Char) : List Char :=
  (if caret then ['^'] else []) ++ (source ++ if dollar then ['$'] else [])

/-! ## The anchor behind a source -/

/-- How many backslashes a source ends with. -/
def endingBackslashes (source : List Char) : Nat :=
  (source.reverse.takeWhile (· == '\\')).length

theorem endingBackslashes_append_singleton (source : List Char) (c : Char) :
    endingBackslashes (source ++ [c]) = if c = '\\' then endingBackslashes source + 1 else 0 := by
  rw [endingBackslashes, List.reverse_append, List.reverse_singleton, List.singleton_append,
    List.takeWhile_cons]
  by_cases backslash : c = '\\'
  · simp [backslash, endingBackslashes]
  · simp [backslash]

theorem dropDollar_append_of_ne {c : Char} (other : c ≠ '$') (source : List Char) :
    dropDollar (source ++ [c]) = source ++ [c] := by
  rw [dropDollar, List.reverse_append, List.reverse_singleton, List.singleton_append]
  split
  · next reversed => exact absurd (List.cons.inj reversed).1 other
  · rfl

theorem dropDollar_append_dollar (source : List Char) :
    dropDollar (source ++ ['$']) =
      if endingBackslashes source % 2 = 0 then source else source ++ ['$'] := by
  rw [dropDollar, List.reverse_append, List.reverse_singleton, List.singleton_append]
  simp only [List.reverse_reverse, beq_iff_eq]
  rfl

/-- The escapes at the end of a source are complete: no backslash waits there for the next
character, and a dollar sign there is an escaped one. -/
structure EndsComplete (source : List Char) : Prop where
  even : endingBackslashes source % 2 = 0
  kept : dropDollar source = source

namespace EndsComplete

variable {source : List Char}

theorem nil : EndsComplete [] := ⟨rfl, rfl⟩

/-- A character that is neither a backslash nor a dollar sign leaves nothing open. -/
theorem append_singleton {c : Char} (backslash : c ≠ '\\') (dollar : c ≠ '$')
    (source : List Char) : EndsComplete (source ++ [c]) where
  even := by rw [endingBackslashes_append_singleton, if_neg backslash]
  kept := dropDollar_append_of_ne dollar source

/-- An escaped character completes its own escape, a backslash or a dollar sign as any other. -/
theorem append_escaped (complete : EndsComplete source) (c : Char) :
    EndsComplete (source ++ ['\\', c]) := by
  have split : source ++ ['\\', c] = source ++ ['\\'] ++ [c] := List.append_cons ..
  have before : endingBackslashes (source ++ ['\\']) = endingBackslashes source + 1 := by
    rw [endingBackslashes_append_singleton, if_pos rfl]
  have even := complete.even
  rw [split]
  constructor
  · rw [endingBackslashes_append_singleton, before]
    split
    · omega
    · rfl
  · by_cases dollar : c = '$'
    · rw [dollar, dropDollar_append_dollar, before, if_neg (by omega)]
    · exact dropDollar_append_of_ne dollar _

theorem append_escapeChar (complete : EndsComplete source) (c : Char) :
    EndsComplete (source ++ escapeChar c) := by
  unfold escapeChar
  split
  · exact complete.append_escaped c
  · next plain =>
      apply append_singleton
      · rintro rfl
        exact plain rfl
      · rintro rfl
        exact plain rfl

theorem append_escape (complete : EndsComplete source) (text : List Char) :
    EndsComplete (source ++ escape text) := by
  induction text generalizing source with
  | nil => rwa [escape, List.flatMap_nil, List.append_nil]
  | cons c text ih =>
      rw [escape, List.flatMap_cons, ← List.append_assoc]
      exact ih (complete.append_escapeChar c)

/-- A dollar sign behind such a source is an anchor, and nothing else there is. -/
theorem dropDollar_append (complete : EndsComplete source) (dollar : Bool) :
    dropDollar (source ++ if dollar then ['$'] else []) = source := by
  cases dollar with
  | true =>
      show dropDollar (source ++ ['$']) = source
      rw [dropDollar_append_dollar, if_pos complete.even]
  | false =>
      show dropDollar (source ++ []) = source
      rw [List.append_nil, complete.kept]

end EndsComplete

/-! ## The front of an escaped text -/

/-- An escaped character begins with a backslash or is itself without a meaning of its own. -/
theorem exists_escapeChar_eq_cons (c : Char) :
    ∃ first later, escapeChar c = first :: later ∧ (first = '\\' ∨ isMeta first = false) := by
  unfold escapeChar
  split
  · exact ⟨'\\', [c], rfl, .inl rfl⟩
  · next plain => exact ⟨c, [], rfl, .inr (Bool.eq_false_iff.2 plain)⟩

theorem dropCaret_of_head?_ne {source : List Char} (plain : source.head? ≠ some '^') :
    dropCaret source = source := by
  unfold dropCaret
  split
  · exact absurd rfl plain
  · rfl

theorem head?_escape_append_ne {rest : List Char} (plain : rest.head? ≠ some '^')
    (text : List Char) : (escape text ++ rest).head? ≠ some '^' := by
  cases text with
  | nil => exact plain
  | cons c text =>
      obtain ⟨first, later, escaped, sort⟩ := exists_escapeChar_eq_cons c
      rw [escape, List.flatMap_cons, escaped]
      intro caret
      obtain rfl : first = '^' := Option.some.inj caret
      rcases sort with same | plain
      · cases same
      · cases plain

/-- No repetition stands at the front of an escaped text. -/
theorem repeats_escape_append {rest : List Char} (plain : repeats rest = false)
    (text : List Char) : repeats (escape text ++ rest) = false := by
  cases text with
  | nil => exact plain
  | cons c text =>
      obtain ⟨first, later, escaped, sort⟩ := exists_escapeChar_eq_cons c
      rw [escape, List.flatMap_cons, escaped]
      show (first == '?' || first == '*' || first == '+' || first == '\x7b') = false
      rcases sort with rfl | plain
      · rfl
      · simp only [isMeta, List.contains_eq_mem, List.mem_cons, List.not_mem_nil, or_false,
          decide_eq_false_iff_not, not_or] at plain
        simp [plain]

/-- What is anchored is what is scanned. -/
theorem dropDollar_dropCaret_anchored {source : List Char} (complete : EndsComplete source)
    (plain : source.head? ≠ some '^') (caret dollar : Bool) :
    dropDollar (dropCaret (anchored caret dollar source)) = source := by
  cases caret with
  | true => exact complete.dropDollar_append dollar
  | false =>
      have front : (source ++ if dollar then ['$'] else []).head? ≠ some '^' := by
        cases source with
        | nil => cases dollar <;> decide
        | cons c source => exact plain
      show dropDollar (dropCaret (source ++ if dollar then ['$'] else [])) = source
      rw [dropCaret_of_head?_ne front, complete.dropDollar_append]

/-! ## The scan of an escaped text -/

/-- An escaped character is one atom, which is the character. -/
theorem readAtom_escapeChar (c : Char) (rest : List Char) :
    readAtom (fun _ => true) (escapeChar c ++ rest) = some (.literal c, rest) := by
  unfold escapeChar
  split
  · next special =>
      have mark : isPunctuation c = true := by
        simp only [isMeta, List.contains_eq_mem, List.mem_cons, List.not_mem_nil, or_false,
          decide_eq_true_eq] at special
        rcases special with rfl | rfl | rfl | rfl | rfl | rfl | rfl | rfl | rfl | rfl | rfl |
          rfl | rfl | rfl | rfl | rfl | rfl | rfl <;> rfl
      simp [readAtom, mark]
  · next plain =>
      simp only [isMeta, List.contains_eq_mem, List.mem_cons, List.not_mem_nil, or_false,
        decide_eq_true_eq, not_or] at plain
      simp [readAtom, plain]

/-- The scan goes on behind the atom that was read. -/
theorem scan_succ_of_readAtom {literal : Char → Bool} {source later : List Char} {atom : Atom}
    (read : readAtom literal source = some (atom, later)) (fuel : Nat) :
    scan literal (fuel + 1) source =
      (scan literal fuel later).map ((if repeats later then .other else atom) :: ·) := by
  cases source with
  | nil => cases read
  | cons c rest => rw [scan, read, Option.bind_some]

theorem scan_escape_append {rest : List Char} (plain : repeats rest = false) (fuel : Nat)
    (text : List Char) :
    scan (fun _ => true) (text.length + fuel) (escape text ++ rest) =
      (scan (fun _ => true) fuel rest).map (text.map .literal ++ ·) := by
  induction text with
  | nil =>
      rw [List.length_nil, Nat.zero_add, List.map_nil]
      exact Option.map_id'.symm
  | cons c text ih =>
      rw [escape_cons_append, List.length_cons, Nat.add_right_comm,
        scan_succ_of_readAtom (readAtom_escapeChar c _), repeats_escape_append plain, ih,
        Option.map_map]
      rfl

theorem scan_escape {fuel : Nat} {text : List Char} (enough : (escape text).length < fuel) :
    scan (fun _ => true) fuel (escape text) = some (text.map .literal) := by
  have longer : text.length + 1 ≤ fuel := Nat.lt_of_le_of_lt (length_le_length_escape text) enough
  obtain ⟨more, rfl⟩ := Nat.exists_eq_add_of_le longer
  have unrepeated : repeats [] = false := rfl
  have scanned := scan_escape_append unrepeated (more + 1) text
  rw [List.append_nil] at scanned
  rw [Nat.add_assoc, Nat.add_comm 1, scanned, scan, Option.map_some, List.append_nil]

/-- The atoms of an escaped text are its characters. -/
theorem atoms_escape (text : List Char) : atoms (escape text) = some (text.map .literal) := by
  rw [atoms_eq_scan, scan_escape (Nat.lt_succ_self _)]

/-- The source for two texts with anything between them. -/
def gappedSource (before after : List Char) : List Char :=
  escape before ++ '.' :: '*' :: escape after

/-- A row of atoms with literals at either end and others between them. -/
def gappedRow (before after : List Char) : List Atom :=
  before.map .literal ++ .other :: .other :: after.map .literal

/-- What allows anything between two escaped texts is two atoms that are no literals. -/
theorem atoms_gappedSource (before after : List Char) :
    atoms (gappedSource before after) = some (gappedRow before after) := by
  obtain ⟨more, enough⟩ := Nat.exists_eq_add_of_le (length_le_length_escape before)
  have fuel : (gappedSource before after).length + 1 =
      before.length + (more + (escape after).length + 1 + 1 + 1) := by
    rw [gappedSource, List.length_append, List.length_cons, List.length_cons, enough]
    omega
  have scanned : scan (fun _ => true) (more + (escape after).length + 1) (escape after) =
      some (after.map .literal) := scan_escape (by omega)
  rw [atoms_eq_scan, fuel, gappedSource, scan_escape_append rfl, scan_succ_of_readAtom rfl,
    scan_succ_of_readAtom rfl, scanned, ite_self, ite_self]
  rfl

/-! ## The edges -/

theorem filterMap_char?_map_literal (chars : List Char) :
    (chars.map Atom.literal).filterMap Atom.char? = chars := by
  induction chars with
  | nil => rfl
  | cons c chars ih => exact congrArg (c :: ·) ih

theorem takeWhile_isLiteral_map_literal (chars : List Char) (rest : List Atom) :
    (chars.map Atom.literal ++ rest).takeWhile Atom.isLiteral =
      chars.map .literal ++ rest.takeWhile Atom.isLiteral := by
  induction chars with
  | nil => rfl
  | cons c chars ih => exact congrArg (Atom.literal c :: ·) ih

theorem ofAtoms_map_literal (chars : List Char) :
    ofAtoms (chars.map .literal) = ⟨String.ofList chars, ""⟩ := by
  have leading := takeWhile_isLiteral_map_literal chars []
  rw [List.append_nil, List.takeWhile_nil, List.append_nil] at leading
  rw [ofAtoms, leading, filterMap_char?_map_literal]
  simp

/-- The literals at either end of such a row are its edges. -/
theorem ofAtoms_gappedRow (before after : List Char) :
    ofAtoms (gappedRow before after) = ⟨String.ofList before, String.ofList after⟩ := by
  have leading : (gappedRow before after).takeWhile Atom.isLiteral = before.map .literal := by
    rw [gappedRow, takeWhile_isLiteral_map_literal]
    exact List.append_nil _
  have trailing : (gappedRow before after).reverse.takeWhile Atom.isLiteral =
      after.reverse.map .literal := by
    have turned : (gappedRow before after).reverse =
        after.reverse.map .literal ++ (.other :: .other :: before.reverse.map .literal) := by
      simp [gappedRow]
    rw [turned, takeWhile_isLiteral_map_literal]
    exact List.append_nil _
  have shorter : (before.map Atom.literal).length ≠ (gappedRow before after).length := by
    rw [gappedRow, List.length_append, List.length_cons]
    omega
  simp only [ofAtoms, leading, trailing, beq_iff_eq, if_neg shorter, ← List.map_reverse,
    List.reverse_reverse, filterMap_char?_map_literal]

theorem isEmpty_literals_iff (edges : LiteralEdges) :
    edges.literals.isEmpty = true ↔ edges.leading = "" ∧ edges.trailing = "" := by
  simp [literals]

/-- An anchored source has the edges of its own atoms, where its ends are no anchors themselves. -/
theorem ofSource?_of_anchored {source : String} {inner : List Char} {row : List Atom}
    {caret dollar : Bool} (whole : source.toList = anchored caret dollar inner)
    (front : inner.head? ≠ some '^') (complete : EndsComplete inner)
    (scanned : atoms inner = some row) :
    ofSource? false source =
      if (ofAtoms row).leading = "" ∧ (ofAtoms row).trailing = "" then none
      else some (ofAtoms row) := by
  rw [ofSource?, if_neg Bool.false_ne_true, whole, dropDollar_dropCaret_anchored complete front,
    scanned, Option.bind_some]
  exact if_congr (isEmpty_literals_iff _) rfl rfl

section Sources

variable (before after : List Char)

theorem head?_escape_ne : (escape before).head? ≠ some '^' := by
  rw [← List.append_nil (escape before)]
  exact head?_escape_append_ne (by decide) before

theorem head?_gappedSource_ne : (gappedSource before after).head? ≠ some '^' :=
  head?_escape_append_ne (by simp) before

theorem endsComplete_escape : EndsComplete (escape before) :=
  EndsComplete.nil.append_escape before

theorem endsComplete_gappedSource : EndsComplete (gappedSource before after) := by
  have gap : EndsComplete (escape before ++ ['.'] ++ ['*']) :=
    .append_singleton (by decide) (by decide) _
  have whole := gap.append_escape after
  rwa [List.append_assoc, List.append_assoc] at whole

end Sources

end LiteralEdges

/-- The only literal edge of an escaped text is the whole text, and those of two escaped texts
with anything between them are the two texts, whatever characters they are made of and whether
or not they are anchored. There are no edges only where there are no characters. -/
theorem Pattern.literalEdges?_of_escaped {pattern : Pattern}
    (caseCounts : pattern.ignoreCase = false) (caret dollar : Bool) (before after : String) :
    (pattern.source.toList =
        LiteralEdges.anchored caret dollar (Regex.escape before.toList) →
      pattern.literalEdges? = if before = "" then none else some ⟨before, ""⟩) ∧
    (pattern.source.toList =
        LiteralEdges.anchored caret dollar (LiteralEdges.gappedSource before.toList after.toList) →
      pattern.literalEdges? =
        if before = "" ∧ after = "" then none else some ⟨before, after⟩) := by
  rw [literalEdges?, caseCounts]
  constructor
  · intro whole
    rw [LiteralEdges.ofSource?_of_anchored whole (LiteralEdges.head?_escape_ne _)
      (LiteralEdges.endsComplete_escape _) (LiteralEdges.atoms_escape _),
      LiteralEdges.ofAtoms_map_literal, String.ofList_toList]
    simp
  · intro whole
    rw [LiteralEdges.ofSource?_of_anchored whole (LiteralEdges.head?_gappedSource_ne _ _)
      (LiteralEdges.endsComplete_gappedSource _ _) (LiteralEdges.atoms_gappedSource _ _),
      LiteralEdges.ofAtoms_gappedRow, String.ofList_toList, String.ofList_toList]

/-- Both texts are made of anchors and backslashes, and so are the ends of the pattern. -/
theorem Pattern.literalEdges?_of_escaped_anchors :
    ∃ pattern : Pattern, pattern.source = "^\\^a\\\\\\$.*\\$\\\\$" ∧
      pattern.ignoreCase = false ∧ pattern.literalEdges? = some ⟨"^a\\$", "$\\"⟩ := by
  obtain ⟨pattern, made⟩ :
      ∃ pattern, ofSource? "^\\^a\\\\\\$.*\\$\\\\$" false = some pattern :=
    Option.isSome_iff_exists.1 (by decide +kernel)
  obtain ⟨source, caseCounts⟩ := source_of_ofSource? made
  refine ⟨pattern, source, caseCounts, ?_⟩
  have edges := (literalEdges?_of_escaped caseCounts true true "^a\\$" "$\\").2
  rw [edges (by rw [source]; decide +kernel)]
  rfl

end ElementSearch
