/-
# Patterns for exactly one text

A text can be written as a pattern: where a character has a meaning of its own in patterns,
a backslash stands before it. Between a caret and a dollar sign this is a pattern for the
one text and for no other. It is read into the text's characters between two assertions, so
that a search finds it in a text exactly if that is the same.
-/

import ElementSearch.Pattern
import ElementSearch.Proofs.Regex.Assembly
import ElementSearch.Proofs.Regex.Search
import ElementSearch.Proofs.Regex.Token

namespace ElementSearch

namespace Regex

variable {names : PropertyNames}

/-! ## Escaped texts -/

/-- A character as a pattern for itself. -/
def escapeChar (c : Char) : List Char := if isMeta c then ['\\', c] else [c]

/-- A text as a pattern for itself. -/
def escape (text : List Char) : List Char := text.flatMap escapeChar

/-- The pattern for exactly one text. -/
def exactSource (text : String) : String :=
  String.ofList ('^' :: (escape text.toList ++ ['$']))

/-- What the pattern for exactly one text is read into. -/
def exactPieces (text : List Char) : List Piece :=
  .ofLook .textStart :: (text.map .ofChar ++ [.ofLook .textEnd])

theorem escape_cons_append (c : Char) (text rest : List Char) :
    escape (c :: text) ++ rest = escapeChar c ++ (escape text ++ rest) := by
  rw [escape, List.flatMap_cons, List.append_assoc]
  rfl

theorem tokenize_escapeChar (fuel : Nat) (outer : List Flags) (c : Char) (rest : List Char) :
    tokenize names (fuel + 1) (.initial false) outer (escapeChar c ++ rest) =
      (tokenize names fuel (.initial false) outer rest).map (.item (.ofChar c) :: ·) := by
  unfold escapeChar
  split
  · next special =>
      have escapable : isEscapable c = true := by rw [isEscapable, special, Bool.true_or]
      rw [List.cons_append, List.singleton_append, tokenize_escape,
        readEscape_of_isEscapable escapable]
      rfl
  · next plain =>
      rw [List.singleton_append, tokenize_literal]
      · rfl
      · simp only [isMeta, List.contains_eq_mem, List.mem_cons, List.not_mem_nil, or_false,
          decide_eq_true_eq, decide_eq_false_iff_not, not_or] at plain ⊢
        simp only [plain, not_false_eq_true, and_self]

/-- An escaped text is read into its characters. -/
theorem tokenize_escape_append (fuel : Nat) (outer : List Flags) (text rest : List Char) :
    tokenize names (text.length + fuel) (.initial false) outer (escape text ++ rest) =
      (tokenize names fuel (.initial false) outer rest).map (items (text.map .ofChar) ++ ·) := by
  induction text with
  | nil =>
      have same : (items [] ++ · : List Token → List Token) = id := rfl
      rw [List.length_nil, Nat.zero_add, List.map_nil, same, Option.map_id]
      rfl
  | cons c text ih =>
      rw [escape_cons_append, List.length_cons, Nat.add_right_comm, tokenize_escapeChar, ih,
        Option.map_map]
      rfl

theorem length_le_length_escape (text : List Char) : text.length ≤ (escape text).length := by
  induction text with
  | nil => exact Nat.le_refl 0
  | cons c text ih =>
      have one : 1 ≤ (escapeChar c).length := by
        unfold escapeChar
        split
        · exact Nat.succ_pos _
        · exact Nat.succ_pos _
      rw [escape, List.flatMap_cons, List.length_append, List.length_cons]
      rw [escape] at ih
      omega

/-- The pattern for exactly one text is read into the characters of the text between the
assertions that a text starts and ends. -/
theorem tokens_exactSource (text : String) :
    tokens names false (exactSource text).toList = some (items (exactPieces text.toList)) := by
  have ⟨more, enough⟩ := Nat.exists_eq_add_of_le (length_le_length_escape text.toList)
  have fuel : (exactSource text).toList.length + 1 = text.toList.length + (more + 1 + 1) + 1 := by
    rw [exactSource, String.toList_ofList, List.length_cons, List.length_append, enough]
    rfl
  have dollar : tokenize names (more + 1 + 1) (.initial false) [] ['$'] =
      some [.item (.ofLook .textEnd)] := rfl
  rw [tokens, fuel, exactSource, String.toList_ofList]
  show (tokenize names (text.toList.length + (more + 1 + 1)) (.initial false) []
    (escape text.toList ++ ['$'])).map (Token.item (.ofLook .textStart) :: ·) = _
  rw [tokenize_escape_append, dollar]
  simp only [Option.map_some, exactPieces, items, List.map_cons, List.map_append, List.map_nil]

/-! ## Compiled -/

/-- Items that stand in a row by themselves are put together as that row. -/
theorem assemble_items (pieces : List Piece) :
    assemble (items pieces) .start [] = some (.sequence pieces) := by
  have assembled := assemble_items_append pieces [] .start []
  rw [List.append_nil] at assembled
  have row : (OpenGroup.start.pushAll pieces).items.reverse = pieces := by
    rw [OpenGroup.items_pushAll, OpenGroup.start, List.append_nil, List.reverse_reverse]
  rw [assembled, assemble, OpenGroup.contents, OpenGroup.finished_pushAll, row]
  rfl

theorem groupNames_items (pieces : List Piece) : groupNames (items pieces) = [] := by
  unfold groupNames items
  rw [List.filterMap_map]
  exact List.filterMap_eq_nil_iff.2 fun _ _ => rfl

/-- The expression that the pattern for exactly one text denotes. -/
def exactRow (text : List Char) : Regex :=
  concat ([.look .textStart] ++ text.map Regex.char ++ [.look .textEnd])

theorem regex_exactPieces (text : List Char) :
    (Piece.sequence (exactPieces text)).regex = exactRow text := by
  rw [regex_sequence, exactPieces, List.map_cons, List.map_append, List.map_map]
  rfl

theorem depth_exactPieces (text : List Char) :
    (Piece.sequence (exactPieces text)).depth = 1 := by
  have flat : ∀ chars : List Char,
      Piece.maxDepth (chars.map .ofChar ++ [.ofLook .textEnd]) = 0 := by
    intro chars
    induction chars with
    | nil => rfl
    | cons c chars ih => exact ih
  cases text with
  | nil => rfl
  | cons c text => exact congrArg (· + 1) (flat text)

/-- The pattern for exactly one text denotes the row of its characters. -/
theorem parse_exactSource (text : String) :
    parse names false (exactSource text) = some (exactRow text.toList) := by
  simp only [parse, tokens_exactSource, assemble_items, bind, Option.bind_some,
    groupNames_items, depth_exactPieces, regex_exactPieces]
  exact if_pos ⟨List.nodup_nil, by decide⟩

/-! ## Searched for -/

section Search

variable {text : List Char} {start stop : Nat}

/-- Only at its start does a text start. -/
theorem matches_textStart_iff :
    Matches text (.look .textStart) start stop ↔ start = 0 ∧ stop = 0 := by
  rw [matches_look_iff, Look.holds, Option.isNone_iff_eq_none]
  constructor
  · rintro ⟨rfl, inside, absent⟩
    cases start with
    | zero => exact ⟨rfl, rfl⟩
    | succ place =>
        -- A character stands before every other place.
        exact absurd (List.getElem?_eq_none_iff.1 absent) (Nat.not_le.2 inside)
  · rintro ⟨rfl, rfl⟩
    exact ⟨rfl, Nat.zero_le _, rfl⟩

/-- Only at its end does a text end. -/
theorem matches_textEnd_iff :
    Matches text (.look .textEnd) start stop ↔ start = text.length ∧ stop = text.length := by
  rw [matches_look_iff, Look.holds, Option.isNone_iff_eq_none, List.getElem?_eq_none_iff]
  constructor
  · rintro ⟨rfl, inside, outside⟩
    have ended : start = text.length := Nat.le_antisymm inside outside
    exact ⟨ended, ended⟩
  · rintro ⟨rfl, rfl⟩
    exact ⟨rfl, Nat.le_refl _, Nat.le_refl _⟩

/-- The row for exactly one text matches that text only. -/
theorem matches_exactRow_iff {chars : List Char} :
    Matches text (exactRow chars) start stop ↔
      start = 0 ∧ stop = text.length ∧ text = chars := by
  rw [exactRow, matches_concat_append_iff]
  simp only [matches_concat_append_iff, matches_chars_iff, concat, matches_textStart_iff,
    matches_textEnd_iff]
  constructor
  · rintro ⟨ended, ⟨started, ⟨rfl, rfl⟩, -, rfl, stands⟩, long, rfl⟩
    rw [Nat.zero_add] at long
    rw [List.drop_zero] at stands
    exact ⟨rfl, rfl, (stands.eq_of_length long).symm⟩
  · rintro ⟨rfl, rfl, rfl⟩
    exact ⟨text.length, ⟨0, ⟨rfl, rfl⟩, Nat.zero_le _, (Nat.zero_add _).symm,
      List.prefix_refl text⟩, rfl, rfl⟩

/-- The row for exactly one text is found in that text only. -/
theorem accepts_exactRow_iff {chars : List Char} :
    accepts (exactRow chars) text = true ↔ text = chars := by
  rw [accepts_iff, Accepts]
  simp only [matches_exactRow_iff]
  constructor
  · rintro ⟨-, -, -, -, same⟩
    exact same
  · exact fun same => ⟨0, text.length, rfl, rfl, same⟩

end Search

end Regex

namespace Pattern

/-- The pattern is the one for exactly this text. -/
structure IsExactly (pattern : Pattern) (text : String) : Prop where
  source : pattern.source = Regex.exactSource text
  caseCounts : pattern.ignoreCase = false

/-- The pattern for exactly one text is found in that text and in no other. -/
theorem matchesIn_iff_of_isExactly {pattern : Pattern} {asked : String}
    (exactly : pattern.IsExactly asked) (text : String) :
    pattern.matchesIn text = true ↔ text = asked := by
  have compiled := pattern.compiled
  rw [exactly.source, exactly.caseCounts] at compiled
  have parsed := Compiler.parse_of_compile compiled
  have denoted := Option.some.inj (parsed.symm.trans (Regex.parse_exactSource asked))
  rw [matchesIn, denoted, Regex.accepts_exactRow_iff]
  exact String.toList_inj

/-- The pattern for one text and another test for it, which may read a text in another way, agree
exactly where both read the same or neither reads the one text. -/
theorem matchesIn_eq_iff_of_isExactly {pattern : Pattern} {asked other : String} {passes : Bool}
    (exactly : pattern.IsExactly asked) (test : passes = true ↔ other = asked) (text : String) :
    pattern.matchesIn text = passes ↔ text = other ∨ text ≠ asked ∧ other ≠ asked := by
  rw [Bool.eq_iff_iff, matchesIn_iff_of_isExactly exactly, test]
  constructor
  · intro agree
    by_cases same : text = asked
    · exact .inl (same.trans (agree.1 same).symm)
    · exact .inr ⟨same, mt agree.2 same⟩
  · rintro (rfl | ⟨neither, nor⟩)
    · exact Iff.rfl
    · exact ⟨fun same => absurd same neither, fun same => absurd same nor⟩

/-- There is a pattern for exactly one text, whatever it is. -/
theorem exists_isExactly (text : String) : ∃ pattern : Pattern, pattern.IsExactly text :=
  ⟨⟨_, false, _, Regex.parse_exactSource text⟩, rfl, rfl⟩

end Pattern

end ElementSearch
