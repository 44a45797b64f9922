/-
# The scan for atoms

The scan reads one atom after the other, and an atom with a repetition behind it is no
literal. Said that way it runs beside the tokens of the same pattern: `Mirrors` relates
the two lists, and from it the literals at either end are found again as items at that
end. The scan takes every escaped punctuation mark for a literal, which is not always
what compiling makes of it, so which marks are literals is a parameter here. The classes
that the scan meets are taken to have plain brackets.
-/

import ElementSearch.Proofs.Regex.Assembly
import ElementSearch.Proofs.Regex.Token
import ElementSearch.Proofs.Query.ClassScan

namespace ElementSearch.LiteralEdges

open Regex

/-- Whether a repetition comes next. -/
def repeats : List Char → Bool
  | c :: _ => c == '?' || c == '*' || c == '+' || c == '\x7b'
  | [] => false

/-- The next atom without regard to what follows it, and what follows it. `literal` says which
escaped punctuation marks stand for themselves. -/
def readAtom (literal : Char → Bool) : List Char → Option (Atom × List Char)
  | [] => none
  | c :: rest =>
      if c == '|' then none
      else if c == '\\' then
        match rest with
        | [] => none
        | next :: rest =>
            if isPunctuation next then
              some (if literal next then .literal next else .other, rest)
            else if isSimpleEscape next then some (.other, rest)
            else none
      else if c == '[' then (skipBracket rest).map (.other, ·)
      else if c == '(' then if rest.head? == some '?' then none else some (.other, rest)
      else if c == '?' || c == '*' || c == '+' then some (.other, rest)
      else if c == '\x7b' then some (.other, (rest.dropWhile (· != '\x7d')).drop 1)
      else if ['.', ')', '^', '$', '\x7d', ']'].contains c then some (.other, rest)
      else some (.literal c, rest)

/-- The atoms of a source from its front. -/
def scan (literal : Char → Bool) : Nat → List Char → Option (List Atom)
  | 0, _ => none
  | _ + 1, [] => some []
  | fuel + 1, c :: rest =>
      (readAtom literal (c :: rest)).bind fun (atom, later) =>
        (scan literal fuel later).map ((if repeats later then .other else atom) :: ·)

/-- The atoms that were read, the latest of which a repetition may still take. -/
def settled (source : List Char) : List Atom → List Atom
  | [] => []
  | atom :: read => ((if repeats source then .other else atom) :: read).reverse

/-- A repetition is an atom that is no literal. -/
theorem readAtom_of_repeats {literal : Char → Bool} {source later : List Char} {atom : Atom}
    (repeated : repeats source = true) (found : readAtom literal source = some (atom, later)) :
    atom = .other := by
  cases source with
  | nil => cases repeated
  | cons c rest =>
      simp only [repeats, Bool.or_eq_true, beq_iff_eq] at repeated
      rcases repeated with ((rfl | rfl) | rfl) | rfl <;> cases found <;> rfl

/-- The scan that gathers atoms, one atom at a time. -/
theorem atomsFrom_succ (fuel : Nat) (read : List Atom) (c : Char) (rest : List Char) :
    atomsFrom (fuel + 1) read (c :: rest) =
      (readAtom (fun _ => true) (c :: rest)).bind fun (atom, later) =>
        atomsFrom fuel (if repeats (c :: rest) then quantify read else atom :: read) later := by
  by_cases repeated : repeats (c :: rest) = true
  · simp only [repeats, Bool.or_eq_true, beq_iff_eq] at repeated
    rcases repeated with ((rfl | rfl) | rfl) | rfl <;> rfl
  · simp only [if_neg repeated]
    simp only [repeats, Bool.or_eq_true, beq_iff_eq, not_or] at repeated
    obtain ⟨⟨⟨question, star⟩, plus⟩, brace⟩ := repeated
    simp only [atomsFrom, readAtom, Bool.or_eq_true, beq_iff_eq, question, star, plus, brace,
      or_self, if_false]
    split
    · rfl
    · split
      · cases rest with
        | nil => rfl
        | cons next rest =>
            dsimp only
            split
            · rfl
            · split <;> rfl
      · split
        · cases skipBracket rest <;> rfl
        · split <;> split <;> rfl

theorem atomsFrom_eq (fuel : Nat) (read : List Atom) (source : List Char) :
    atomsFrom fuel read source =
      (scan (fun _ => true) fuel source).map (settled source read ++ ·) := by
  induction fuel generalizing read source with
  | zero => rfl
  | succ fuel ih =>
      cases source with
      | nil => cases read <;> simp [atomsFrom, scan, settled, repeats]
      | cons c rest =>
          rw [atomsFrom_succ, scan]
          cases found : readAtom (fun _ => true) (c :: rest) with
          | none => rfl
          | some next =>
              obtain ⟨atom, later⟩ := next
              simp only [Option.bind_some, ih, Option.map_map]
              congr 1
              funext atoms
              by_cases repeated : repeats (c :: rest) = true
              · obtain rfl := readAtom_of_repeats repeated found
                cases read <;> simp [settled, quantify, repeated]
              · cases read <;> simp [settled, repeated]

/-- The scan for edges takes every escaped character for a literal. -/
theorem atoms_eq_scan (source : List Char) :
    atoms source = scan (fun _ => true) (source.length + 1) source := by
  rw [atoms, atomsFrom_eq]
  exact Option.map_id'

/-! ## Beside the tokens -/

/-- Whether every class that the scan meets has plain brackets. `tail` is the part of the pattern
behind the source. -/
def plainClasses (names : PropertyNames) (tail : List Char) : Nat → List Char → Bool
  | 0, _ => true
  | _ + 1, [] => true
  | fuel + 1, c :: rest =>
      (c != '[' || plainClass names (rest ++ tail)) &&
      match readAtom isEscapable (c :: rest) with
      | some (_, later) => plainClasses names tail fuel later
      | none => true

variable {names : PropertyNames}

/-- The tokens do not begin with a repetition. -/
def Unrepeated (tokens : List Token) : Prop :=
  ∀ least most later, tokens ≠ .times least most :: later

/-- Tokens beside the atoms of the same source. A literal is a character that is not repeated;
the scan may see more atoms than there are tokens. `last` is what follows the source. -/
inductive Mirrors (last : List Token) : List Token → List Atom → Prop
  | done : Mirrors last last []
  | literal {c : Char} {tokens : List Token} {atoms : List Atom} (unrepeated : Unrepeated tokens)
      (later : Mirrors last tokens atoms) :
      Mirrors last (.item (.ofChar c) :: tokens) (.literal c :: atoms)
  | other {token : Token} {tokens : List Token} {atoms : List Atom} (noBar : token ≠ .bar)
      (later : Mirrors last tokens atoms) : Mirrors last (token :: tokens) (.other :: atoms)
  | idle {tokens : List Token} {atoms : List Atom} (later : Mirrors last tokens atoms) :
      Mirrors last tokens (.other :: atoms)

/-- A punctuation mark that is no escape of itself is an angle bracket. -/
theorem angle_of_not_isEscapable {c : Char} (mark : isPunctuation c = true)
    (special : isEscapable c = false) : c = '<' ∨ c = '>' := by
  simp only [isPunctuation, Bool.and_eq_true, decide_eq_true_eq, Bool.not_eq_true'] at mark
  obtain ⟨⟨-, high⟩, noLetter⟩ := mark
  have ascii : c.toNat < 0x80 := by
    have bound : c.toNat ≤ '~'.toNat := high
    exact Nat.lt_of_le_of_lt bound (by decide)
  simp only [isEscapable, Bool.or_eq_false_iff, ascii, noLetter, decide_true, Bool.not_false,
    Bool.true_and, Bool.and_eq_false_iff, bne_eq_false_iff_eq] at special
  exact special.2

/-- A simple escape other than a word boundary is its letter and nothing more. -/
theorem readEscape_of_isSimpleEscape {c : Char} (simple : isSimpleEscape c = true)
    (other : c ≠ 'b') (rest : List Char) :
    ∃ primitive, readEscape names (.initial false) (c :: rest) = some (primitive, rest) := by
  simp only [isSimpleEscape, List.contains_eq_mem, List.mem_cons, List.not_mem_nil, or_false,
    decide_eq_true_eq] at simple
  rcases simple with rfl | rfl | rfl | rfl | rfl | rfl | rfl | rfl | rfl | rfl | rfl | rfl | rfl |
    rfl | rfl <;> first | exact absurd rfl other | exact ⟨_, rfl⟩

/-- What may follow the source of a scan: nothing, or a dollar sign. -/
def IsTail (tail : List Char) : Prop := tail = [] ∨ tail = ['$']

/-- The tokens of what may follow the source. -/
def tailTokens (tail : List Char) : List Token :=
  tail.map fun _ => .item (.ofLook .textEnd)

theorem IsTail.braceFree {tail : List Char} (isTail : IsTail tail) : '\x7d' ∉ tail := by
  rcases isTail with rfl | rfl <;> decide

theorem IsTail.unrepeated {tail : List Char} (isTail : IsTail tail) :
    Unrepeated (tailTokens tail) := by
  intro least most later same
  rcases isTail with rfl | rfl <;> cases same

/-- What may follow a source starts no repetition. -/
theorem IsTail.head?_append_ne {tail source : List Char} (isTail : IsTail tail)
    (plain : source.head? ≠ some '?') : (source ++ tail).head? ≠ some '?' := by
  cases source with
  | nil => rcases isTail with rfl | rfl <;> decide
  | cons c rest => exact plain

theorem IsTail.tokens_eq {tail : List Char} {fuel : Nat} {outer : List Flags}
    {tokens : List Token} (isTail : IsTail tail)
    (done : tokenize names fuel (.initial false) outer tail = some tokens) :
    tokens = tailTokens tail := by
  rcases isTail with rfl | rfl
  · cases fuel with
    | zero => cases done
    | succ fuel => exact (Option.some.inj done).symm
  · match fuel with
    | 0 | 1 => cases done
    | _ + 2 => exact (Option.some.inj done).symm

/-- What is read beside the atoms of a source of some length: the scan, the tokens, and that the
tokens mirror the atoms. Without a repetition at the front of the source there is none at the
front of the tokens. -/
def MirrorsBelow (names : PropertyNames) (tail : List Char) (bound : Nat) : Prop :=
  ∀ (size : Nat) (_ : size < bound) (fuel : Nat) (source : List Char) (outer : List Flags)
    (tokens : List Token) (atoms : List Atom),
    scan isEscapable size source = some atoms → plainClasses names tail size source = true →
    (∀ flags ∈ outer, flags = .initial false) →
    tokenize names fuel (.initial false) outer (source ++ tail) = some tokens →
    Mirrors (tailTokens tail) tokens atoms ∧ (repeats source = false → Unrepeated tokens)

section Step

variable {tail : List Char} {size fuel : Nat} {outer : List Flags} {later : List Char}
  {tokens : List Token} {atoms : List Atom}

/-- A token that is no repetition, beside an atom that is no literal. -/
theorem MirrorsBelow.cons_other (below : MirrorsBelow names tail (size + 1))
    (scanned : scan isEscapable size later = some atoms)
    (closed : plainClasses names tail size later = true)
    (uniform : ∀ flags ∈ outer, flags = .initial false)
    {token : Token} (noBar : token ≠ .bar)
    (once : ∀ least most, token ≠ .times least most)
    (done : (tokenize names fuel (.initial false) outer (later ++ tail)).map (token :: ·) =
      some tokens) :
    Mirrors (tailTokens tail) tokens (.other :: atoms) ∧ Unrepeated tokens := by
  obtain ⟨rest, read, rfl⟩ := Option.map_eq_some_iff.1 done
  have mirrors := (below size (Nat.lt_succ_self size) _ _ _ _ _ scanned closed uniform read).1
  refine ⟨.other noBar mirrors, fun least most others same => ?_⟩
  exact once least most (List.cons.inj same).1

/-- A character that stands for itself, beside its atom. -/
theorem MirrorsBelow.cons_literal (below : MirrorsBelow names tail (size + 1))
    (scanned : scan isEscapable size later = some atoms)
    (closed : plainClasses names tail size later = true)
    (uniform : ∀ flags ∈ outer, flags = .initial false)
    {c : Char}
    (done : (tokenize names fuel (.initial false) outer (later ++ tail)).map
      (.item (.ofChar c) :: ·) = some tokens) :
    Mirrors (tailTokens tail) tokens ((if repeats later then .other else .literal c) :: atoms) ∧
      Unrepeated tokens := by
  obtain ⟨rest, read, rfl⟩ := Option.map_eq_some_iff.1 done
  have ⟨mirrors, unrepeated⟩ :=
    below size (Nat.lt_succ_self size) _ _ _ _ _ scanned closed uniform read
  refine ⟨?_, fun least most others same => by cases same⟩
  by_cases repeated : repeats later = true
  · rw [if_pos repeated]
    exact .other (by simp) mirrors
  · rw [if_neg repeated]
    exact .literal (unrepeated (Bool.eq_false_iff.2 repeated)) mirrors

/-- A repetition and the question mark that may belong to it. -/
theorem MirrorsBelow.cons_times (below : MirrorsBelow names tail (size + 1)) (isTail : IsTail tail)
    (scanned : scan isEscapable size later = some atoms)
    (closed : plainClasses names tail size later = true)
    (uniform : ∀ flags ∈ outer, flags = .initial false)
    {least : Nat} {most : Option Nat}
    (done : (tokenize names fuel (.initial false) outer (dropShort (later ++ tail))).map
      (.times least most :: ·) = some tokens) :
    Mirrors (tailTokens tail) tokens (.other :: atoms) := by
  obtain ⟨rest, read, rfl⟩ := Option.map_eq_some_iff.1 done
  refine .other (by simp) ?_
  by_cases short : later.head? = some '?'
  · obtain ⟨after, rfl⟩ := List.head?_eq_some_iff.1 short
    cases size with
    | zero => cases scanned
    | succ size =>
        -- The scan takes the question mark for a repetition of its own.
        obtain ⟨others, scannedAfter, rfl⟩ := Option.map_eq_some_iff.1 scanned
        have closedAfter : plainClasses names tail size after = true := closed
        rw [ite_self]
        exact .idle (below size (by omega) _ _ _ _ _ scannedAfter closedAfter uniform read).1
  · have kept : dropShort (later ++ tail) = later ++ tail := by
      cases later with
      | nil => rcases isTail with rfl | rfl <;> rfl
      | cons c after =>
          have other : c ≠ '?' := fun same => short (by rw [same]; rfl)
          simp [dropShort, other]
    rw [kept] at read
    exact (below size (Nat.lt_succ_self size) _ _ _ _ _ scanned closed uniform read).1

/-- A word boundary. The scan takes a name between braces behind it for a repetition. -/
theorem MirrorsBelow.cons_boundary (below : MirrorsBelow names tail (size + 1))
    (isTail : IsTail tail)
    (scanned : scan isEscapable size later = some atoms)
    (closed : plainClasses names tail size later = true)
    (uniform : ∀ flags ∈ outer, flags = .initial false)
    (done : ((readBoundary (.initial false) (later ++ tail)).bind fun (primitive, rest) =>
      (tokenize names fuel (.initial false) outer rest).map
        (.item (primitive.piece (.initial false)) :: ·)) = some tokens) :
    Mirrors (tailTokens tail) tokens (.other :: atoms) ∧ Unrepeated tokens := by
  obtain ⟨⟨primitive, rest⟩, boundary, following⟩ := Option.bind_eq_some_iff.1 done
  rcases readBoundary_initial boundary with rfl | ⟨name, opened, letters⟩
  · exact below.cons_other scanned closed uniform (by simp) (by simp) following
  · cases later with
    | nil => rcases isTail with rfl | rfl <;> cases opened
    | cons c later =>
        obtain ⟨rfl, named⟩ := List.cons.inj opened
        have inside : Reads isInside (later ++ tail) ('\x7d' :: rest) := by
          refine ⟨name, named, fun c member => ?_⟩
          rw [isInside, bne_iff_ne]
          rintro rfl
          cases letters '\x7d' member
        cases size with
        | zero => cases scanned
        | succ size =>
            obtain ⟨others, scannedAfter, rfl⟩ := Option.map_eq_some_iff.1 scanned
            have closedAfter :
                plainClasses names tail size ((later.dropWhile (· != '\x7d')).drop 1) = true :=
              closed
            have same := drop_dropWhile_of_reads isTail.braceFree inside
            dsimp only at following
            rw [← same] at following
            obtain ⟨others', read, rfl⟩ := Option.map_eq_some_iff.1 following
            have mirrors :=
              (below size (by omega) _ _ _ _ _ scannedAfter closedAfter uniform read).1
            rw [ite_self]
            exact ⟨.other (by simp) (.idle mirrors), fun _ _ _ same => by cases same⟩

/-- An escape beside its atom. -/
theorem MirrorsBelow.escape (below : MirrorsBelow names tail (size + 1)) (isTail : IsTail tail)
    {rest : List Char} {atom : Atom}
    (read : readAtom isEscapable ('\\' :: rest) = some (atom, later))
    (scanned : scan isEscapable size later = some atoms)
    (closed : plainClasses names tail size later = true)
    (uniform : ∀ flags ∈ outer, flags = .initial false)
    (done : tokenize names (fuel + 1) (.initial false) outer ('\\' :: (rest ++ tail)) =
      some tokens) :
    Mirrors (tailTokens tail) tokens ((if repeats later then .other else atom) :: atoms) ∧
      Unrepeated tokens := by
  cases rest with
  | nil => cases read
  | cons next rest =>
      rw [tokenize_escape, List.cons_append] at done
      simp only [readAtom, Char.reduceBEq, Bool.false_eq_true, if_false, if_true] at read
      split at read
      · next mark =>
          obtain ⟨rfl, rfl⟩ := Prod.mk.inj (Option.some.inj read)
          cases escapable : isEscapable next with
          | true =>
              rw [readEscape_of_isEscapable escapable] at done
              exact below.cons_literal scanned closed uniform done
          | false =>
              simp only [Bool.false_eq_true, if_false, ite_self]
              rcases angle_of_not_isEscapable mark escapable with rfl | rfl
              · exact below.cons_other scanned closed uniform (by simp) (by simp) done
              · exact below.cons_other scanned closed uniform (by simp) (by simp) done
      · split at read
        · next simple =>
            obtain ⟨rfl, rfl⟩ := Prod.mk.inj (Option.some.inj read)
            rw [ite_self]
            by_cases boundary : next = 'b'
            · subst boundary
              exact below.cons_boundary isTail scanned closed uniform done
            · obtain ⟨primitive, found⟩ :=
                readEscape_of_isSimpleEscape simple boundary (rest ++ tail)
              rw [found] at done
              exact below.cons_other scanned closed uniform (by simp) (by simp) done
        · cases read

/-- A repetition beside its atom. -/
theorem MirrorsBelow.repetition (below : MirrorsBelow names tail (size + 1)) (isTail : IsTail tail)
    {c : Char} {rest : List Char} {atom : Atom} (repeated : repeats (c :: rest) = true)
    (read : readAtom isEscapable (c :: rest) = some (atom, later))
    (scanned : scan isEscapable size later = some atoms)
    (closed : plainClasses names tail size later = true)
    (uniform : ∀ flags ∈ outer, flags = .initial false)
    (done : tokenize names (fuel + 1) (.initial false) outer (c :: (rest ++ tail)) = some tokens) :
    Mirrors (tailTokens tail) tokens (.other :: atoms) := by
  simp only [repeats, Bool.or_eq_true, beq_iff_eq] at repeated
  rcases repeated with ((rfl | rfl) | rfl) | rfl
  · obtain ⟨-, rfl⟩ := Prod.mk.inj (Option.some.inj read)
    exact below.cons_times isTail scanned closed uniform done
  · obtain ⟨-, rfl⟩ := Prod.mk.inj (Option.some.inj read)
    exact below.cons_times isTail scanned closed uniform done
  · obtain ⟨-, rfl⟩ := Prod.mk.inj (Option.some.inj read)
    exact below.cons_times isTail scanned closed uniform done
  · obtain ⟨-, rfl⟩ := Prod.mk.inj (Option.some.inj read)
    rw [tokenize_times] at done
    obtain ⟨⟨least, most, after⟩, counted, following⟩ := Option.bind_eq_some_iff.1 done
    have same := drop_dropWhile_of_reads isTail.braceFree (reads_readTimes counted)
    dsimp only at following
    rw [← same] at following
    exact below.cons_times isTail scanned closed uniform following

/-- A character that is neither an escape, a bracket, a group nor a repetition. -/
theorem MirrorsBelow.character (below : MirrorsBelow names tail (size + 1)) {c : Char}
    {rest : List Char} {atom : Atom}
    (plain : c ≠ '\\' ∧ c ≠ '[' ∧ c ≠ '(' ∧ repeats (c :: rest) = false)
    (read : readAtom isEscapable (c :: rest) = some (atom, later))
    (scanned : scan isEscapable size later = some atoms)
    (closed : plainClasses names tail size later = true)
    (uniform : ∀ flags ∈ outer, flags = .initial false)
    (done : tokenize names (fuel + 1) (.initial false) outer (c :: (rest ++ tail)) = some tokens) :
    Mirrors (tailTokens tail) tokens ((if repeats later then .other else atom) :: atoms) ∧
      Unrepeated tokens := by
  obtain ⟨escape, bracket, group, single⟩ := plain
  simp only [repeats, Bool.or_eq_false_iff, beq_eq_false_iff_ne] at single
  obtain ⟨⟨⟨question, star⟩, plus⟩, brace⟩ := single
  simp only [readAtom, beq_iff_eq, escape, bracket, group, question, star, plus, brace,
    Bool.or_eq_true, or_self, if_false] at read
  split at read
  · cases read
  · next bar =>
      split at read
      · next special =>
          obtain ⟨rfl, rfl⟩ := Prod.mk.inj (Option.some.inj read)
          rw [ite_self]
          simp only [List.contains_eq_mem, List.mem_cons, List.not_mem_nil, or_false,
            decide_eq_true_eq] at special
          rcases special with rfl | rfl | rfl | rfl | rfl | rfl
          · exact below.cons_other scanned closed uniform (by simp) (by simp) done
          · cases outer with
            | nil => cases done
            | cons flags outer =>
                have ⟨inside, around⟩ := List.forall_mem_cons.1 uniform
                rw [inside] at done
                exact below.cons_other scanned closed around (by simp) (by simp) done
          · exact below.cons_other scanned closed uniform (by simp) (by simp) done
          · exact below.cons_other scanned closed uniform (by simp) (by simp) done
          · rw [tokenize_literal (by decide)] at done
            exact below.cons_other scanned closed uniform (by simp) (by simp) done
          · rw [tokenize_literal (by decide)] at done
            exact below.cons_other scanned closed uniform (by simp) (by simp) done
      · next special =>
          obtain ⟨rfl, rfl⟩ := Prod.mk.inj (Option.some.inj read)
          rw [tokenize_literal] at done
          · exact below.cons_literal scanned closed uniform done
          · simp only [List.contains_eq_mem, List.mem_cons, List.not_mem_nil, or_false,
              decide_eq_true_eq, not_or] at special
            simp [escape, bracket, group, question, star, plus, brace, bar, special]

/-- One atom beside what is read in its place. -/
theorem MirrorsBelow.atom (below : MirrorsBelow names tail (size + 1)) (isTail : IsTail tail)
    {c : Char} {rest : List Char} {atom : Atom}
    (read : readAtom isEscapable (c :: rest) = some (atom, later))
    (plain : c = '[' → plainClass names (rest ++ tail) = true)
    (scanned : scan isEscapable size later = some atoms)
    (closed : plainClasses names tail size later = true)
    (uniform : ∀ flags ∈ outer, flags = .initial false)
    (done : tokenize names (fuel + 1) (.initial false) outer (c :: (rest ++ tail)) = some tokens) :
    Mirrors (tailTokens tail) tokens ((if repeats later then .other else atom) :: atoms) ∧
      (repeats (c :: rest) = false → Unrepeated tokens) := by
  by_cases repeated : repeats (c :: rest) = true
  · refine ⟨?_, fun single => absurd repeated (Bool.eq_false_iff.1 single)⟩
    rw [readAtom_of_repeats repeated read, ite_self]
    exact below.repetition isTail repeated read scanned closed uniform done
  refine And.imp_right (fun unrepeated _ => unrepeated) ?_
  by_cases escape : c = '\\'
  · subst escape
    exact below.escape isTail read scanned closed uniform done
  by_cases bracket : c = '['
  · have plainHere := plain bracket
    subst bracket
    obtain ⟨after, skipped, same⟩ := Option.map_eq_some_iff.1 read
    obtain ⟨rfl, rfl⟩ := Prod.mk.inj same
    rw [tokenize_class] at done
    obtain ⟨⟨part, behind⟩, readHere, done⟩ := Option.bind_eq_some_iff.1 done
    have ends := (skipBracket_append tail skipped).symm.trans
      (skipBracket_of_readClass readHere plainHere)
    obtain rfl := Option.some.inj ends
    rw [ite_self]
    exact below.cons_other scanned closed uniform (by simp) (by simp) done
  by_cases group : c = '('
  · subst group
    have plain : rest.head? ≠ some '?' := by
      intro flagged
      simp [readAtom, flagged] at read
    have same : some (Atom.other, rest) = some (atom, later) := by
      simpa [readAtom, plain] using read
    obtain ⟨rfl, rfl⟩ := Prod.mk.inj (Option.some.inj same)
    rw [tokenize_group (isTail.head?_append_ne plain)] at done
    rw [ite_self]
    have uniformInside : ∀ flags ∈ Flags.initial false :: outer, flags = .initial false :=
      List.forall_mem_cons.2 ⟨rfl, uniform⟩
    exact below.cons_other scanned closed uniformInside (by simp) (by simp) done
  · have plain : c ≠ '\\' ∧ c ≠ '[' ∧ c ≠ '(' ∧ repeats (c :: rest) = false :=
      ⟨escape, bracket, group, Bool.eq_false_iff.2 repeated⟩
    exact below.character plain read scanned closed uniform done

end Step

/-- The scan of a source runs beside its tokens. -/
theorem mirrorsBelow {tail : List Char} (isTail : IsTail tail) (bound : Nat) :
    MirrorsBelow names tail bound := by
  induction bound with
  | zero => exact fun _ small => absurd small (Nat.not_lt_zero _)
  | succ bound ih =>
      intro size small fuel source outer tokens atoms scanned closed uniform done
      cases size with
      | zero => cases scanned
      | succ size =>
          have below : MirrorsBelow names tail (size + 1) :=
            fun smaller less => ih smaller (by omega)
          cases source with
          | nil =>
              obtain rfl := Option.some.inj scanned
              obtain rfl := isTail.tokens_eq done
              exact ⟨.done, fun _ => isTail.unrepeated⟩
          | cons c rest =>
              cases fuel with
              | zero => cases done
              | succ fuel =>
                  obtain ⟨⟨atom, later⟩, read, scanning⟩ := Option.bind_eq_some_iff.1 scanned
                  obtain ⟨others, scannedLater, rfl⟩ := Option.map_eq_some_iff.1 scanning
                  simp only [plainClasses, read, Bool.and_eq_true, Bool.or_eq_true, bne_iff_ne]
                    at closed
                  have plain : c = '[' → plainClass names (rest ++ tail) = true :=
                    fun bracket => closed.1.resolve_left (absurd bracket)
                  exact below.atom isTail read plain scannedLater closed.2 uniform done

end ElementSearch.LiteralEdges
