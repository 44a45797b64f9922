/-
# Reading queries

A reader for the part of XPath 1.0 that queries are written in: the descendants of one tag
or of any, with one pair of brackets around conditions that all have to hold. A condition
compares or searches what is read off the element, asks for a label, never holds, or is
one of several. Beside each reader stands the lemma that it takes exactly what the writer
wrote; only a name needs a character behind it that cannot stand in a name.
-/

import Mathlib.Tactic.ByContra
import ElementSearch.Proofs.XPath.StringReader

namespace ElementSearch.XPath

/-! ## Readings -/

/-- Whether a character may stand in a plain name. -/
def isNameChar (c : Char) : Bool := c.isAlphanum || c == '_' || c == '-'

/-- Whether a text is a plain name: ASCII letters, digits, underscores and hyphens, the first of
them a letter. -/
def isName (text : String) : Bool :=
  match text.toList with
  | [] => false
  | first :: rest => first.isAlpha && rest.all isNameChar

/-- A plain name. -/
def readName (input : List Char) : Option (String × List Char) :=
  let name := String.ofList (input.takeWhile isNameChar)
  if isName name then some (name, input.dropWhile isNameChar) else none

/-- What follows cannot be a part of a name. -/
def EndsName (rest : List Char) : Prop := rest.takeWhile isNameChar = []

theorem endsName_cons {c : Char} (ends : isNameChar c = false) (rest : List Char) :
    EndsName (c :: rest) :=
  List.takeWhile_cons_of_neg (by simp [ends])

theorem readName_append {name : String} (plain : isName name = true) {rest : List Char}
    (ends : EndsName rest) : readName (name.toList ++ rest) = some (name, rest) := by
  have all : ∀ c ∈ name.toList, isNameChar c = true := by
    unfold isName at plain
    split at plain
    · cases plain
    · next first others chars =>
        rw [Bool.and_eq_true, List.all_eq_true] at plain
        rw [chars]
        refine List.forall_mem_cons.2 ⟨?_, plain.2⟩
        simp [isNameChar, Char.isAlphanum, plain.1]
  have taken : (name.toList ++ rest).takeWhile isNameChar = name.toList := by
    rw [List.takeWhile_append_of_pos all, ends, List.append_nil]
  have dropped : (name.toList ++ rest).dropWhile isNameChar = rest := by
    rw [List.dropWhile_append_of_pos all]
    have whole := List.takeWhile_append_dropWhile (p := isNameChar) (l := rest)
    rwa [ends, List.nil_append] at whole
  rw [readName, taken, dropped, String.ofList_toList]
  exact if_pos plain

/-- An attribute. -/
def readAttribute (input : List Char) : Option (Reading × List Char) := do
  let rest ← expect "@" input
  let (name, rest) ← readName rest
  some (.attr name, rest)

theorem readAttribute_append {name : String} (plain : isName name = true) {rest : List Char}
    (ends : EndsName rest) :
    readAttribute ("@".toList ++ (name.toList ++ rest)) = some (.attr name, rest) := by
  simp only [readAttribute, expect_append, readName_append plain ends, bind, Option.bind_some]

/-- An attribute between two given texts. -/
def readAround (before after : String) (make : Reading → Reading) (input : List Char) :
    Option (Reading × List Char) := do
  let rest ← expect before input
  let (reading, rest) ← readAttribute rest
  let rest ← expect after rest
  some (make reading, rest)

/-- What is written behind a reading to have its ASCII letters in lower case. -/
def loweredEnd : String := ", '" ++ upperLetters ++ "', '" ++ lowerLetters ++ "')"

/-- A string read off the element. -/
def readReading (input : List Char) : Option (Reading × List Char) :=
  (expect "local-name()" input).map (.localName, ·) <|>
  (expect "normalize-space()" input).map (.text, ·) <|>
  readAround "normalize-space(" ")" .normalized input <|>
  readAround "translate(" loweredEnd .lowered input <|>
  readAround "concat(' ', " ", ' ')" .padded input <|>
  readAttribute input

/-- The readings that queries are written with: those of the name, the text, and attributes with
plain names. -/
inductive Reading.IsPlain : Reading → Prop
  | localName : IsPlain .localName
  | text : IsPlain .text
  | attr {name : String} (plain : isName name = true) : IsPlain (.attr name)
  | normalized {name : String} (plain : isName name = true) : IsPlain (.normalized (.attr name))
  | lowered {name : String} (plain : isName name = true) : IsPlain (.lowered (.attr name))
  | padded {name : String} (plain : isName name = true) : IsPlain (.padded (.attr name))

theorem readAround_append {name : String} (plain : isName name = true) (before after : String)
    (ends : ∀ rest, EndsName (after.toList ++ rest)) (make : Reading → Reading)
    (rest : List Char) :
    readAround before after make
      (before.toList ++ ("@".toList ++ (name.toList ++ (after.toList ++ rest)))) =
        some (make (.attr name), rest) := by
  simp only [readAround, expect_append, readAttribute_append plain (ends rest), bind,
    Option.bind_some]

/-- A reading is read back where no name goes on behind it. -/
theorem readReading_render {reading : Reading} (plain : reading.IsPlain) {rest : List Char}
    (ends : EndsName rest) :
    readReading (reading.render.toList ++ rest) = some (reading, rest) := by
  cases plain with
  | localName => rfl
  | text => rfl
  | @attr name plain =>
      have read := readAttribute_append plain ends
      have shape : (Reading.attr name).render.toList ++ rest =
          "@".toList ++ (name.toList ++ rest) := by
        simp
      rw [shape, readReading, read]
      rfl
  | @normalized name plain =>
      have read := readAround_append plain "normalize-space(" ")" (fun _ => rfl) .normalized rest
      have shape : (Reading.normalized (.attr name)).render.toList ++ rest =
          "normalize-space(".toList ++ ("@".toList ++ (name.toList ++ (")".toList ++ rest))) := by
        simp
      rw [shape, readReading, read]
      rfl
  | @lowered name plain =>
      have read := readAround_append plain "translate(" loweredEnd (fun _ => rfl) .lowered rest
      have shape : (Reading.lowered (.attr name)).render.toList ++ rest =
          "translate(".toList ++ ("@".toList ++ (name.toList ++ (loweredEnd.toList ++ rest))) := by
        simp [loweredEnd]
      rw [shape, readReading, read]
      rfl
  | @padded name plain =>
      have read := readAround_append plain "concat(' ', " ", ' ')" (fun _ => rfl) .padded rest
      have shape : (Reading.padded (.attr name)).render.toList ++ rest =
          "concat(' ', ".toList ++ ("@".toList ++ (name.toList ++ (", ' ')".toList ++ rest))) := by
        simp
      rw [shape, readReading, read]
      rfl

/-! ## Conditions -/

/-- What is written around the two mentions of a label. -/
def labelStart : String := "(@id = //label[normalize-space() = "

/-- What is written between the two mentions of a label. -/
def labelMiddle : String := "]/@for or parent::label[normalize-space() = "

/-- The condition that a label has a text: that text stands in it twice. -/
def readLabelled (input : List Char) : Option (Condition × List Char) := do
  let rest ← expect labelStart input
  let (text, rest) ← readString rest
  let rest ← expect labelMiddle rest
  let (again, rest) ← readString rest
  let rest ← expect "])" rest
  if text == again then some (.labelled text, rest) else none

/-- The condition that a reading contains a text. -/
def readIncludes (input : List Char) : Option (Condition × List Char) := do
  let rest ← expect "contains(" input
  let (reading, rest) ← readReading rest
  let rest ← expect ", " rest
  let (text, rest) ← readString rest
  let rest ← expect ")" rest
  some (.includes reading text, rest)

/-- The condition that a reading is a text. -/
def readEquals (input : List Char) : Option (Condition × List Char) := do
  let (reading, rest) ← readReading input
  let rest ← expect " = " rest
  let (text, rest) ← readString rest
  some (.equals reading text, rest)

/-- A condition that is not one of several. -/
def readSimple (input : List Char) : Option (Condition × List Char) :=
  (expect "false()" input).map (.never, ·) <|> readIncludes input <|> readLabelled input <|>
    readEquals input

/-- One of several conditions, between parentheses. -/
def readAnyOf (input : List Char) : Option (Condition × List Char) := do
  let rest ← expect "(" input
  let (first, rest) ← readSimple rest
  let (others, rest) ← readMany ")" " or " readSimple rest
  some (.anyOf first others, rest)

/-- One of the conditions of a query. -/
def readCondition (input : List Char) : Option (Condition × List Char) :=
  readSimple input <|> readAnyOf input

/-- The tag of a query, or a star for any. -/
def readTag (input : List Char) : Option (Option String × List Char) :=
  match expect "*" input with
  | some rest => some (none, rest)
  | none => (readName input).map fun (name, rest) => (some name, rest)

/-- Conditions that all have to hold, in one pair of brackets. -/
def readBracket (input : List Char) : Option (List Condition × List Char) := do
  let rest ← expect "[" input
  let (first, rest) ← readCondition rest
  let (others, rest) ← readMany "]" " and " readCondition rest
  some (first :: others, rest)

/-- A whole query: its tag and, if there are any, its conditions. -/
def readPath (text : String) : Option Path := do
  let rest ← expect ".//" text.toList
  let (tag, rest) ← readTag rest
  if rest.isEmpty then some ⟨tag, []⟩
  else do
    let (conditions, rest) ← readBracket rest
    if rest.isEmpty then some ⟨tag, conditions⟩ else none

/-- The conditions that a query has where its names are plain. -/
inductive Condition.IsSimple : Condition → Prop
  | equals {reading : Reading} (plain : reading.IsPlain) (text : String) :
      IsSimple (.equals reading text)
  | includes {reading : Reading} (plain : reading.IsPlain) (text : String) :
      IsSimple (.includes reading text)
  | labelled (text : String) : IsSimple (.labelled text)
  | never : IsSimple .never

theorem readIncludes_render {reading : Reading} (plain : reading.IsPlain) (text : String)
    (rest : List Char) :
    readIncludes ((Condition.includes reading text).render.toList ++ rest) =
      some (.includes reading text, rest) := by
  have shape : (Condition.includes reading text).render.toList ++ rest =
      "contains(".toList ++ (reading.render.toList ++ (", ".toList ++
        ((quote text).toList ++ (")".toList ++ rest)))) := by
    simp
  have ends (rest : List Char) : EndsName (", ".toList ++ rest) :=
    endsName_cons (by decide) (' ' :: rest)
  simp only [shape, readIncludes, expect_append, readReading_render plain (ends _),
    readString_quote, bind, Option.bind_some]

theorem readLabelled_render (text : String) (rest : List Char) :
    readLabelled ((Condition.labelled text).render.toList ++ rest) =
      some (.labelled text, rest) := by
  have shape : (Condition.labelled text).render.toList ++ rest =
      labelStart.toList ++ ((quote text).toList ++ (labelMiddle.toList ++
        ((quote text).toList ++ ("])".toList ++ rest)))) := by
    simp [labelStart, labelMiddle]
  simp only [shape, readLabelled, expect_append, readString_quote, bind, Option.bind_some,
    beq_self_eq_true, if_true]

theorem readEquals_render {reading : Reading} (plain : reading.IsPlain) (text : String)
    (rest : List Char) :
    readEquals ((Condition.equals reading text).render.toList ++ rest) =
      some (.equals reading text, rest) := by
  have shape : (Condition.equals reading text).render.toList ++ rest =
      reading.render.toList ++ (" = ".toList ++ ((quote text).toList ++ rest)) := by
    simp
  have ends (rest : List Char) : EndsName (" = ".toList ++ rest) :=
    endsName_cons (by decide) ('=' :: ' ' :: rest)
  simp only [shape, readEquals, expect_append, readReading_render plain (ends _),
    readString_quote, bind, Option.bind_some]

/-- No reading begins like a condition of another form. -/
theorem expect_render_eq_none {given : String}
    (other : given ∈ ["false()", "contains(", labelStart]) {reading : Reading}
    (plain : reading.IsPlain) (rest : List Char) :
    expect given (reading.render.toList ++ rest) = none := by
  simp only [List.mem_cons, List.not_mem_nil, or_false] at other
  rcases other with rfl | rfl | rfl
  · cases plain <;> simp [expect, List.isPrefixOf?]
  · cases plain <;> simp [expect, List.isPrefixOf?]
  · cases plain <;> simp [expect, List.isPrefixOf?, labelStart]

/-- A condition that is not one of several is read back, whatever follows it. -/
theorem readSimple_render {condition : Condition} (simple : condition.IsSimple)
    (rest : List Char) :
    readSimple (condition.render.toList ++ rest) = some (condition, rest) := by
  cases simple with
  | never => rfl
  | @includes reading plain text =>
      have never : expect "false()" ((Condition.includes reading text).render.toList ++ rest) =
          none := by
        simp [expect, List.isPrefixOf?]
      rw [readSimple, never, readIncludes_render plain]
      rfl
  | labelled text =>
      have never : expect "false()" ((Condition.labelled text).render.toList ++ rest) = none := by
        simp [expect, List.isPrefixOf?]
      have includes : readIncludes ((Condition.labelled text).render.toList ++ rest) = none := by
        simp [readIncludes, expect, List.isPrefixOf?]
      rw [readSimple, never, includes, readLabelled_render]
      rfl
  | @equals reading plain text =>
      have shape : (Condition.equals reading text).render.toList ++ rest =
          reading.render.toList ++ (" = ".toList ++ ((quote text).toList ++ rest)) := by
        simp
      have otherwise (given : String) (other : given ∈ ["false()", "contains(", labelStart]) :=
        expect_render_eq_none other plain (" = ".toList ++ ((quote text).toList ++ rest))
      have never := otherwise "false()" (by simp)
      have includes := otherwise "contains(" (by simp)
      have labelled := otherwise labelStart (by simp)
      rw [readSimple, readEquals_render plain, shape, never, readIncludes, includes, readLabelled,
        labelled]
      rfl

/-- An attribute that is compared with a text does not begin like a label, even if it is the
identifier: a string does not begin with a slash. -/
theorem expect_labelStart_attr {name : String} (plain : isName name = true) (text : String)
    (rest : List Char) :
    expect labelStart ("(".toList ++ ((Condition.equals (.attr name) text).render.toList ++ rest)) =
      none := by
  by_contra found
  obtain ⟨input, begun⟩ := Option.ne_none_iff_exists'.1 found
  have compared : "(".toList ++ ((Condition.equals (.attr name) text).render.toList ++ rest) =
      "(@".toList ++ (name.toList ++ (" = ".toList ++ ((quote text).toList ++ rest))) := by
    simp
  have label : labelStart.toList ++ input =
      "(@".toList ++ ("id".toList ++ (" = ".toList ++
        ("//label[normalize-space() = ".toList ++ input))) := rfl
  have ends (rest : List Char) : EndsName (" = ".toList ++ rest) :=
    endsName_cons (by decide) ('=' :: ' ' :: rest)
  have names := List.append_cancel_left
    (compared.symm.trans ((eq_append_of_expect begun).trans label))
  have tails := congrArg readName names
  rw [readName_append plain (ends _), readName_append (by decide) (ends _)] at tails
  have strings := List.append_cancel_left (Prod.mk.inj (Option.some.inj tails)).2
  have read := congrArg readString strings
  rw [readString_quote] at read
  cases read

theorem expect_labelStart_parenthesized {condition : Condition} (simple : condition.IsSimple)
    (rest : List Char) :
    expect labelStart ("(".toList ++ (condition.render.toList ++ rest)) = none := by
  cases simple with
  | never => simp [expect, List.isPrefixOf?, labelStart]
  | includes plain text => simp [expect, List.isPrefixOf?, labelStart]
  | labelled text => simp [expect, List.isPrefixOf?, labelStart]
  | equals plain text =>
      cases plain with
      | attr plain => exact expect_labelStart_attr plain text rest
      | _ => simp [expect, List.isPrefixOf?, labelStart]

/-- What begins with a parenthesis and is no label is one of several conditions. -/
theorem readSimple_parenthesized {condition : Condition} (simple : condition.IsSimple)
    (rest : List Char) :
    readSimple ("(".toList ++ (condition.render.toList ++ rest)) = none := by
  have noLabel : readLabelled ("(".toList ++ (condition.render.toList ++ rest)) = none := by
    rw [readLabelled, expect_labelStart_parenthesized simple]
    rfl
  have noReading : readEquals ("(".toList ++ (condition.render.toList ++ rest)) = none := rfl
  rw [readSimple, noLabel, noReading]
  rfl

/-- The conditions that a query has where its names are plain. -/
inductive Condition.IsPlain : Condition → Prop
  | simple {condition : Condition} (simple : condition.IsSimple) : IsPlain condition
  | anyOf {first : Condition} {others : List Condition} (first_ : first.IsSimple)
      (others_ : ∀ condition ∈ others, condition.IsSimple) : IsPlain (.anyOf first others)

theorem toList_renderOthers (others : List Condition) :
    (renderOthers others).toList =
      others.flatMap fun condition => " or ".toList ++ condition.render.toList := by
  induction others with
  | nil => rfl
  | cons condition others ih => simp [ih]

/-- A condition is read back, whatever follows it. -/
theorem readCondition_render {condition : Condition} (plain : condition.IsPlain)
    (rest : List Char) :
    readCondition (condition.render.toList ++ rest) = some (condition, rest) := by
  cases plain with
  | simple simple =>
      rw [readCondition, readSimple_render simple]
      rfl
  | @anyOf first others firstSimple othersSimple =>
      have shape : (Condition.anyOf first others).render.toList ++ rest =
          "(".toList ++ (first.render.toList ++ ((others.flatMap fun condition =>
            " or ".toList ++ condition.render.toList) ++ (")".toList ++ rest))) := by
        simp [toList_renderOthers]
      have reads : ∀ condition ∈ others, ∀ rest,
          readSimple (condition.render.toList ++ rest) = some (condition, rest) :=
        fun condition member => readSimple_render (othersSimple condition member)
      have further : readMany ")" " or " readSimple ((others.flatMap fun condition =>
          " or ".toList ++ condition.render.toList) ++ (")".toList ++ rest)) =
            some (others, rest) :=
        readMany_append (fun _ => rfl) (by decide) reads rest
      rw [shape, readCondition, readSimple_parenthesized firstSimple]
      simp only [readAnyOf, expect_append, readSimple_render firstSimple, further, bind,
        Option.bind_some]
      rfl

/-! ## Queries -/

/-- A query whose names are plain. -/
structure Path.IsPlain (path : Path) : Prop where
  tag : ∀ name ∈ path.tag, isName name = true
  conditions : ∀ condition ∈ path.conditions, condition.IsPlain

theorem toList_intercalate_cons (separator first : String) (others : List String) :
    (separator.intercalate (first :: others)).toList =
      first.toList ++ others.flatMap fun text => separator.toList ++ text.toList := by
  induction others generalizing first with
  | nil => simp
  | cons next others ih => simp [String.intercalate_cons_cons, ih]

/-- The tag of a query is read back, where no name goes on behind it. -/
theorem readTag_render {tag : Option String} (plain : ∀ name ∈ tag, isName name = true)
    {rest : List Char} (ends : EndsName rest) :
    readTag ((tag.getD "*").toList ++ rest) = some (tag, rest) := by
  cases tag with
  | none => rfl
  | some name =>
      have named := plain name rfl
      have noStar : expect "*" (name.toList ++ rest) = none := by
        by_contra found
        obtain ⟨input, begun⟩ := Option.ne_none_iff_exists'.1 found
        have read := congrArg readName (eq_append_of_expect begun)
        rw [readName_append named ends] at read
        cases read
      rw [readTag, Option.getD_some, noStar, readName_append named ends]
      rfl

/-- Conditions in brackets are read back, whatever follows them. -/
theorem readBracket_append {first : Condition} {others : List Condition}
    (plain : ∀ condition ∈ first :: others, condition.IsPlain) (rest : List Char) :
    readBracket ("[".toList ++ (first.render.toList ++ ((others.flatMap fun condition =>
      " and ".toList ++ condition.render.toList) ++ ("]".toList ++ rest)))) =
        some (first :: others, rest) := by
  have ⟨firstPlain, othersPlain⟩ := List.forall_mem_cons.1 plain
  have reads : ∀ condition ∈ others, ∀ rest,
      readCondition (condition.render.toList ++ rest) = some (condition, rest) :=
    fun condition member => readCondition_render (othersPlain condition member)
  have further : readMany "]" " and " readCondition ((others.flatMap fun condition =>
      " and ".toList ++ condition.render.toList) ++ ("]".toList ++ rest)) = some (others, rest) :=
    readMany_append (fun _ => rfl) (by decide) reads rest
  simp only [readBracket, expect_append, readCondition_render firstPlain, further, bind,
    Option.bind_some]

/-- A query is read back. -/
theorem readPath_render {path : Path} (plain : path.IsPlain) :
    readPath path.render = some path := by
  obtain ⟨tag, conditions⟩ := path
  cases conditions with
  | nil =>
      have shape : (Path.render ⟨tag, []⟩).toList = ".//".toList ++ ((tag.getD "*").toList ++ []) := by
        simp [Path.render]
      simp only [readPath, shape, expect_append, readTag_render plain.tag (rfl : EndsName []), bind,
        Option.bind_some]
      rfl
  | cons first others =>
      have shape : (Path.render ⟨tag, first :: others⟩).toList =
          ".//".toList ++ ((tag.getD "*").toList ++ ("[".toList ++ (first.render.toList ++
            ((others.flatMap fun condition => " and ".toList ++ condition.render.toList) ++
              ("]".toList ++ []))))) := by
        simp only [Path.render, List.map_cons, String.toList_append, toList_intercalate_cons,
          List.flatMap_map, List.append_assoc, List.append_nil]
      have ends (rest : List Char) : EndsName ("[".toList ++ rest) := endsName_cons (by decide) rest
      simp only [readPath, shape, expect_append, readTag_render plain.tag (ends _),
        readBracket_append plain.conditions [], bind, Option.bind_some]
      rfl

end ElementSearch.XPath
