/-
# Written values read back

What the writer wrote is read back as it was, if its numbers are integers that the reader takes
and it is not nested too deeply. The reader needs no look ahead: a written value begins with no
blank, and with no closing bracket by which it could be taken for the end of an array.
-/

import ElementSearch.Proofs.Json.Scalars

namespace ElementSearch.Json

/-- Values that the reader takes where only so many arrays and objects may open inside one another:
none is a number that is not written as an integer, or is too large. -/
inductive Readable : Nat → Json → Prop
  | null (room : Nat) : Readable room .null
  | bool (room : Nat) (value : Bool) : Readable room (.bool value)
  | int (room : Nat) {value : Int} (fits : fitsDouble value.natAbs 0 = true) :
      Readable room (.int value)
  | str (room : Nat) (text : String) : Readable room (.str text)
  | arr {room : Nat} {items : List Json} (each : ∀ item ∈ items, Readable room item) :
      Readable (room + 1) (.arr items)
  | obj {room : Nat} {members : List (String × Json)}
      (each : ∀ member ∈ members, Readable room member.2) : Readable (room + 1) (.obj members)

/-! ## How a value begins -/

/-- Neither a blank nor the end of an array. -/
def Opens (first : Char) : Prop := isSpace first = false ∧ first ≠ ']'

instance (first : Char) : Decidable (Opens first) := inferInstanceAs (Decidable (_ ∧ _))

theorem opens_of_isDigit {c : Char} (digit : c.isDigit = true) : Opens c := by
  constructor
  · cases blank : isSpace c with
    | false => rfl
    | true =>
        simp only [isSpace, Bool.or_eq_true, beq_iff_eq] at blank
        rcases blank with ((rfl | rfl) | rfl) | rfl <;> exact absurd digit (by decide)
  · rintro rfl
    exact absurd digit (by decide)

theorem exists_write_int_eq_cons (n : Int) :
    ∃ first later, (int n).write = first :: later ∧ (first = '-' ∨ first.isDigit = true) := by
  obtain ⟨first, later, digits, isDigit⟩ := exists_toDigits_eq_cons n.natAbs
  rw [write_int, digits]
  split
  · exact ⟨_, _, rfl, .inl rfl⟩
  · exact ⟨_, _, rfl, .inr isDigit⟩

theorem Readable.exists_write_eq_cons {room : Nat} {value : Json} (readable : Readable room value) :
    ∃ first later, value.write = first :: later ∧ Opens first := by
  cases readable with
  | null => exact ⟨_, _, rfl, by decide⟩
  | bool _ value => cases value <;> exact ⟨_, _, rfl, by decide⟩
  | @int _ value _ =>
      obtain ⟨first, later, written, rfl | isDigit⟩ := exists_write_int_eq_cons value
      · exact ⟨_, _, written, by decide⟩
      · exact ⟨_, _, written, opens_of_isDigit isDigit⟩
  | str => exact ⟨_, _, rfl, by decide⟩
  | arr each => exact ⟨_, _, rfl, by decide⟩
  | obj each => exact ⟨_, _, rfl, by decide⟩

theorem skipSpace_cons {first : Char} (visible : isSpace first = false) (later : List Char) :
    skipSpace (first :: later) = first :: later :=
  List.dropWhile_cons_of_neg (by rw [visible]; exact Bool.false_ne_true)

theorem Readable.skipSpace_write {room : Nat} {value : Json} (readable : Readable room value)
    (rest : List Char) : skipSpace (value.write ++ rest) = value.write ++ rest := by
  obtain ⟨first, later, written, visible, _⟩ := readable.exists_write_eq_cons
  rw [written, List.cons_append, skipSpace_cons visible]

theorem separated_writeItems (item second : Json) (items : List Json) :
    separated (writeItems (item :: second :: items)) =
      item.write ++ ',' :: separated (writeItems (second :: items)) := rfl

theorem separated_writeMembers (member second : String × Json) (members : List (String × Json)) :
    separated (writeMembers (member :: second :: members)) =
      (writeString member.1 ++ ':' :: member.2.write) ++
        ',' :: separated (writeMembers (second :: members)) := rfl

theorem Readable.exists_writeItems_eq_cons {room : Nat} {item : Json}
    (readable : Readable room item) (items : List Json) :
    ∃ first later, separated (writeItems (item :: items)) = first :: later ∧ Opens first := by
  obtain ⟨first, later, written, opens⟩ := readable.exists_write_eq_cons
  cases items with
  | nil => exact ⟨first, later, written, opens⟩
  | cons second items =>
      rw [separated_writeItems, written]
      exact ⟨first, _, rfl, opens⟩

theorem Readable.skipSpace_writeItems {room : Nat} {item : Json} (readable : Readable room item)
    (items : List Json) (rest : List Char) :
    skipSpace (separated (writeItems (item :: items)) ++ rest) =
      separated (writeItems (item :: items)) ++ rest := by
  obtain ⟨first, later, written, visible, _⟩ := readable.exists_writeItems_eq_cons items
  rw [written, List.cons_append, skipSpace_cons visible]

theorem skipSpace_writeMembers (member : String × Json) (members : List (String × Json))
    (rest : List Char) :
    skipSpace (separated (writeMembers (member :: members)) ++ rest) =
      separated (writeMembers (member :: members)) ++ rest := by
  cases members with
  | nil => exact skipSpace_cons (by decide) _
  | cons second members => exact skipSpace_cons (by decide) _

/-! ## Reading -/

/-- A value is read off the front of every text that it begins, by enough fuel. -/
def ReadsBack (room : Nat) (value : Json) : Prop :=
  ∀ ⦃fuel : Nat⦄ ⦃rest : List Char⦄, 2 * value.write.length ≤ fuel → Follows rest →
    readValue fuel room (value.write ++ rest) = some (value, rest)

theorem readsBack_int (room : Nat) {n : Int} (fits : fitsDouble n.natAbs 0 = true) :
    ReadsBack room (.int n) := by
  intro fuel rest enough follows
  obtain ⟨first, later, written, sign⟩ := exists_write_int_eq_cons n
  cases fuel with
  | zero =>
      rw [written] at enough
      cases enough
  | succ fuel =>
      rw [readValue]
      · exact readNumber_write_int fits follows
      -- No other value begins with a sign or a digit.
      all_goals
        intro behind begins
        rw [written] at begins
        obtain rfl := (List.cons.inj begins).1
        exact absurd sign (by decide)

theorem readsBack_str (room : Nat) (text : String) : ReadsBack room (.str text) := by
  intro fuel rest enough _
  obtain ⟨behind, written, read⟩ := exists_writeString_append text rest
  cases fuel with
  | zero => cases enough
  | succ fuel =>
      rw [write, written]
      simp only [readValue, read, Option.map_some]

section Steps

variable {fuel room : Nat} {text rest : List Char} {value : Json}

theorem readItems_of_comma (read : readValue fuel room text = some (value, ',' :: rest)) :
    readItems (fuel + 1) room text =
      (readItems fuel room (skipSpace rest)).map fun (items, rest) => (value :: items, rest) := by
  rw [readItems, read]
  rfl

theorem readItems_of_bracket (read : readValue fuel room text = some (value, ']' :: rest)) :
    readItems (fuel + 1) room text = some ([value], rest) := by
  rw [readItems, read]
  rfl

theorem readMembers_of_comma (name : String) (visible : skipSpace text = text)
    (read : readValue fuel room text = some (value, ',' :: rest)) :
    readMembers (fuel + 1) room (writeString name ++ ':' :: text) =
      (readMembers fuel room (skipSpace rest)).map fun (members, rest) =>
        ((name, value) :: members, rest) := by
  obtain ⟨behind, written, named⟩ := exists_writeString_append name (':' :: text)
  have colon : skipSpace (':' :: text) = ':' :: text := skipSpace_cons (by decide) text
  simp only [written, readMembers, named, Option.bind_some, colon, visible, read]
  rfl

theorem readMembers_of_brace (name : String) (visible : skipSpace text = text)
    (read : readValue fuel room text = some (value, '\x7d' :: rest)) :
    readMembers (fuel + 1) room (writeString name ++ ':' :: text) =
      some ([(name, value)], rest) := by
  obtain ⟨behind, written, named⟩ := exists_writeString_append name (':' :: text)
  have colon : skipSpace (':' :: text) = ':' :: text := skipSpace_cons (by decide) text
  simp only [written, readMembers, named, Option.bind_some, colon, visible, read]
  rfl

end Steps

/-- Items are read up to the closing bracket. -/
theorem readItems_separated {room : Nat} {item : Json} {items : List Json}
    (readable : ∀ value ∈ item :: items, Readable room value)
    (each : ∀ value ∈ item :: items, ReadsBack room value) {fuel : Nat}
    (enough : 2 * (separated (writeItems (item :: items))).length < fuel) (rest : List Char) :
    readItems fuel room (separated (writeItems (item :: items)) ++ ']' :: rest) =
      some (item :: items, rest) := by
  induction items generalizing item fuel with
  | nil =>
      cases fuel with
      | zero => cases enough
      | succ fuel =>
          have here := each item List.mem_cons_self
          exact readItems_of_bracket (here (Nat.le_of_lt_succ enough) (.bracket rest))
  | cons second items ih =>
      cases fuel with
      | zero => cases enough
      | succ fuel =>
          have here := each item List.mem_cons_self
          have visible := (readable second (by simp)).skipSpace_writeItems items (']' :: rest)
          rw [separated_writeItems, List.length_append, List.length_cons] at enough
          have short : 2 * (separated (writeItems (second :: items))).length < fuel := by omega
          have later := ih (fun value member => readable value (.tail _ member))
            (fun value member => each value (.tail _ member)) short
          rw [separated_writeItems, List.append_assoc, List.cons_append,
            readItems_of_comma (here (by omega) (.comma _)), visible, later]
          rfl

/-- Members are read up to the closing brace. -/
theorem readMembers_separated {room : Nat} {member : String × Json}
    {members : List (String × Json)}
    (readable : ∀ other ∈ member :: members, Readable room other.2)
    (each : ∀ other ∈ member :: members, ReadsBack room other.2) {fuel : Nat}
    (enough : 2 * (separated (writeMembers (member :: members))).length < fuel)
    (rest : List Char) :
    readMembers fuel room (separated (writeMembers (member :: members)) ++ '\x7d' :: rest) =
      some (member :: members, rest) := by
  induction members generalizing member fuel with
  | nil =>
      cases fuel with
      | zero => cases enough
      | succ fuel =>
          have here := each member List.mem_cons_self
          have visible := (readable member List.mem_cons_self).skipSpace_write ('\x7d' :: rest)
          have written : separated (writeMembers [member]) =
              writeString member.1 ++ ':' :: member.2.write := rfl
          rw [written, List.length_append, List.length_cons] at enough
          rw [written, List.append_assoc, List.cons_append]
          exact readMembers_of_brace member.1 visible (here (by omega) (.brace rest))
  | cons second members ih =>
      cases fuel with
      | zero => cases enough
      | succ fuel =>
          have here := each member List.mem_cons_self
          rw [separated_writeMembers, List.length_append, List.length_append, List.length_cons,
            List.length_cons] at enough
          have short : 2 * (separated (writeMembers (second :: members))).length < fuel := by omega
          have later := ih (fun other listed => readable other (.tail _ listed))
            (fun other listed => each other (.tail _ listed)) short
          have visible := (readable member List.mem_cons_self).skipSpace_write
            (',' :: (separated (writeMembers (second :: members)) ++ '\x7d' :: rest))
          rw [separated_writeMembers, List.append_assoc, List.append_assoc, List.cons_append,
            List.cons_append, readMembers_of_comma member.1 visible (here (by omega) (.comma _)),
            skipSpace_writeMembers, later]
          rfl

theorem readsBack_arr {room : Nat} {items : List Json}
    (readable : ∀ value ∈ items, Readable room value)
    (each : ∀ value ∈ items, ReadsBack room value) : ReadsBack (room + 1) (.arr items) := by
  intro fuel rest enough _
  cases fuel with
  | zero => cases enough
  | succ fuel =>
      cases items with
      | nil => rfl
      | cons item items =>
          have opening := readable item List.mem_cons_self
          obtain ⟨first, later, written, _, noEnd⟩ := opening.exists_writeItems_eq_cons items
          rw [write, List.length_cons, List.length_append] at enough
          rw [write, List.cons_append, List.append_assoc, List.singleton_append]
          simp only [readValue, opening.skipSpace_writeItems]
          split
          · next ends =>
              rw [written] at ends
              exact absurd (List.cons.inj ends).1 noEnd
          · rw [readItems_separated readable each (by omega)]
            rfl

theorem readsBack_obj {room : Nat} {members : List (String × Json)}
    (readable : ∀ member ∈ members, Readable room member.2)
    (each : ∀ member ∈ members, ReadsBack room member.2) :
    ReadsBack (room + 1) (.obj members) := by
  intro fuel rest enough _
  cases fuel with
  | zero => cases enough
  | succ fuel =>
      cases members with
      | nil => rfl
      | cons member members =>
          rw [write, List.length_cons, List.length_append] at enough
          rw [write, List.cons_append, List.append_assoc, List.singleton_append]
          simp only [readValue, skipSpace_writeMembers]
          split
          · next ends =>
              cases members <;> cases ends
          · rw [readMembers_separated readable each (by omega)]
            rfl

/-- Every readable value is read back. -/
theorem Readable.readsBack {room : Nat} {value : Json} (readable : Readable room value) :
    ReadsBack room value := by
  induction readable with
  | null room =>
      intro fuel rest enough _
      cases fuel with
      | zero => cases enough
      | succ fuel => rfl
  | bool room value =>
      intro fuel rest enough _
      cases fuel with
      | zero => cases value <;> cases enough
      | succ fuel => cases value <;> rfl
  | int room fits => exact readsBack_int room fits
  | str room text => exact readsBack_str room text
  | arr readable each => exact readsBack_arr readable each
  | obj readable each => exact readsBack_obj readable each

/-- Parsing takes back what rendering made of a value. -/
theorem parse_render_of_readable {value : Json} (readable : Readable nestingLimit value) :
    parse value.render = some value := by
  have enough : 2 * value.write.length ≤ 2 * value.write.length + 2 := Nat.le_add_right _ 2
  have visible := readable.skipSpace_write []
  have read := readable.readsBack enough .nothing
  rw [List.append_nil] at visible read
  rw [parse, render, String.toList_ofList, visible]
  simp only [read, Option.bind_some]
  rfl

end ElementSearch.Json
