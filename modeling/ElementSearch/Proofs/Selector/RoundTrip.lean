/-
# Selectors come back from JSON

A selector that is written and read again is the same selector, with its names in their order and
each value of its own kind. The kinds are told apart by the shape they are written in: a pattern is
always written as an object, so the array that stands for several texts cannot be taken for the
other way to give a pattern. Nor does it matter which sources compile: a pattern is written with the
source that it was compiled from.
-/

import ElementSearch.Proofs.Json.ReadBack
import ElementSearch.Proofs.Selector.Normalize
import ElementSearch.Selector.Json

namespace ElementSearch

namespace Value

theorem position?_toInt (position : Int64) : position? position.toInt = some position := by
  rw [position?, if_pos ⟨position.minValue_le_toInt, position.toInt_le⟩, Int64.ofInt_toInt]

theorem texts?_map_str (texts : List String) : texts? (texts.map .str) = some texts := by
  induction texts with
  | nil => rfl
  | cons text texts ih => rw [List.map_cons, texts?, ih, Option.map_some]

/-- A position has at most nineteen digits. -/
theorem fitsDouble_natAbs_toInt (position : Int64) :
    Json.fitsDouble position.toInt.natAbs 0 = true := by
  have below := position.le_toInt
  have above := position.toInt_lt
  have short : (Nat.toDigits 10 position.toInt.natAbs).length ≤ 19 :=
    (Nat.length_toDigits_le_iff (by decide) (by decide)).2 (by omega)
  exact Json.fitsDouble_of_length_lt (by omega)

end Value

section Compiler

variable [Compiler]

namespace Value

/-- Each kind of value is recognized by the shape it is written in. -/
theorem ofJson?_toJson (value : Value) : ofJson? value.toJson = some value := by
  cases value with
  | index position => rw [toJson, ofJson?, position?_toInt, Option.map_some]
  | literal text => rfl
  | oneOf texts => simp only [toJson, ofJson?, texts?_map_str]
  | pattern asked =>
      have read : patternOfMembers? [("pattern", .str asked.source),
          ("case_insensitive", .bool asked.ignoreCase)] =
            Pattern.ofSource? asked.source asked.ignoreCase := rfl
      rw [toJson, ofJson?, read, asked.ofSource?_source, Option.map_some]

/-- A value is written as a scalar, or as scalars in one array or object. -/
theorem readable_toJson (room : Nat) (value : Value) : value.toJson.Readable (room + 1) := by
  cases value with
  | index position => exact .int _ (fitsDouble_natAbs_toInt position)
  | literal text => exact .str _ text
  | oneOf texts =>
      refine .arr fun item member => ?_
      obtain ⟨text, _, rfl⟩ := List.mem_map.1 member
      exact .str room text
  | pattern asked =>
      refine .obj fun member listed => ?_
      rw [List.mem_cons, List.mem_singleton] at listed
      rcases listed with rfl | rfl
      · exact .str room asked.source
      · exact .bool room asked.ignoreCase

end Value

namespace Selector

theorem pairs?_map_toJson (entries : List (String × Value)) :
    pairs? (entries.map fun (name, value) => (name, value.toJson)) = some entries := by
  induction entries with
  | nil => rfl
  | cons entry entries ih =>
      obtain ⟨name, value⟩ := entry
      simp only [List.map_cons, pairs?, value.ofJson?_toJson, ih, Option.bind_eq_bind,
        Option.bind_some]

/-- A selector is denoted by the object it is written as. -/
theorem ofJson?_toJson (selector : Selector) : ofJson? selector.toJson = some selector := by
  rw [toJson, ofJson?, pairs?_map_toJson, Option.map_some, OrderedMap.ofList_entries]

theorem readable_toJson (selector : Selector) : selector.toJson.Readable Json.nestingLimit := by
  refine .obj fun member listed => ?_
  obtain ⟨⟨name, value⟩, _, rfl⟩ := List.mem_map.1 listed
  exact value.readable_toJson _

/-- Whatever patterns compile, every selector is read back as it was written, with its names, their
order and the kinds of its values; so a text that is accepted denotes the same selector as what its
selector is written as. -/
theorem parse_render :
    (∀ selector : Selector, parse selector.render = some selector) ∧
      ∀ (text : String) (selector : Selector), parse text = some selector →
        parse selector.render = parse text := by
  have back (selector : Selector) : parse selector.render = some selector := by
    rw [parse, render, Json.parse_render_of_readable selector.readable_toJson, Option.bind_some,
      ofJson?_toJson]
  refine ⟨back, fun text selector read => ?_⟩
  rw [back, read]

end Selector

end Compiler

namespace Selector

/-- A text with blanks and escapes, a pattern that is given as an array and a name that comes
twice. -/
def spacedText : String :=
  " \x7b \"caption\": [\"\\u0041\", \"\\n\"], \"id\": [\"\\\\p\x7bAge:6.0\x7d\", true], " ++
    "\"index\": 3, \"caption\": [] \x7d "

/-- The selector of that text. -/
def spacedSelector : Selector where
  entries :=
    [("caption", .oneOf []),
      ("id", .pattern ((Pattern.ofSource? "\\p\x7bAge:6.0\x7d" true).get (by decide +kernel))),
      ("index", .index 3)]
  distinct := by decide

/-- It is written without blanks, with each name once and the pattern as an object. -/
theorem parse_render_spaced :
    parse spacedText = some spacedSelector ∧
      spacedSelector.render = "\x7b\"caption\":[],\"id\":\x7b\"pattern\":\"\\\\p\x7bAge:6.0\x7d\"," ++
        "\"case_insensitive\":true\x7d,\"index\":3\x7d" ∧
      parse spacedSelector.render = parse spacedText := by
  have read : parse spacedText = some spacedSelector := by decide +kernel
  exact ⟨read, by decide +kernel, parse_render.2 spacedText spacedSelector read⟩

end Selector

end ElementSearch
