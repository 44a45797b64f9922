/-
# Patterns

A pattern is the source of a regular expression together with whether it ignores case.
It can only be made from a source that compiles, and two patterns are the same when
they are written the same.

How a source is read is fixed, but which sources compile is up to a compiler in two
respects: the names of properties that it knows, and how large it lets a pattern get.
-/

import ElementSearch.Regex.Parse
import ElementSearch.Regex.Search

namespace ElementSearch

/-- What decides which sources compile, beyond how they are read. -/
class Compiler where
  /-- The names of properties. -/
  names : Regex.PropertyNames
  /-- Whether a source that can be read stays within the limit on size. -/
  fits : (ignoreCase : Bool) → (source : String) → Bool

namespace Compiler

/-- The expression that a source compiles to, if it does. -/
def compile [Compiler] (ignoreCase : Bool) (source : String) : Option Regex :=
  if fits ignoreCase source then Regex.parse names ignoreCase source else none

/-- What compiles is what is read. -/
theorem parse_of_compile [Compiler] {ignoreCase : Bool} {source : String} {regex : Regex}
    (compiled : compile ignoreCase source = some regex) :
    Regex.parse names ignoreCase source = some regex :=
  (Option.ite_none_right_eq_some.1 compiled).2

/-- The standard names, and no limit. -/
instance standard : Compiler := ⟨.standard, fun _ _ => true⟩

end Compiler

variable [Compiler]

/-- A compiled pattern. -/
structure Pattern where
  source : String
  ignoreCase : Bool
  regex : Regex
  compiled : Compiler.compile ignoreCase source = some regex

namespace Pattern

@[ext] theorem ext {first second : Pattern} (source : first.source = second.source)
    (ignoreCase : first.ignoreCase = second.ignoreCase) : first = second := by
  obtain ⟨_, _, firstRegex, firstCompiled⟩ := first
  obtain ⟨_, _, secondRegex, secondCompiled⟩ := second
  cases source
  cases ignoreCase
  obtain rfl : firstRegex = secondRegex :=
    Option.some.inj (firstCompiled.symm.trans secondCompiled)
  rfl

instance : DecidableEq Pattern := fun first second =>
  decidable_of_iff (first.source = second.source ∧ first.ignoreCase = second.ignoreCase)
    ⟨fun same => ext same.1 same.2, fun same => same ▸ ⟨rfl, rfl⟩⟩

/-- The pattern with a source, if the source compiles. -/
def ofSource? (source : String) (ignoreCase : Bool) : Option Pattern :=
  match compiled : Compiler.compile ignoreCase source with
  | some regex => some ⟨source, ignoreCase, regex, compiled⟩
  | none => none

/-- A pattern is made again from what it is written with. -/
theorem ofSource?_source (pattern : Pattern) :
    ofSource? pattern.source pattern.ignoreCase = some pattern := by
  obtain ⟨source, ignoreCase, regex, compiled⟩ := pattern
  simp only [ofSource?]
  split
  · next found _ => simp only [Option.some.injEq]; exact ext rfl rfl
  · next missing => simp [compiled] at missing

/-- A pattern that is made from a source has it. -/
theorem source_of_ofSource? {source : String} {ignoreCase : Bool} {pattern : Pattern}
    (made : ofSource? source ignoreCase = some pattern) :
    pattern.source = source ∧ pattern.ignoreCase = ignoreCase := by
  unfold ofSource? at made
  split at made
  · cases made
    exact ⟨rfl, rfl⟩
  · cases made

/-- Whether the pattern matches somewhere in a text. -/
def matchesIn (pattern : Pattern) (text : String) : Bool :=
  pattern.regex.accepts text.toList

/-- The pattern between slashes, with an `i` where it ignores case. -/
def display (pattern : Pattern) : String :=
  "/" ++ pattern.source ++ "/" ++ (if pattern.ignoreCase then "i" else "")

end Pattern

end ElementSearch
