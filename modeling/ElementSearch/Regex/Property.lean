/-
# Character properties by name

Patterns name a property of characters loosely: case, blanks, hyphens and underscores
do not count, nor does a leading "is". A lone name is a binary property, a general
category or a script; a name with a value says which property is to have which value.
How a pattern is read does not depend on which names there are, so that these are given
to the readers. The standard names are those of the Unicode Character Database.
-/

import ElementSearch.Regex.CharSet
import ElementSearch.Unicode.Age
import ElementSearch.Unicode.Segmentation

namespace ElementSearch.Regex

open Unicode

/-- The part of a name that counts: ASCII characters in lower case without separators. -/
def significant (name : List Char) : List Char :=
  (name.filter fun c => c.toNat < 0x80 && c != ' ' && c != '_' && c != '-').map Char.toLower

/-- A name as it is looked up, without a leading "is". The name `isc` is kept whole, since
what would be left of it is the name of something else. -/
def looseName (name : List Char) : String :=
  match name with
  | first :: second :: rest =>
      if first.toLower == 'i' && second.toLower == 's' then
        if significant rest == ['c'] then "isc" else String.ofList (significant rest)
      else String.ofList (significant name)
  | _ => String.ofList (significant name)

/-- A name of letters, digits and points. -/
def IsPlainName (name : String) : Prop :=
  name.toList.all (fun c => c.isAlphanum || c == '.') = true

instance (name : String) : Decidable (IsPlainName name) :=
  inferInstanceAs (Decidable (_ = _))

/-- The names of properties and what they denote. Names and values are looked up by what counts
in them, and nothing else than letters, digits and points does. -/
structure PropertyNames where
  /-- The set that a lone name denotes. -/
  lone : String → Option CharSet
  /-- The set that a property with a value denotes. -/
  valued : String → String → Option CharSet
  isPlainName_of_lone : ∀ {name : String} {set : CharSet},
    lone name = some set → IsPlainName name
  isPlainName_of_valued : ∀ {name value : String} {set : CharSet},
    valued name value = some set → IsPlainName name ∧ IsPlainName value

namespace PropertyNames

/-- The set that a lone name denotes as it is written. -/
def set? (names : PropertyNames) (name : List Char) : Option CharSet :=
  names.lone (looseName name)

/-- The set that a name and a value denote as they are written. -/
def valueSet? (names : PropertyNames) (name value : List Char) : Option CharSet :=
  names.valued (looseName name) (looseName value)

end PropertyNames

/-! ## Standard names -/

/-- The general categories and their unions, under their loose names. -/
def namedCategories : List (List String × List Category) :=
  [(["lu", "uppercaseletter"], [.uppercaseLetter]),
    (["ll", "lowercaseletter"], [.lowercaseLetter]),
    (["lt", "titlecaseletter"], [.titlecaseLetter]),
    (["lc", "casedletter"], Category.casedLetters),
    (["lm", "modifierletter"], [.modifierLetter]),
    (["lo", "otherletter"], [.otherLetter]),
    (["l", "letter"], Category.letters),
    (["mn", "nonspacingmark"], [.nonspacingMark]),
    (["mc", "spacingmark"], [.spacingMark]),
    (["me", "enclosingmark"], [.enclosingMark]),
    (["m", "mark", "combiningmark"], Category.marks),
    (["nd", "decimalnumber", "digit"], [.decimalNumber]),
    (["nl", "letternumber"], [.letterNumber]),
    (["no", "othernumber"], [.otherNumber]),
    (["n", "number"], Category.numbers),
    (["pc", "connectorpunctuation"], [.connectorPunctuation]),
    (["pd", "dashpunctuation"], [.dashPunctuation]),
    (["ps", "openpunctuation"], [.openPunctuation]),
    (["pe", "closepunctuation"], [.closePunctuation]),
    (["pi", "initialpunctuation"], [.initialPunctuation]),
    (["pf", "finalpunctuation"], [.finalPunctuation]),
    (["po", "otherpunctuation"], [.otherPunctuation]),
    (["p", "punctuation", "punct"], Category.punctuation),
    (["sm", "mathsymbol"], [.mathSymbol]),
    (["sc", "currencysymbol"], [.currencySymbol]),
    (["sk", "modifiersymbol"], [.modifierSymbol]),
    (["so", "othersymbol"], [.otherSymbol]),
    (["s", "symbol"], Category.symbols),
    (["zs", "spaceseparator"], [.spaceSeparator]),
    (["zl", "lineseparator"], [.lineSeparator]),
    (["zp", "paragraphseparator"], [.paragraphSeparator]),
    (["z", "separator"], Category.separators),
    (["cc", "control", "cntrl"], [.control]),
    (["cf", "format"], [.format]),
    (["cs", "surrogate"], [.surrogate]),
    (["co", "privateuse"], [.privateUse])]

/-- Look a name up among groups of names. -/
def lookupName {α : Type} (groups : List (List String × α)) (name : String) : Option α :=
  (groups.find? (·.1.contains name)).map (·.2)

/-- The set a general category denotes. Unassigned code points are those of no category. -/
def categorySet? (name : String) : Option CharSet :=
  let assigned := CharSet.ofCategories Category.all
  let namedOthers : List Category := [.control, .format, .surrogate, .privateUse]
  match name with
  | "any" => some .full
  | "ascii" => some (.interval '\u0000' '\u007F')
  | "assigned" => some assigned
  | "cn" | "unassigned" => some assigned.compl
  | "c" | "other" =>
      some (CharSet.ofCategories (Category.all.filter (!namedOthers.contains ·))).compl
  | _ => (lookupName namedCategories name).map .ofCategories

/-- The script of a loose name. -/
def script? (name : String) : Option Script :=
  Script.all.find? (·.names.contains name)

/-- The characters filed under a script. -/
def scriptSet (script : Script) : CharSet := .ofRanges script.filed

/-- The characters used in a script. -/
def scriptUseSet (script : Script) : CharSet :=
  ((CharSet.ofRanges script.filed).diff (.ofRanges Script.reassigned)).union
    (.ofRanges script.borrowed)

/-- The code points that had been assigned by a version. -/
def ageSet? (version : String) : Option CharSet :=
  (Age.addedBy? version Age.versions).map .ofRanges

/-- The set that a lone name denotes. Three abbreviations name a general category although
they also abbreviate other properties. -/
def standardSet? (name : String) : Option CharSet :=
  let binary := if ["cf", "sc", "lc"].contains name then none
    else (lookupName Property.named name).map fun property => ⟨property.has⟩
  binary <|> categorySet? name <|> (script? name).map scriptSet

/-- The sets that the values of a property denote. Only these properties have values in
patterns. -/
def standardValues? : String → Option (String → Option CharSet)
  | "gc" | "generalcategory" => some categorySet?
  | "sc" | "script" => some fun value => (script? value).map scriptSet
  | "scx" | "scriptextensions" => some fun value => (script? value).map scriptUseSet
  | "age" => some ageSet?
  | "gcb" | "graphemeclusterbreak" =>
      some fun value => (lookupName Segmentation.graphemeClusterBreaks value).map (⟨·⟩)
  | "wb" | "wordbreak" =>
      some fun value => (lookupName Segmentation.wordBreaks value).map (⟨·⟩)
  | "sb" | "sentencebreak" =>
      some fun value => (lookupName Segmentation.sentenceBreaks value).map (⟨·⟩)
  | _ => none

/-- The names of the Unicode Character Database. No other than a plain name is among them. -/
def PropertyNames.standard : PropertyNames where
  lone name := if IsPlainName name then standardSet? name else none
  valued name value :=
    if IsPlainName name ∧ IsPlainName value then (standardValues? name).bind (· value) else none
  isPlainName_of_lone found := (Option.ite_none_right_eq_some.1 found).1
  isPlainName_of_valued found := (Option.ite_none_right_eq_some.1 found).1

end ElementSearch.Regex
