/-
# What CSS selectors mean

An attribute is compared as it is, or word by word. No word is empty and none contains white
space, so a text that is empty or contains some is never one of the words.
-/

import ElementSearch.Css
import ElementSearch.Proofs.Text.Words
import ElementSearch.Text.Basic
import ElementSearch.Tree

namespace ElementSearch.Css

/-- The white space of CSS, with the form feed. -/
def isSpace (c : Char) : Bool :=
  c == ' ' || c == '\t' || c == '\n' || c == '\r' || c == '\x0C'

/-- The words of an attribute. -/
def words (text : String) : List String :=
  (Text.wordsBy isSpace text.toList).map String.ofList

variable (element : Element)

/-- Whether an element passes a test of an attribute, which a missing one does not. -/
def AttributeTest.holds : AttributeTest → Bool
  | .equals name value => element.attribute? name == some value
  | .hasWord name value => (element.attribute? name).any fun text => (words text).contains value

/-- Whether a query selects an element below its root. -/
def Query.selects (query : Query) : Bool :=
  query.tag.all (· == element.tag) &&
    query.token.all (fun token => (AttributeTest.hasWord "class" token).holds element) &&
    query.tests.all (·.holds element)

variable {element}

theorem holds_equals_iff {name value : String} :
    (AttributeTest.equals name value).holds element = true ↔
      element.attribute? name = some value :=
  beq_iff_eq

theorem holds_hasWord_iff {name value : String} :
    (AttributeTest.hasWord name value).holds element = true ↔
      ∃ text, element.attribute? name = some text ∧ value ∈ words text := by
  rw [AttributeTest.holds, Option.any_eq_true]
  simp only [List.contains_iff_mem]

theorem mem_words_iff {text word : String} :
    word ∈ words text ↔ word.toList ∈ Text.wordsBy isSpace text.toList :=
  Text.mem_map_ofList_iff

/-- A token is not empty, and it has letters, digits, hyphens and underscores only. -/
theorem chars_of_isToken {text : String} (token : isToken text = true) :
    text.toList ≠ [] ∧ ∀ c ∈ text.toList, (c.isAlphanum || c == '_' || c == '-') = true := by
  unfold isToken at token
  dsimp only at token
  generalize text.toList = chars at token ⊢
  split at token
  · cases token
  · next first rest named =>
      have ⟨start, later⟩ := Bool.and_eq_true_iff.1 token
      have letters : ∀ c ∈ first :: rest, (c.isAlphanum || c == '_' || c == '-') = true := by
        refine List.forall_mem_cons.2 ⟨?_, fun c member => ?_⟩
        · grind [Char.isAlphanum]
        · have := List.all_eq_true.1 later c member
          grind [Char.isAlphanum]
      split at named
      · next behind =>
          rw [named]
          exact ⟨List.cons_ne_nil _ _, List.forall_mem_cons.2 ⟨by decide, letters⟩⟩
      · rw [named]
        exact ⟨List.cons_ne_nil _ _, letters⟩

theorem not_space_of_isToken {text : String} (token : isToken text = true) :
    ∀ c ∈ text.toList, (c == ' ') = false := by
  intro c member
  rw [beq_eq_false_iff_ne]
  rintro rfl
  exact absurd ((chars_of_isToken token).2 ' ' member) (by decide)

end ElementSearch.Css
