/-
# Lookups below an element

The tree answers lookups with the elements below the root that are asked for, in document order.
So a lookup below an element gives what the lookup on the whole document gives, restricted to the
elements below that one: no stale mark on another element and no prepared answer has a part in it.
-/

import ElementSearch.Proofs.Search.Scans
import ElementSearch.Proofs.Tree.DocumentOrder

namespace ElementSearch

namespace Document

variable {document : Document} {strategy : Strategy} {value : String}

/-- The lookups that the tree answers by itself. -/
inductive AsksTree : Strategy → String → Prop
  | id (value : String) : AsksTree .id value
  | name (value : String) : AsksTree .name value
  | className (value : String) : AsksTree .className value
  | tagName (value : String) : AsksTree .tagName value
  | linkText (value : String) : AsksTree .linkText value
  | partialLinkText (value : String) : AsksTree .partialLinkText value
  | everything : AsksTree .xpath ".//*"
  | scan (tag : String) (named : tag ≠ "") (plain : tag.toList.all Char.isAlphanum = true) :
      AsksTree .xpath (".//" ++ tag)

theorem scannedTag?_path {tag : String} (named : tag ≠ "")
    (plain : tag.toList.all Char.isAlphanum = true) : scannedTag? (".//" ++ tag) = some tag := by
  have source : (".//" ++ tag).toList = '.' :: '/' :: '/' :: tag.toList := String.toList_append
  have some : tag.toList.isEmpty = false := by
    rw [Bool.eq_false_iff, Ne, List.isEmpty_iff, String.toList_eq_nil_iff]
    exact named
  rw [scannedTag?, source]
  simp only [some, plain, Bool.not_false, Bool.and_self, if_true, String.ofList_toList]

theorem exists_answers?_of_asksTree (asks : AsksTree strategy value) :
    ∃ asked, answers? strategy value = some asked := by
  cases asks with
  | scan tag named plain =>
      unfold answers?
      dsimp only
      rw [scannedTag?_path named plain]
      split
      · exact ⟨_, rfl⟩
      · exact ⟨_, rfl⟩
  | _ => exact ⟨_, rfl⟩

/-- What is asked for below an element is what is asked for on the whole document and is below
the element. -/
theorem allBelow_eq_filter (document : Document) (node : Nat) (holds : Element → Bool) :
    document.allBelow (some node) holds =
      (document.allBelow none holds).filter (document.tree.IsAbove node ·) := by
  rw [allBelow, allBelow, List.filter_comm]
  exact congrArg _ (document.tree.descendants_eq_filter node)

/-- The elements below one are listed in document order, every one of them once and nothing else,
and a traversal with a stack ends with the same list. What the tree is asked for below an element
is answered as on the whole document, restricted to the elements below that one. -/
theorem listed_in_document_order (document : Document) (node : Nat) :
    let listed := document.tree.descendants node
    (Tree.Traversal.next document.tree)^[listed.length]
        (Tree.Traversal.start document.tree node) = ⟨[], listed⟩ ∧
      listed.Nodup ∧ (∀ lower, lower ∈ listed ↔ document.tree.IsAbove node lower) ∧
      (∀ first ∈ listed, ∀ second ∈ listed,
        [first, second].Sublist listed ↔ document.tree.Precedes first second) ∧
      ∀ strategy value, AsksTree strategy value →
        document.stale.contains node = false → document.stale.contains 0 = false →
        ∃ found, document.outcome (findElements none strategy value) = .ok found ∧
          document.outcome (findElements (some node) strategy value) =
            .ok (found.filter (document.tree.IsAbove node ·)) := by
  intro listed
  refine ⟨?_, document.tree.nodup_descendants node, fun lower => Tree.mem_descendants_iff,
    fun first member second other => Tree.sublist_descendants_iff member other, ?_⟩
  · have ended := Tree.Traversal.iterate_next document.tree (.start document.tree node)
    rwa [Tree.Traversal.left_start] at ended
  · intro strategy value asks fresh freshRoot
    obtain ⟨asked, answered⟩ := exists_answers?_of_asksTree asks
    refine ⟨document.allBelow none asked, ?_, ?_⟩
    · exact (yields_findElements document none strategy value).result_eq.trans
        (answer_of_fresh freshRoot answered)
    · rw [← allBelow_eq_filter]
      exact (yields_findElements document (some node) strategy value).result_eq.trans
        (answer_of_fresh fresh answered)

/-- Two sections with links in them. The links of the first one were added before and after that
of the second one, which has become stale; and an answer was prepared for all links. -/
def linkedSections : Document where
  tree := ⟨[⟨0, "div", [], ""⟩, ⟨0, "div", [], ""⟩, ⟨1, "a", [], "Home"⟩, ⟨2, "a", [], "Help"⟩,
    ⟨1, "A", [], "News"⟩], by decide⟩
  stubs := OrderedMap.empty.insert (.tagName, "a") [2]
  stale := [4]
  calls := []

/-- The links of the first section are the first and the last that were added. -/
theorem listed_in_document_order_sections :
    linkedSections.tree.descendants 0 = [1, 3, 5, 2, 4] ∧ AsksTree .tagName "a" ∧
      linkedSections.stale.contains 1 = false ∧ linkedSections.stale.contains 0 = false ∧
      linkedSections.outcome (findElements none .tagName "a") = .ok [3, 5, 4] ∧
      linkedSections.outcome (findElements (some 1) .tagName "a") = .ok [3, 5] := by
  have asks : AsksTree .tagName "a" := .tagName "a"
  obtain ⟨_, _, _, _, lookups⟩ := listed_in_document_order linkedSections 1
  obtain ⟨found, whole, part⟩ := lookups .tagName "a" asks rfl rfl
  have links : linkedSections.outcome (findElements none .tagName "a") = .ok [3, 5, 4] := rfl
  obtain rfl : found = [3, 5, 4] := Except.ok.inj (whole.symm.trans links)
  exact ⟨rfl, asks, rfl, rfl, links, part⟩

end Document

end ElementSearch
