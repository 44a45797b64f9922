/-
# Element trees

A tree of elements as a page holds it: the root, numbered zero, and elements numbered
in the order in which they were added, each below one that was there before.
-/

namespace ElementSearch

/-- An element below another. -/
structure Element where
  parent : Nat
  tag : String
  attributes : List (String × String)
  text : String
  deriving DecidableEq, Repr

namespace Element

/-- The value of the first attribute with a name. -/
def attribute? (element : Element) (name : String) : Option String :=
  (element.attributes.find? (·.1 == name)).map (·.2)

end Element

/-- The elements of a page. The element at place `i` of the list has the number `i + 1`. -/
structure Tree where
  elements : List Element
  parents : ∀ place (bound : place < elements.length), elements[place].parent ≤ place

namespace Tree

/-- The tree with nothing but its root. -/
def empty : Tree := ⟨[], fun _ bound => absurd bound (Nat.not_lt_zero _)⟩

instance : Inhabited Tree := ⟨empty⟩

/-- How many elements there are, the root among them. -/
def size (tree : Tree) : Nat := tree.elements.length + 1

/-- The root: an `html` element without attributes and text. -/
def root : Element := ⟨0, "html", [], ""⟩

/-- The element with a number. A number that no element has reads as the root. The tree itself makes
no such number; it could only come from a stub that names what is not in the tree. -/
def element (tree : Tree) : Nat → Element
  | 0 => root
  | place + 1 => tree.elements.getD place root

/-- Add an element below one that is there. Its number is the size of the tree. -/
def add (tree : Tree) (added : Element) (below : added.parent < tree.size) : Tree where
  elements := tree.elements ++ [added]
  parents := by
    intro place bound
    rw [List.getElem_append]
    split
    · next inside => exact tree.parents place inside
    · next outside =>
        simp only [List.length_append, List.length_singleton] at bound
        have last : place = tree.elements.length := by omega
        simpa [last, size, Nat.lt_succ_iff] using below

/-- The numbers of the elements right below one, in the order in which they were added. -/
def children (tree : Tree) (node : Nat) : List Nat :=
  (List.range' 1 tree.elements.length).filter fun child => (tree.element child).parent == node

/-- The elements below one, down to `depth` levels: each before those below it. -/
def below (tree : Tree) : Nat → Nat → List Nat
  | 0, _ => []
  | depth + 1, node =>
      (tree.children node).flatMap fun child => child :: tree.below depth child

/-- The elements below one in document order. No element is more levels down than there are
elements. -/
def descendants (tree : Tree) (node : Nat) : List Nat :=
  tree.below tree.elements.length node

end Tree

end ElementSearch
