/-
# Document order

The elements below one are listed in document order: each comes before those below it, and all
that one child spans comes before all that a later child spans. The order is said here without
any listing of elements, and it is asymmetric, so that only one list of the elements below one is
in it. A traversal that keeps a stack makes that list as well: each round moves one element from
the stack to the list, and what was listed and what the stack still stands for stay the same.
-/

import ElementSearch.Tree
import Mathlib.Data.List.GetD
import Mathlib.Data.List.Pairwise
import Mathlib.Data.List.Sort
import Mathlib.Logic.Function.Iterate
import Mathlib.Logic.Relation

namespace ElementSearch.Tree

variable {tree : Tree} {node other child sibling lower first second : Nat}

/-! ## Parents -/

/-- `node` is the parent of `child`, which is an element of the tree. -/
def IsParent (tree : Tree) (node child : Nat) : Prop :=
  0 < child ∧ child < tree.size ∧ (tree.element child).parent = node

/-- Elements are added after their parents. -/
theorem IsParent.lt (parent : tree.IsParent node child) : node < child := by
  obtain ⟨positive, inside, rfl⟩ := parent
  obtain ⟨place, rfl⟩ := Nat.exists_eq_succ_of_ne_zero (Nat.pos_iff_ne_zero.1 positive)
  have bound : place < tree.elements.length := Nat.lt_of_succ_lt_succ inside
  have own : tree.element (place + 1) = tree.elements[place] := List.getD_eq_getElem _ _ bound
  rw [Nat.succ_eq_add_one, own]
  exact Nat.lt_succ_of_le (tree.parents place bound)

theorem IsParent.unique (parent : tree.IsParent node child) (same : tree.IsParent other child) :
    node = other :=
  parent.2.2.symm.trans same.2.2

theorem mem_children_iff : child ∈ tree.children node ↔ tree.IsParent node child := by
  simp only [children, List.mem_filter, List.mem_range'_1, beq_iff_eq, IsParent, size,
    Nat.add_comm 1, Nat.succ_le_iff, and_assoc]

/-- Children stand in the order in which they were added. -/
theorem pairwise_children (tree : Tree) (node : Nat) : (tree.children node).Pairwise (· < ·) :=
  (List.pairwise_lt_range' 1).filter _

/-- What holds of an element if it holds of its children holds of every element. -/
theorem induction_on_children (tree : Tree) {motive : Nat → Prop}
    (step : ∀ node, (∀ child, tree.IsParent node child → motive child) → motive node)
    (node : Nat) : motive node := by
  induction left : tree.size - node using Nat.strong_induction_on generalizing node with
  | _ left ih =>
      apply step
      intro child parent
      have further := parent.lt
      have inside := parent.2.1
      exact ih (tree.size - child) (by omega) child rfl

/-! ## Elements above others -/

/-- `node` is above `lower`: it is the parent, or above the parent. -/
def IsAbove (tree : Tree) : Nat → Nat → Prop := Relation.TransGen tree.IsParent

/-- `lower` is `node` or below it. -/
def Spans (tree : Tree) : Nat → Nat → Prop := Relation.ReflTransGen tree.IsParent

theorem isAbove_iff :
    tree.IsAbove node lower ↔ ∃ child, tree.IsParent node child ∧ tree.Spans child lower :=
  Relation.TransGen.head'_iff

theorem spans_iff : tree.Spans node lower ↔ lower = node ∨ tree.IsAbove node lower :=
  Relation.reflTransGen_iff_eq_or_transGen

theorem IsAbove.lt (above : tree.IsAbove node lower) : node < lower := by
  induction above with
  | single parent => exact parent.lt
  | tail above parent ih => exact ih.trans parent.lt

theorem IsAbove.lt_size (above : tree.IsAbove node lower) : lower < tree.size := by
  cases above with
  | single parent => exact parent.2.1
  | tail above parent => exact parent.2.1

theorem IsAbove.spans (above : tree.IsAbove node lower) : tree.Spans node lower :=
  above.to_reflTransGen

/-- What is above a child spans the parent. -/
theorem IsAbove.spans_parent (above : tree.IsAbove other child)
    (parent : tree.IsParent node child) : tree.Spans other node := by
  obtain ⟨last, spans, same⟩ := Relation.TransGen.tail'_iff.1 above
  obtain rfl := same.unique parent
  exact spans

theorem Spans.le (spans : tree.Spans node lower) : node ≤ lower := by
  obtain rfl | above := spans_iff.1 spans
  · exact Nat.le_refl _
  · exact above.lt.le

/-- Of two elements that span the same one, one spans the other. -/
theorem Spans.total (one : tree.Spans node lower) (two : tree.Spans other lower) :
    tree.Spans node other ∨ tree.Spans other node := by
  have unique : Relator.RightUnique (Function.swap tree.IsParent) :=
    fun _ _ _ parent same => parent.unique same
  have total := Relation.ReflTransGen.total_of_right_unique unique
    (Relation.reflTransGen_swap.2 one) (Relation.reflTransGen_swap.2 two)
  exact total.symm.imp Relation.reflTransGen_swap.1 Relation.reflTransGen_swap.1

/-- Different children of one parent span nothing in common. -/
theorem eq_of_spans_common (one : tree.IsParent node child) (two : tree.IsParent node sibling)
    (spans : tree.Spans child lower) (same : tree.Spans sibling lower) : child = sibling := by
  have equal {child sibling : Nat} (one : tree.IsParent node child)
      (two : tree.IsParent node sibling) (spans : tree.Spans child sibling) : sibling = child := by
    obtain same | above := spans_iff.1 spans
    · exact same
    · exact absurd (one.lt.trans_le (above.spans_parent two).le) (Nat.lt_irrefl _)
  obtain down | up := spans.total same
  · exact (equal one two down).symm
  · exact equal two one up

/-- The root is above every other element. -/
theorem isAbove_root (positive : 0 < node) (inside : node < tree.size) : tree.IsAbove 0 node := by
  induction node using Nat.strong_induction_on with
  | _ node ih =>
      have parent : tree.IsParent (tree.element node).parent node := ⟨positive, inside, rfl⟩
      obtain zero | positive := Nat.eq_zero_or_pos (tree.element node).parent
      · rw [zero] at parent
        exact .single parent
      · exact .tail (ih _ parent.lt positive (parent.lt.trans inside)) parent

/-! ## The order -/

/-- `first` comes before `second`: it is above it, or inside a child that was added before the
child of the same parent that `second` is inside of. -/
inductive Precedes (tree : Tree) (first second : Nat) : Prop
  | above (above : tree.IsAbove first second)
  | beside {node child sibling : Nat} (one : tree.IsParent node child)
      (two : tree.IsParent node sibling) (earlier : child < sibling)
      (spans : tree.Spans child first) (spansOther : tree.Spans sibling second)

/-- Elements of different children are not above each other. -/
theorem not_isAbove_of_beside (one : tree.IsParent node child) (two : tree.IsParent node sibling)
    (apart : child ≠ sibling) (spans : tree.Spans child first)
    (spansOther : tree.Spans sibling second) : ¬ tree.IsAbove first second := fun above =>
  apart (eq_of_spans_common one two (spans.trans above.spans) spansOther)

/-- If two pairs of siblings meet below one side, and a child of the one pair spans the child of
the other on the other side, then they are the same pair. -/
theorem eq_of_spans_sibling {node' child' sibling' : Nat} (one : tree.IsParent node child)
    (two : tree.IsParent node sibling) (apart : child ≠ sibling)
    (three : tree.IsParent node' child') (four : tree.IsParent node' sibling')
    (spans : tree.Spans sibling second) (spans' : tree.Spans child' second)
    (down : tree.Spans child sibling') : child = sibling' ∧ sibling = child' := by
  obtain rfl | above := spans_iff.1 down
  · obtain rfl := one.unique four
    exact ⟨rfl, eq_of_spans_common two three spans spans'⟩
  · have inside := (above.spans_parent four).tail three
    exact absurd (eq_of_spans_common one two (inside.trans spans') spans) apart

theorem Precedes.asymm (precedes : tree.Precedes first second) :
    ¬ tree.Precedes second first := by
  intro back
  cases precedes with
  | above down =>
      cases back with
      | above up => exact absurd (down.lt.trans up.lt) (Nat.lt_irrefl _)
      | beside one two earlier spans spansOther =>
          exact not_isAbove_of_beside two one earlier.ne' spansOther spans down
  | beside one two earlier spans spansOther =>
      cases back with
      | above up => exact not_isAbove_of_beside two one earlier.ne' spansOther spans up
      | beside three four earlier' spans' spansOther' =>
          obtain down | up := spans.total spansOther'
          · have same := eq_of_spans_sibling one two earlier.ne three four spansOther spans' down
            omega
          · have same :=
              eq_of_spans_sibling four three earlier'.ne' two one spans' spansOther up
            omega

theorem Precedes.ne (precedes : tree.Precedes first second) : first ≠ second := by
  rintro rfl
  exact precedes.asymm precedes

/-! ## The elements below one -/

/-- Levels beyond the last element hold nothing. -/
theorem below_succ {depth : Nat} (deep : tree.elements.length ≤ node + depth) :
    tree.below (depth + 1) node = tree.below depth node := by
  induction depth generalizing node with
  | zero =>
      have childless : tree.children node = [] := by
        rw [List.eq_nil_iff_forall_not_mem]
        intro child member
        have parent := mem_children_iff.1 member
        have further := parent.lt
        have inside : child < tree.elements.length + 1 := parent.2.1
        omega
      show (tree.children node).flatMap _ = []
      rw [childless]
      rfl
  | succ depth ih =>
      rw [below, below]
      apply List.flatMap_congr
      intro child member
      have further := (mem_children_iff.1 member).lt
      rw [ih (by omega)]

/-- Below an element are its children, each with what is below it. -/
theorem descendants_eq (tree : Tree) (node : Nat) :
    tree.descendants node =
      (tree.children node).flatMap fun child => child :: tree.descendants child := by
  have whole : tree.below (tree.elements.length + 1) node = tree.descendants node :=
    below_succ (Nat.le_add_left _ _)
  rw [← whole]
  rfl

theorem mem_descendants_iff : lower ∈ tree.descendants node ↔ tree.IsAbove node lower := by
  induction node using induction_on_children tree with
  | step node ih =>
      rw [descendants_eq, List.mem_flatMap, isAbove_iff]
      constructor
      · rintro ⟨child, member, inside⟩
        have parent := mem_children_iff.1 member
        rw [List.mem_cons, ih child parent, ← spans_iff] at inside
        exact ⟨child, parent, inside⟩
      · rintro ⟨child, parent, spans⟩
        refine ⟨child, mem_children_iff.2 parent, ?_⟩
        rwa [List.mem_cons, ih child parent, ← spans_iff]

instance (node lower : Nat) : Decidable (tree.IsAbove node lower) :=
  decidable_of_iff _ mem_descendants_iff

/-- The elements below one are in document order. -/
theorem pairwise_descendants (tree : Tree) (node : Nat) :
    (tree.descendants node).Pairwise tree.Precedes := by
  induction node using induction_on_children tree with
  | step node ih =>
      have spanned {child lower : Nat} (inside : lower ∈ child :: tree.descendants child) :
          tree.Spans child lower := by
        rwa [List.mem_cons, mem_descendants_iff, ← spans_iff] at inside
      rw [descendants_eq, List.pairwise_flatMap]
      constructor
      · intro child member
        rw [List.pairwise_cons]
        exact ⟨fun lower inside => .above (mem_descendants_iff.1 inside),
          ih child (mem_children_iff.1 member)⟩
      · apply (pairwise_children tree node).imp_of_mem
        intro child sibling member memberOther earlier first inside second insideOther
        exact .beside (mem_children_iff.1 member) (mem_children_iff.1 memberOther) earlier
          (spanned inside) (spanned insideOther)

theorem nodup_descendants (tree : Tree) (node : Nat) : (tree.descendants node).Nodup :=
  (pairwise_descendants tree node).imp Precedes.ne

/-- There is one list in document order of given elements. -/
theorem eq_of_pairwise_precedes {one two : List Nat} (ordered : one.Pairwise tree.Precedes)
    (orderedOther : two.Pairwise tree.Precedes) (same : ∀ lower, lower ∈ one ↔ lower ∈ two) :
    one = two := by
  have permuted : one.Perm two :=
    (List.perm_ext_iff_of_nodup (ordered.imp Precedes.ne) (orderedOther.imp Precedes.ne)).2 same
  exact permuted.eq_of_pairwise (fun _ _ _ _ precedes back => absurd back precedes.asymm)
    ordered orderedOther

/-- Of the elements below one, those stand before others that precede them. -/
theorem sublist_descendants_iff (member : first ∈ tree.descendants node)
    (memberOther : second ∈ tree.descendants node) :
    [first, second].Sublist (tree.descendants node) ↔ tree.Precedes first second := by
  have precedes {first second : Nat}
      (before : [first, second].Sublist (tree.descendants node)) : tree.Precedes first second :=
    List.pairwise_iff_forall_sublist.1 (pairwise_descendants tree node) before
  refine ⟨precedes, fun ordered => ?_⟩
  let together (first second : Nat) : Prop := [first, second].Sublist (tree.descendants node) ∨
    [second, first].Sublist (tree.descendants node)
  have symmetric : Std.Symm together := ⟨fun _ _ => Or.symm⟩
  have either : (tree.descendants node).Pairwise together :=
    List.pairwise_iff_forall_sublist.2 .inl
  obtain before | after := either.forall member memberOther ordered.ne
  · exact before
  · exact absurd (precedes after) ordered.asymm

/-- What is below one element is below the root, in the same order. -/
theorem descendants_eq_filter (tree : Tree) (node : Nat) :
    tree.descendants node = (tree.descendants 0).filter (tree.IsAbove node ·) := by
  apply eq_of_pairwise_precedes (pairwise_descendants tree node)
    ((pairwise_descendants tree 0).filter _)
  intro lower
  rw [List.mem_filter, decide_eq_true_iff, mem_descendants_iff, mem_descendants_iff]
  refine ⟨fun above => ⟨?_, above⟩, And.right⟩
  exact isAbove_root (Nat.zero_lt_of_lt above.lt) above.lt_size

/-! ## A traversal with a stack -/

/-- A traversal under way: the elements that wait, of which the last is next, and those that have
been listed. -/
structure Traversal where
  stack : List Nat
  listed : List Nat

namespace Traversal

/-- A traversal of what is below an element: its children wait, the first of them on top. -/
def start (tree : Tree) (node : Nat) : Traversal := ⟨(tree.children node).reverse, []⟩

/-- List the element on top of the stack and let its children wait instead of it, the first of
them on top. Nothing is done once the stack is empty. -/
def next (tree : Tree) (traversal : Traversal) : Traversal :=
  match traversal.stack.getLast? with
  | none => traversal
  | some node =>
      ⟨traversal.stack.dropLast ++ (tree.children node).reverse, traversal.listed ++ [node]⟩

/-- What is still to be listed: the elements on the stack from its top, each with what is
below it. -/
def left (tree : Tree) (traversal : Traversal) : List Nat :=
  traversal.stack.reverse.flatMap fun node => node :: tree.descendants node

theorem left_start (tree : Tree) (node : Nat) : left tree (start tree node) =
    tree.descendants node := by
  rw [left, start, List.reverse_reverse, ← descendants_eq]

variable (waiting listed : List Nat) (node : Nat)

theorem next_push (tree : Tree) : next tree ⟨waiting ++ [node], listed⟩ =
    ⟨waiting ++ (tree.children node).reverse, listed ++ [node]⟩ := by
  simp [next]

/-- A round lists the first of what is left, and the rest stays to be listed. -/
theorem left_push (tree : Tree) : left tree ⟨waiting ++ [node], listed⟩ =
    node :: left tree (next tree ⟨waiting ++ [node], listed⟩) := by
  rw [next_push, left, left, List.reverse_append, List.reverse_append, List.reverse_reverse,
    List.flatMap_append, List.flatMap_append, ← descendants_eq]
  simp only [List.reverse_singleton, List.flatMap_singleton, List.cons_append]

/-- A traversal ends after as many rounds as there are elements left, with all of them listed. -/
theorem iterate_next (tree : Tree) (traversal : Traversal) :
    (next tree)^[(left tree traversal).length] traversal =
      ⟨[], traversal.listed ++ left tree traversal⟩ := by
  induction rest : left tree traversal generalizing traversal with
  | nil =>
      obtain ⟨stack, listed⟩ := traversal
      obtain rfl | ⟨waiting, node, rfl⟩ := List.eq_nil_or_concat stack
      · rw [List.append_nil]
        rfl
      · rw [List.concat_eq_append, left_push] at rest
        cases rest
  | cons first rest ih =>
      obtain ⟨stack, listed⟩ := traversal
      obtain rfl | ⟨waiting, node, rfl⟩ := List.eq_nil_or_concat stack
      · cases rest
      · rw [List.concat_eq_append, left_push] at rest
        obtain ⟨rfl, later⟩ := List.cons.inj rest
        rw [List.concat_eq_append, List.length_cons, Function.iterate_succ_apply, ih _ later,
          next_push, List.append_assoc]
        rfl

end Traversal

end ElementSearch.Tree
