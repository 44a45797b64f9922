/-
# Putting tokens together

Where a pattern has no alternatives, everything outside its groups becomes one row of
pieces. A piece of that row stays as it was read unless a repetition takes it, so the
items at the end of the tokens are the end of the row, and items at their beginning are
its beginning once something else than a repetition follows them.
-/

import ElementSearch.Regex.Parse

namespace ElementSearch.Regex

/-- The expression of a row of pieces. -/
theorem regex_sequence (pieces : List Piece) :
    (Piece.sequence pieces).regex = concat (pieces.map Piece.regex) := by
  match pieces with
  | [] => rfl
  | [_] => rfl
  | _ :: _ :: _ => rfl

namespace OpenGroup

/-- A group without finished alternatives is the row of its items. -/
theorem regex_contents {group : OpenGroup} (single : group.finished = []) :
    group.contents.regex = concat (group.items.reverse.map Piece.regex) := by
  rw [contents, single]
  exact regex_sequence group.items.reverse

/-- Add items in the order in which they are read. -/
def pushAll (group : OpenGroup) (pieces : List Piece) : OpenGroup :=
  pieces.foldl push group

theorem finished_pushAll (group : OpenGroup) (pieces : List Piece) :
    (group.pushAll pieces).finished = group.finished := by
  induction pieces generalizing group with
  | nil => rfl
  | cons piece pieces ih => exact ih (group.push piece)

theorem items_pushAll (group : OpenGroup) (pieces : List Piece) :
    (group.pushAll pieces).items = pieces.reverse ++ group.items := by
  induction pieces generalizing group with
  | nil => rfl
  | cons piece pieces ih =>
      have later := ih (group.push piece)
      simpa [pushAll, push] using later

/-- A repetition changes the last item and nothing else. -/
theorem repeatLast_eq_some {group repeated : OpenGroup} {least : Nat} {most : Option Nat}
    (done : group.repeatLast least most = some repeated) :
    ∃ last others, group.items = last :: others ∧
      repeated = { group with items := last.iterate least most :: others } := by
  unfold repeatLast at done
  split at done
  · next last others items =>
      split at done
      · exact ⟨last, others, items, (Option.some.inj done).symm⟩
      · cases done
  · cases done

end OpenGroup

/-- The tokens that are given pieces. -/
def items (pieces : List Piece) : List Token := pieces.map .item

theorem assemble_items_append (pieces : List Piece) (tokens : List Token) (group : OpenGroup)
    (outer : List OpenGroup) :
    assemble (items pieces ++ tokens) group outer =
      assemble tokens (group.pushAll pieces) outer := by
  induction pieces generalizing group with
  | nil => rfl
  | cons piece pieces ih => exact ih (group.push piece)

/-- What a token makes of the group being read and of the groups around it, if it starts no other
alternative. -/
inductive Step : Token → OpenGroup × List OpenGroup → OpenGroup × List OpenGroup → Prop
  | push {token : Token} {group : OpenGroup} {outer : List OpenGroup} (piece : Piece) :
      Step token (group, outer) (group.push piece, outer)
  | enter {name : Option String} {group : OpenGroup} {outer : List OpenGroup} :
      Step (.groupStart name) (group, outer) (.start, group :: outer)
  | leave {group parent : OpenGroup} {outer : List OpenGroup} (piece : Piece) :
      Step .groupEnd (group, parent :: outer) (parent.push piece, outer)
  | again {least : Nat} {most : Option Nat} {group : OpenGroup} {outer : List OpenGroup}
      (last changed : Piece) (others : List Piece) (here : group.items = last :: others) :
      Step (.times least most) (group, outer) ({ group with items := changed :: others }, outer)

/-- One step of putting tokens together, where the token starts no alternative. -/
theorem exists_step_of_assemble {token : Token} {tokens : List Token} {group : OpenGroup}
    {outer : List OpenGroup} {piece : Piece} (noBar : token ≠ .bar)
    (done : assemble (token :: tokens) group outer = some piece) :
    ∃ next, Step token (group, outer) next ∧ assemble tokens next.1 next.2 = some piece := by
  cases token with
  | item read => exact ⟨_, .push read, done⟩
  | flagSwitch => exact ⟨_, .push .flagSwitch, done⟩
  | groupStart name => exact ⟨_, .enter, done⟩
  | groupEnd =>
      cases outer with
      | nil => simp [assemble] at done
      | cons parent outer => exact ⟨_, .leave _, done⟩
  | bar => exact absurd rfl noBar
  | times least most =>
      simp only [assemble, Option.bind_eq_some_iff] at done
      obtain ⟨repeated, taken, later⟩ := done
      obtain ⟨last, others, here, rfl⟩ := OpenGroup.repeatLast_eq_some taken
      exact ⟨_, .again last (last.iterate least most) others here, later⟩

/-- No open group has alternatives. -/
def Single (state : OpenGroup × List OpenGroup) : Prop :=
  ∀ group ∈ state.1 :: state.2, group.finished = []

theorem Step.single {token : Token} {state next : OpenGroup × List OpenGroup}
    (step : Step token state next) (single : Single state) : Single next := by
  have ⟨current, around⟩ := List.forall_mem_cons.1 single
  cases step with
  | push piece => exact List.forall_mem_cons.2 ⟨current, around⟩
  | enter => exact List.forall_mem_cons.2 ⟨rfl, single⟩
  | leave piece => exact List.forall_mem_cons.2 (List.forall_mem_cons.1 around)
  | again last changed others here => exact List.forall_mem_cons.2 ⟨current, around⟩

/-- What stands at the end of the tokens stands at the end of the row. -/
theorem exists_row_of_assemble_append_items {tokens : List Token} {pieces : List Piece}
    {group : OpenGroup} {outer : List OpenGroup} {piece : Piece} (noBar : Token.bar ∉ tokens)
    (single : Single (group, outer))
    (done : assemble (tokens ++ items pieces) group outer = some piece) :
    ∃ front : List Piece, piece.regex = concat ((front ++ pieces).map Piece.regex) := by
  induction tokens generalizing group outer with
  | nil =>
      rw [List.nil_append, ← List.append_nil (items pieces), assemble_items_append] at done
      cases outer with
      | nil =>
          have contents := Option.some.inj done
          refine ⟨group.items.reverse, ?_⟩
          rw [← contents, OpenGroup.regex_contents, OpenGroup.items_pushAll]
          · simp
          · rw [OpenGroup.finished_pushAll]
            exact single group List.mem_cons_self
      | cons parent outer => simp [assemble] at done
  | cons token tokens ih =>
      rw [List.mem_cons, not_or] at noBar
      obtain ⟨next, step, later⟩ := exists_step_of_assemble (Ne.symm noBar.1) done
      exact ih noBar.2 (step.single single) later

/-! ## The beginning of the row -/

/-- The row of the outermost group begins with these pieces, the last of them first. -/
def BeginsWith (row : List Piece) : OpenGroup → List OpenGroup → Prop
  | group, [] => row <:+ group.items
  | _, parent :: outer => BeginsWith row parent outer

/-- The row begins with these pieces, and none of them is what a repetition would take. -/
def Settled (row : List Piece) : OpenGroup × List OpenGroup → Prop
  | (group, []) => ∃ last others, group.items = last :: others ∧ row <:+ others
  | (_, parent :: outer) => BeginsWith row parent outer

theorem Settled.beginsWith {row : List Piece} {group : OpenGroup} {outer : List OpenGroup}
    (settled : Settled row (group, outer)) : BeginsWith row group outer := by
  cases outer with
  | nil =>
      obtain ⟨last, others, here, begins⟩ := settled
      rw [BeginsWith, here]
      exact begins.trans (List.suffix_cons last others)
  | cons parent outer => exact settled

theorem BeginsWith.settled_push {row : List Piece} {group : OpenGroup}
    {outer : List OpenGroup} (begins : BeginsWith row group outer) (piece : Piece) :
    Settled row (group.push piece, outer) := by
  cases outer with
  | nil => exact ⟨piece, group.items, rfl, begins⟩
  | cons parent outer => exact begins

/-- Every token but a repetition settles what is there; a repetition keeps what is settled. -/
theorem Step.settled {row : List Piece} {token : Token} {state next : OpenGroup × List OpenGroup}
    (step : Step token state next) (settled : Settled row state) : Settled row next := by
  cases step with
  | push piece => exact settled.beginsWith.settled_push piece
  | enter => exact settled.beginsWith
  | leave piece => exact BeginsWith.settled_push settled piece
  | @again _ _ group outer last changed others here =>
      cases outer with
      | nil =>
          obtain ⟨first, rest, items, begins⟩ := settled
          obtain ⟨rfl, rfl⟩ := List.cons.inj (here.symm.trans items)
          exact ⟨changed, others, rfl, begins⟩
      | cons parent outer => exact settled

theorem exists_row_of_settled {row : List Piece} {tokens : List Token} {group : OpenGroup}
    {outer : List OpenGroup} {piece : Piece} (noBar : Token.bar ∉ tokens)
    (single : Single (group, outer)) (settled : Settled row (group, outer))
    (done : assemble tokens group outer = some piece) :
    ∃ back : List Piece, piece.regex = concat ((row.reverse ++ back).map Piece.regex) := by
  induction tokens generalizing group outer with
  | nil =>
      cases outer with
      | nil =>
          obtain ⟨later, whole⟩ := settled.beginsWith
          refine ⟨later.reverse, ?_⟩
          rw [← Option.some.inj done,
            OpenGroup.regex_contents (single group List.mem_cons_self), ← whole]
          simp
      | cons parent outer => simp [assemble] at done
  | cons token tokens ih =>
      rw [List.mem_cons, not_or] at noBar
      obtain ⟨next, step, later⟩ := exists_step_of_assemble (Ne.symm noBar.1) done
      exact ih noBar.2 (step.single single) (step.settled settled) later

/-- What stands at the beginning of the tokens, with no repetition behind it, stands at the
beginning of the row. -/
theorem exists_row_of_assemble_items_append {tokens : List Token} {pieces : List Piece}
    {piece : Piece} (noBar : Token.bar ∉ tokens)
    (unrepeated : ∀ least most rest, tokens ≠ .times least most :: rest)
    (done : assemble (items pieces ++ tokens) .start [] = some piece) :
    ∃ back : List Piece, piece.regex = concat ((pieces ++ back).map Piece.regex) := by
  rw [assemble_items_append] at done
  have single : Single (OpenGroup.start.pushAll pieces, []) := by
    intro group member
    rw [List.mem_singleton] at member
    rw [member, OpenGroup.finished_pushAll]
    rfl
  have row : (OpenGroup.start.pushAll pieces).items = pieces.reverse := by
    rw [OpenGroup.items_pushAll]
    exact List.append_nil _
  cases tokens with
  | nil =>
      have contents := OpenGroup.regex_contents (single _ List.mem_cons_self)
      rw [row, List.reverse_reverse] at contents
      refine ⟨[], ?_⟩
      rw [List.append_nil, ← contents]
      exact congrArg Piece.regex (Option.some.inj done).symm
  | cons token tokens =>
      rw [List.mem_cons, not_or] at noBar
      obtain ⟨next, step, later⟩ := exists_step_of_assemble (Ne.symm noBar.1) done
      have settled : Settled pieces.reverse next := by
        have begins : BeginsWith pieces.reverse (OpenGroup.start.pushAll pieces) [] := by
          unfold BeginsWith
          exact row ▸ List.suffix_refl _
        cases step with
        | push piece => exact begins.settled_push piece
        | enter => exact begins
        | again last changed others here => exact absurd rfl (unrepeated _ _ _)
      have found := exists_row_of_settled noBar.2 (step.single single) settled later
      rwa [List.reverse_reverse] at found

end ElementSearch.Regex
