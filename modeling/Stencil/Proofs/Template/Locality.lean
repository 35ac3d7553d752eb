import Stencil.Proofs.Template.Turn

/-!
# `Stencil.Proofs.Template.Locality`: reading looks ahead and never back

Every production of the grammar is tried at a place, and what it comes to depends
on what follows that place and on nothing before it. What it finds ends further
on. `Template.reading_goes_ahead` says both of each production, at every depth, and
draws the conclusion for a whole template: reading takes turns, each of them goes
ahead, and there are no more of them, one inside of the other or one after the
other, than there are characters.

For the readers both are in `Cursor`: they are given what follows and nothing
else. A conditional reads its body by turns, and those are moved to a longer text
one by one. `OpenBody.readWithin_after` is the induction, on the budget of turns,
and `Template.bodyAt_after` draws from it that a body is the same in a longer text.
-/

set_option autoImplicit false

namespace Stencil

open Template (nodeWith bodyAt)

variable {τ : Type} {settings : Settings} {resolve : Text → Option τ} {depth : Nat}

/-! ### Turns in a longer text -/

/-- The same body in the text that has `u` in front. -/
def OpenBody.after (u : Text) (b : OpenBody τ) : OpenBody τ :=
  { b with here := b.here.after u }

/-- What comes of a turn, in the text that has `u` in front. -/
def Turn.after (u : Text) : Turn τ → Turn τ
  | .ended body => .ended (body.shift u.length)
  | .next b => .next (b.after u)

namespace OpenBody

theorem take_after (b : OpenBody τ) (u : Text) (found : Found (Node τ)) :
    (b.after u).take (found.after u) = (b.take found).after u := by
  cases found with
  | some found => rfl
  | none =>
    show OpenBody.mk _ ((b.here.after u).current?.toList ++ _) (b.here.after u).advance = _
    rw [Cursor.current?, Cursor.rest_after, Cursor.advance_after]
    rfl

/-- **A turn does the same in a longer text**, if what reads the bodies does. -/
theorem turn_after {inner inner' : Cursor → Run (Body τ)} {u : Text}
    (h : ∀ next, inner' (next.after u) = (inner next).moved u.length (Body.shift u.length))
    (b : OpenBody τ) :
    (b.after u).turn settings resolve inner' depth =
      (b.turn settings resolve inner depth).moved u.length (Turn.after u) := by
  have hfound : (nodeWith settings resolve inner' depth (b.here.after u) >>= fun found =>
      pure (.next ((b.after u).take found))) =
        (nodeWith settings resolve inner depth b.here >>= fun found =>
          pure (Turn.next (b.take found))).moved u.length (Turn.after u) := by
    rw [Template.nodeWith_after h]
    refine Run.moved_bind fun found _ => ?_
    rw [take_after]
    rfl
  have hend : (b.here.after u).atEnd = b.here.atEnd := b.here.atEnd_after u
  unfold turn
  simp only [after, hend, Cursor.read?_after]
  by_cases hatEnd : b.here.atEnd = true
  · rw [if_pos hatEnd, if_pos hatEnd]
    rfl
  · rw [if_neg hatEnd, if_neg hatEnd]
    cases b.here.read? closer? with
    | none => exact hfound
    | some closer =>
      obtain ⟨name, next⟩ := closer
      simp only [Option.map_some]
      by_cases hclose : name = ifName ∧ 0 < depth
      · rw [if_pos hclose, if_pos hclose]
        rfl
      · rw [if_neg hclose, if_neg hclose]
        exact Run.moved_meet_bind fun _ => hfound

/-- **A loop of turns does the same in a longer text.** The induction is on the
budget, and goes through the loops of the bodies as well. -/
theorem readWithin_after (spent : Run (Body τ)) (budget : Nat) (b : OpenBody τ) (u : Text) :
    (b.after u).readWithin settings resolve (spent.moved u.length (Body.shift u.length))
        budget depth =
      (b.readWithin settings resolve spent budget depth).moved u.length
        (Body.shift u.length) := by
  induction budget generalizing depth b with
  | zero => rfl
  | succ budget ih =>
    rw [readWithin, readWithin, turn_after fun next => ih (start next)]
    refine Run.moved_bind fun turn _ => ?_
    cases turn with
    | ended body => rfl
    | next b' => exact ih b'

end OpenBody

namespace Template

/-- **A body is read in a longer text as in a shorter one.** -/
theorem bodyAt_after (c : Cursor) (u : Text) :
    bodyAt settings resolve depth (c.after u) =
      (bodyAt settings resolve depth c).moved u.length (Body.shift u.length) := by
  -- Any budget will do that is large enough, and the same one on either side.
  let spent : Run (Body τ) := pure ⟨[], none⟩
  have hread (c : Cursor) : bodyAt settings resolve depth c =
      (OpenBody.start c).readWithin settings resolve spent (c.rest.length + 1) depth := by
    rw [OpenBody.readWithin_eq spent (OpenBody.start c) (Nat.lt_succ_self c.rest.length),
      OpenBody.read_start]
  rw [hread, hread, Cursor.rest_after, ← OpenBody.readWithin_after]
  rfl

/-- **A conditional is found in a longer text as in a shorter one**, at whatever
depth it is looked for. -/
theorem conditional_after (c : Cursor) (u : Text) :
    conditional settings resolve depth (c.after u) =
      (conditional settings resolve depth c).moved u.length (Found.after u) :=
  conditionalWith_after (fun next => bodyAt_after next u) c

end Template

/-! ### All productions -/

/-- The productions of the grammar, each with the type of what it finds. Those of
conditions are tried inside of as many groups and negations, and a conditional is
tried inside of as many others. -/
inductive Production (τ : Type) : Type → Type where
  | identifier : Production τ Text
  | segment : Production τ Segment
  | path : Production τ Path
  | comparator : Production τ Comparator
  | comparison : Production τ Condition
  | condition (part : Condition.Part) (depth : Nat) : Production τ Condition
  | guard : Production τ Condition
  | closer : Production τ Text
  | interpolation : Production τ (Node τ)
  | conditional (depth : Nat) : Production τ (Node τ)

namespace Production

variable {α : Type}

/-- Tries a production at a place. A reader gives no notices and does not fail. -/
def tryAt (settings : Settings) (resolve : Text → Option τ) :
    {α : Type} → Production τ α → Cursor → Run (Found α)
  | _, .identifier, c => pure (c.read? Text.identifier?)
  | _, .segment, c => pure (c.read? segment?)
  | _, .path, c => pure (c.read? path?)
  | _, .comparator, c => pure (c.read? comparator?)
  | _, .comparison, c => pure (c.read? Condition.comparison?)
  | _, .condition part depth, c => pure (c.read? (part.read? depth))
  | _, .guard, c => pure (c.read? guard?)
  | _, .closer, c => pure (c.read? closer?)
  | _, .interpolation, c => Template.interpolation settings resolve c
  | _, .conditional depth, c => Template.conditional settings resolve depth c

theorem tryAt_ahead (p : Production τ α) {c d : Cursor} {a : α}
    (h : (p.tryAt settings resolve c).outcome = .ok (some (a, d))) : c.Ahead d := by
  have hread {β : Type} {read : Reader β} {x : β} (hadvances : read.Advances)
      (h : (pure (c.read? read) : Run (Found β)).outcome = .ok (some (x, d))) : c.Ahead d :=
    Cursor.read?_ahead hadvances (Except.ok.inj h)
  cases p with
  | identifier => exact hread Text.identifier?_advances h
  | segment => exact hread segment?_advances h
  | path => exact hread path?_advances h
  | comparator => exact hread comparator?_advances h
  | comparison => exact hread Condition.comparison?_advances h
  | condition part depth => exact hread (part.read?_advances depth) h
  | guard => exact hread guard?_advances h
  | closer => exact hread closer?_advances h
  | interpolation => exact Template.interpolation_ahead h
  | conditional depth => exact Template.conditional_ahead h

theorem tryAt_after (p : Production τ α) (c : Cursor) (u : Text) :
    p.tryAt settings resolve (c.after u) =
      (p.tryAt settings resolve c).moved u.length (Found.after u) := by
  have hread {β : Type} (read : Reader β) : (pure ((c.after u).read? read) : Run (Found β)) =
      Run.moved u.length (Found.after u) (pure (c.read? read)) := by
    rw [Cursor.read?_after]
    rfl
  cases p with
  | interpolation => exact Template.interpolation_after c u
  | conditional depth => exact Template.conditional_after c u
  | _ => exact hread _

end Production

/-! ### Whole templates -/

namespace Template

/-- **Reading goes ahead, and never looks back.** What any production finds ends
ahead of the place where it was tried, in the same text. In a text that has `u` in
front it comes to the same, whether that is nothing, something or an error, with
all offsets so much further on. A body is read by turns, and a turn that goes on
does so ahead. So a template is read on a budget of one turn more than it has
characters, and nothing ever asks what would come of a budget that is spent. -/
theorem reading_goes_ahead (settings : Settings) (resolve : Text → Option τ) :
    (∀ {α : Type} (p : Production τ α) (c : Cursor),
      (∀ a d, (p.tryAt settings resolve c).outcome = .ok (some (a, d)) → c.Ahead d) ∧
        ∀ u, p.tryAt settings resolve (c.after u) =
          (p.tryAt settings resolve c).moved u.length (Found.after u)) ∧
      (∀ (depth : Nat) (b : OpenBody τ),
        let turn := b.turn settings resolve (bodyAt settings resolve (depth + 1)) depth
        b.read settings resolve depth = turn >>= Turn.goOn (OpenBody.read settings resolve depth) ∧
          ∀ b', turn.outcome = .ok (.next b') → b.here.Ahead b'.here) ∧
      ∀ (s : Text) (spent : Run (Body τ)), parse settings resolve s = (do
        let body ← (OpenBody.start ⟨s, 0⟩).readWithin settings resolve spent (s.length + 1) 0
        pure body.nodes) := by
  refine ⟨fun p c => ⟨fun a d h => p.tryAt_ahead h, fun u => p.tryAt_after c u⟩,
    fun depth b => ⟨b.read_eq_turn depth, fun b' h => OpenBody.turn_ahead h⟩,
    fun s spent => ?_⟩
  rw [OpenBody.readWithin_eq spent (OpenBody.start ⟨s, 0⟩) (Nat.lt_succ_self s.length),
    OpenBody.read_start]
  rfl

/-- A conditional behind one character of text. It is found outside of all others,
and refused inside of as many as there may be, where it stands as two characters
further on. -/
theorem reading_goes_ahead_conditional :
    let settings : Settings := ⟨true, 1, by decide⟩
    let resolve : Text → Option Unit := fun _ => none
    let tryAt (depth : Nat) (c : Cursor) : Except TemplateError (Found (Node Unit)) :=
      ((Production.conditional depth).tryAt settings resolve c).outcome
    let c : Cursor := ⟨['y', '<', '#', 'i', 'f', '(', 'a', '<', 'b', ')', '>', 'x', '<', '/', '#',
      'i', 'f', '>'], 1⟩
    let d : Cursor := { c with offset := 18 }
    let u : Text := ['%', '\x7b']
    let node : Node Unit :=
      .conditional (.compare ⟨['a'], []⟩ .less ⟨['b'], []⟩) [.literal ['x']]
    tryAt 0 c = .ok (some (node, d)) ∧ c.Ahead d ∧
      tryAt 0 (c.after u) = .ok (some (node, d.after u)) ∧
      tryAt 1 c = .error ⟨.tooDeep 1, 1⟩ ∧ tryAt 1 (c.after u) = .error ⟨.tooDeep 1, 3⟩ := by
  intro settings resolve tryAt c d u node
  have hproper : (Condition.Spelling.compare ⟨['a'], []⟩ Text.Blank.none .less Text.Blank.none
      ⟨['b'], []⟩).IsProper := ⟨by decide, by decide⟩
  let l : Lexeme.Opener := ⟨Text.Blank.none, Text.Blank.none, Text.Blank.none, _,
    Text.Blank.none, Text.Blank.none, hproper⟩
  have hfront : front c.rest =
      .construct (.opener l.condition.value) ['x', '<', '/', '#', 'i', 'f', '>'] :=
    front_eq_construct_iff.mpr ⟨.opener l, Nat.zero_le _, rfl, rfl⟩
  have hopening : opening? c.rest = some ('i' :: 'f' :: c.rest.drop 4) := by decide
  -- What is tried is told by what stands at the front.
  have htry (depth : Nat) : tryAt depth c = (nodeWith settings resolve
      (bodyAt settings resolve (depth + 1)) depth c).outcome := by
    rw [nodeWith_of_opening? hopening]
    rfl
  have hfound : tryAt 0 c = .ok (some (node, d)) := by
    have hcloser : front ['<', '/', '#', 'i', 'f', '>'] = .construct (.closer ifName) [] := by
      decide
    have hbody : bodyAt settings resolve 1 { c with offset := 11 } =
        pure ⟨[.literal ['x']], some 18⟩ := by
      show scan settings resolve 1 11 [] ['x', '<', '/', '#', 'i', 'f', '>'] = _
      rw [scan_of_plain (by decide), scan_of_closer hcloser (by decide)]
      rfl
    have hnext : c.moveTo ['x', '<', '/', '#', 'i', 'f', '>'] = { c with offset := 11 } := rfl
    rw [htry, nodeWith_eq, hfront]
    simp only [enclosing, hnext, hbody]
    rfl
  have hrefused : tryAt 1 c = .error ⟨.tooDeep 1, 1⟩ := by
    rw [htry, nodeWith_eq, hfront]
    rfl
  -- In the longer text both follow from the theorem.
  have h (depth : Nat) := (reading_goes_ahead settings resolve).1 (.conditional depth) c
  have hafter (depth : Nat) : tryAt depth (c.after u) =
      ((tryAt depth c).map (Found.after u)).mapError (TemplateError.shift 2) := by
    show ((Production.conditional depth).tryAt settings resolve (c.after u)).outcome = _
    rw [(h depth).2 u, Run.moved_outcome]
    rfl
  refine ⟨hfound, (h 0).1 node d hfound, ?_, hrefused, ?_⟩
  · rw [hafter, hfound]
    rfl
  · rw [hafter, hrefused]
    rfl

end Template

end Stencil
