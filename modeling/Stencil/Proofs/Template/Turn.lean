import Stencil.Proofs.Template.Production

/-!
# `Stencil.Proofs.Template.Turn`: reading, one turn after the other

A body is read in a loop. A turn of it looks at one place. There the text may be
at its end, or the closing tag of the body may stand, and the body is over.
Otherwise the turn takes a node or else one character as text, and the loop goes
on behind that. `OpenBody` is what the loop has so far and `OpenBody.turn` is
one turn of it, put together from the productions of `Template.Production`.
`OpenBody.read_eq_turn` says that the reading of this library is that loop.

Every turn that goes on does so ahead (`OpenBody.turn_ahead`), and the body of a
conditional begins ahead of the conditional as well. So there is an end to the
turns of a loop and to the loops inside of loops. `OpenBody.readWithin` reads on a
budget: a turn costs one, for the turns after it and for those of the bodies in
it. If the budget is larger than what is left of the text, it is never spent, and
what comes of it is the reading (`OpenBody.readWithin_eq`).
-/

set_option autoImplicit false

namespace Stencil

open Template (nodeWith bodyAt scan enclosing reject)

variable {τ : Type}

/-- A body that is being read: its nodes so far, the text that is pending after
them, latest character first, and the place where reading is. -/
structure OpenBody (τ : Type) where
  nodes : List (Node τ)
  pending : Text
  here : Cursor

/-- What comes of a turn: the body is over, or there is a next turn. -/
inductive Turn (τ : Type) where
  | ended (body : Body τ)
  | next (b : OpenBody τ)

namespace OpenBody

/-- A body of which nothing is read yet. -/
def start (c : Cursor) : OpenBody τ :=
  ⟨[], [], c⟩

section

variable (b : OpenBody τ)

/-- The nodes of the body, the text after them as a literal if there is any. -/
def flushed : List (Node τ) :=
  b.nodes ++ Body.literal b.pending

/-- Goes on behind what was found. If nothing was, the character is text. -/
def take : Found (Node τ) → OpenBody τ
  | some (node, next) => ⟨b.flushed ++ [node], [], next⟩
  | none => { b with
    pending := b.here.current?.toList ++ b.pending
    here := b.here.advance }

end

section

variable (settings : Settings) (resolve : Text → Option τ)

/-- One turn inside of as many conditionals. The bodies of conditionals are read
by `inner`. -/
def turn (inner : Cursor → Run (Body τ)) (depth : Nat) (b : OpenBody τ) : Run (Turn τ) :=
  if b.here.atEnd then pure (.ended ⟨b.flushed, none⟩)
  else
    match b.here.read? closer? with
    | some (name, next) =>
      if name = ifName ∧ 0 < depth then pure (.ended ⟨b.flushed, some next.offset⟩)
      else do
        Run.meet settings.strict (.broken (.strayCloser name)) b.here.offset
        let found ← nodeWith settings resolve inner depth b.here
        pure (.next (b.take found))
    | none => do
      let found ← nodeWith settings resolve inner depth b.here
      pure (.next (b.take found))

/-- What is left of a body is read by the scan. -/
def read (depth : Nat) (b : OpenBody τ) : Run (Body τ) :=
  (·.after b.nodes) <$> scan settings resolve depth b.here.offset b.pending b.here.rest

end

end OpenBody

/-- Goes on after a turn if the body is not over. -/
def Turn.goOn (next : OpenBody τ → Run (Body τ)) : Turn τ → Run (Body τ)
  | .ended body => pure body
  | .next b => next b

namespace OpenBody

variable {settings : Settings} {resolve : Text → Option τ} {depth : Nat} {b b' : OpenBody τ}

/-! ### Reading is a loop of turns -/

theorem read_start (c : Cursor) :
    (start c : OpenBody τ).read settings resolve depth = bodyAt settings resolve depth c :=
  id_map _

/-- What is read after a character that is text. -/
theorem read_take_none {c : Char} {tail : Text} (hrest : b.here.rest = c :: tail) :
    (b.take none).read settings resolve depth =
      (·.after b.nodes) <$>
        scan settings resolve depth (b.here.offset + 1) (c :: b.pending) tail := by
  have hsuffix : tail <:+ b.here.rest := hrest ▸ List.suffix_cons c tail
  have hcurrent : b.here.current? = some c := by rw [Cursor.current?, hrest, List.head?_cons]
  have hoffset : (b.here.moveTo tail).offset = b.here.offset + 1 := by
    rw [Cursor.moveTo, hrest, List.length_cons, Nat.add_sub_cancel_left]
  simp only [read, take, Cursor.advance_eq_moveTo hrest, Cursor.rest_moveTo hsuffix, hoffset,
    hcurrent]
  rfl

/-- What is read behind a node. -/
theorem read_take_some (node : Node τ) (next : Cursor) :
    (b.take (some (node, next))).read settings resolve depth =
      (·.after b.nodes) <$> (do
        let body ← bodyAt settings resolve depth next
        pure (body.after (Body.literal b.pending ++ [node]))) := by
  simp only [read, take, bodyAt, flushed, map_bind, map_pure, Body.after]
  rw [map_eq_pure_bind]
  refine Run.bind_congr fun body _ => ?_
  simp only [List.append_assoc]

/-- A turn at the end of the text. -/
theorem turn_of_nil {inner : Cursor → Run (Body τ)} (hrest : b.here.rest = []) :
    b.turn settings resolve inner depth = pure (.ended ⟨b.flushed, none⟩) := by
  have hend : b.here.atEnd = true := by simpa [Cursor.atEnd, Cursor.rest] using hrest
  rw [turn, if_pos hend]

/-- A turn before the end of the text is told by what stands at the front. -/
theorem turn_of_ne_nil {inner : Cursor → Run (Body τ)} (hrest : b.here.rest ≠ []) :
    b.turn settings resolve inner depth =
      match front b.here.rest with
      | .construct (.closer name) left =>
        if name = ifName ∧ 0 < depth then
          pure (.ended ⟨b.flushed, some (b.here.moveTo left).offset⟩)
        else (do
          Run.meet settings.strict (.broken (.strayCloser name)) b.here.offset
          pure (.next (b.take none)))
      | .construct (.opener condition) left =>
        if settings.maxDepth ≤ depth then Run.fail (.tooDeep settings.maxDepth) b.here.offset
        else (do
          let found ← enclosing inner b.here condition (b.here.moveTo left)
          pure (.next (b.take found)))
      | .construct (.interpolation path name) left => (do
        let transform ← Template.resolved settings resolve b.here.offset name
        pure (.next (b.take (some (.interpolation path transform, b.here.moveTo left)))))
      | .broken defect => (do
        Run.meet settings.strict (.broken defect) b.here.offset
        pure (.next (b.take none)))
      | .plain => pure (.next (b.take none)) := by
  have hend : ¬ b.here.atEnd = true := by simpa [Cursor.atEnd, Cursor.rest] using hrest
  rw [turn, if_neg hend, Cursor.read?]
  cases hcloser : closer? b.here.rest with
  | some found =>
    -- Where a closing tag stands, no node is found in its place.
    obtain ⟨hopening, hword⟩ := Template.unmarked_of_closer? hcloser
    rw [Template.nodeWith_of_unmarked hopening hword, Template.front_eq_closer_iff.mpr hcloser]
    rfl
  | none =>
    simp only [Option.map_none, Template.nodeWith_eq]
    cases hfront : front b.here.rest with
    | plain => rfl
    | broken defect => simp only [reject, bind_assoc, pure_bind]
    | construct construct left =>
      cases construct with
      | closer name =>
        rw [Template.front_eq_closer_iff.mp hfront] at hcloser
        cases hcloser
      | opener condition =>
        by_cases hdepth : settings.maxDepth ≤ depth
        · simp only [if_pos hdepth, Run.fail_bind]
        · simp only [if_neg hdepth]
      | interpolation path name => simp only [bind_assoc, pure_bind]

/-- What is read after a conditional, whose body has been read. -/
theorem read_enclosing {condition : Condition} {left : Text} (hleft : left <:+ b.here.rest) :
    (enclosing (bodyAt settings resolve (depth + 1)) b.here condition (b.here.moveTo left) >>=
        fun found => (b.take found).read settings resolve depth) =
      (·.after b.nodes) <$> (do
        let inner ← scan settings resolve (depth + 1) (b.here.moveTo left).offset [] left
        match inner.stop with
        | none => Run.fail (.unterminated ifName) b.here.offset
        | some stop =>
          let body ← scan settings resolve depth stop []
            (left.drop (stop - (b.here.moveTo left).offset))
          pure (body.after (Body.literal b.pending ++ [.conditional condition inner.nodes]))) := by
  rw [enclosing, bodyAt, Cursor.rest_moveTo hleft, bind_assoc, map_bind]
  refine Run.bind_congr fun inner hinner => ?_
  cases hstop : inner.stop with
  | none => rfl
  | some stop =>
    -- The text behind the closing tag is cut from the whole text or from what is left.
    have hle := Template.scan_le_stop hinner stop hstop
    have hrest : Cursor.rest { b.here.moveTo left with offset := stop } =
        left.drop (stop - (b.here.moveTo left).offset) := by
      rw [Cursor.rest_later hle, Cursor.rest_moveTo hleft]
    simp only [pure_bind, read_take_some, bodyAt, hrest]

/-- **Reading is a loop of turns.** -/
theorem read_eq_turn (depth : Nat) (b : OpenBody τ) :
    b.read settings resolve depth =
      b.turn settings resolve (bodyAt settings resolve (depth + 1)) depth >>=
        Turn.goOn (read settings resolve depth) := by
  cases hrest : b.here.rest with
  | nil =>
    rw [turn_of_nil hrest, pure_bind, read, hrest, Template.scan_nil]
    rfl
  | cons c tail =>
    have hne : b.here.rest ≠ [] := by simp [hrest]
    have htext : (b.take none).read settings resolve depth = _ := read_take_none hrest
    rw [turn_of_ne_nil hne, hrest, read, hrest]
    cases hfront : front (c :: tail) with
    | plain =>
      rw [Template.scan_of_plain hfront, pure_bind]
      exact htext.symm
    | broken defect =>
      rw [Template.scan_of_broken hfront, map_bind, bind_assoc]
      refine Run.bind_congr fun _ _ => ?_
      rw [pure_bind]
      exact htext.symm
    | construct construct left =>
      have hleft : left <:+ b.here.rest := hrest ▸ (front_advances hfront).1
      have hoffset : b.here.offset + ((c :: tail).length - left.length) =
          (b.here.moveTo left).offset := by rw [← hrest]; rfl
      cases construct with
      | closer name =>
        by_cases hclose : name = ifName ∧ 0 < depth
        · obtain ⟨rfl, hdepth⟩ := hclose
          rw [Template.scan_of_closer hfront hdepth, hoffset]
          simp only [true_and, if_pos hdepth]
          rfl
        · rw [Template.scan_of_strayCloser hfront hclose, map_bind]
          simp only [if_neg hclose, bind_assoc]
          refine Run.bind_congr fun _ _ => ?_
          rw [pure_bind]
          exact htext.symm
      | interpolation path name =>
        rw [Template.scan_of_interpolation hfront, hoffset, map_bind, bind_assoc]
        refine Run.bind_congr fun transform _ => ?_
        rw [pure_bind, Turn.goOn, read_take_some, bodyAt, Cursor.rest_moveTo hleft]
      | opener condition =>
        by_cases hdepth : settings.maxDepth ≤ depth
        · rw [Template.scan_of_tooDeep hfront hdepth]
          simp only [if_pos hdepth]
          rfl
        · rw [Template.scan_of_opener hfront (Int.not_le.mp hdepth), hoffset]
          simp only [if_neg hdepth, bind_assoc, pure_bind, Turn.goOn]
          exact (read_enclosing hleft).symm

/-! ### Every turn goes ahead -/

/-- **A turn that goes on does so ahead.** -/
theorem turn_ahead (h : (b.turn settings resolve (bodyAt settings resolve (depth + 1))
    depth).outcome = .ok (.next b')) : b.here.Ahead b'.here := by
  -- Whether something is found or not, the next place is ahead.
  have htake : b.here.rest ≠ [] → ∀ {found : Found (Node τ)},
      (nodeWith settings resolve (bodyAt settings resolve (depth + 1)) depth b.here).outcome =
        .ok found → b.here.Ahead (b.take found).here := by
    intro hne found hfound
    cases found with
    | some found => exact Template.node_ahead hfound
    | none =>
      obtain ⟨c, tail, hrest⟩ := List.exists_cons_of_ne_nil hne
      show b.here.Ahead b.here.advance
      rw [Cursor.advance_eq_moveTo hrest]
      exact Cursor.ahead_moveTo (by rw [hrest, List.length_cons]; omega)
  by_cases hrest : b.here.rest = []
  · rw [turn_of_nil hrest] at h
    cases h
  · unfold turn at h
    split at h
    · cases h
    · split at h
      · split at h
        · cases h
        · obtain ⟨_, -, h⟩ := Run.bind_outcome_eq_ok_iff.mp h
          obtain ⟨found, hfound, h⟩ := Run.bind_outcome_eq_ok_iff.mp h
          cases h
          exact htake hrest hfound
      · obtain ⟨found, hfound, h⟩ := Run.bind_outcome_eq_ok_iff.mp h
        cases h
        exact htake hrest hfound

/-! ### An end to the turns -/

/-- Reads a body on a budget of turns. Each turn costs one, and leaves as many for
the turns after it and for those of a body in it. Where nothing is left, `spent`
is given. -/
def readWithin (settings : Settings) (resolve : Text → Option τ) (spent : Run (Body τ)) :
    Nat → Nat → OpenBody τ → Run (Body τ)
  | 0, _, _ => spent
  | budget + 1, depth, b =>
    b.turn settings resolve
      (fun next => readWithin settings resolve spent budget (depth + 1) (start next)) depth >>=
        Turn.goOn (readWithin settings resolve spent budget depth)

/-- Of what reads the bodies it matters only what it does further ahead. -/
theorem turn_congr {inner inner' : Cursor → Run (Body τ)}
    (h : ∀ next, b.here.Ahead next → inner next = inner' next) :
    b.turn settings resolve inner depth = b.turn settings resolve inner' depth := by
  unfold turn
  rw [Template.nodeWith_congr h]

/-- **A budget that is larger than what is left of the text is never spent**, and
what comes of it is the reading. The induction is on the budget. -/
theorem readWithin_eq (spent : Run (Body τ)) {budget : Nat} (b : OpenBody τ)
    (h : b.here.rest.length < budget) :
    b.readWithin settings resolve spent budget depth = b.read settings resolve depth := by
  induction budget generalizing depth b with
  | zero => exact absurd h (Nat.not_lt_zero _)
  | succ budget ih =>
    have hbodies : ∀ next, b.here.Ahead next →
        readWithin settings resolve spent budget (depth + 1) (start next) =
          bodyAt settings resolve (depth + 1) next := by
      intro next hnext
      have := hnext.length_rest_lt
      rw [ih (start next) (by show next.rest.length < budget; omega), read_start]
    rw [readWithin, turn_congr hbodies, read_eq_turn]
    refine Run.bind_congr fun turn hturn => ?_
    cases turn with
    | ended body => rfl
    | next b' =>
      have := (turn_ahead hturn).length_rest_lt
      exact ih b' (by omega)

end OpenBody

end Stencil
