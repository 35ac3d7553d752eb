import Stencil.Proofs.Condition.Limit
import Stencil.Proofs.Template.Concatenation

/-!
# `Stencil.Proofs.Template.Production`: the productions of a template at a place

`Template.scan` asks `front` what stands at a place and goes on from there. Here
the two nodes that begin with a mark are productions of their own, each tried
at a cursor: `Template.interpolation` and `Template.conditionalWith`. What an
attempt finds is a `Found`. That may be nothing, and then reading stays at the
cursor, or it is a node and the place after it. On the way there may be notices,
and the attempt may fail.

A conditional has a body, and what reads the body is a parameter. With the
reader of this library in its place the production is `Template.conditional`.
Where either node is looked for, `Template.nodeWith_eq` tells what is found by
`front`.

Two facts are shown of either production.

* `interpolation_ahead`, `conditional_ahead`: what is found ends ahead of the
  place where it was looked for.
* `interpolation_after`, `conditionalWith_after`: in a text that has another one
  in front the same is found, so much further on, with the same notices and the
  same error so much further on.
-/

set_option autoImplicit false

namespace Stencil

open Text (word?)

/-! ### Attempts -/

/-- The same body so much further on. -/
def Body.shift {τ : Type} (k : Nat) (body : Body τ) : Body τ :=
  { body with stop := body.stop.map (k + ·) }

/-- What an attempt finds: nothing, or a value and the place after it. -/
abbrev Found (α : Type) := Option (α × Cursor)

/-- The same in the text that has `u` in front. -/
def Found.after {α : Type} (u : Text) (found : Found α) : Found α :=
  found.map fun (a, next) => (a, next.after u)

namespace Template

variable {τ : Type}

section

variable (settings : Settings)

/-- Rejects what begins at the place. -/
def reject (c : Cursor) (defect : Defect) : Run (Found (Node τ)) := do
  Run.meet settings.strict (.broken defect) c.offset
  pure none

/-- Looks for an interpolation. -/
def interpolation (resolve : Text → Option τ) (c : Cursor) : Run (Found (Node τ)) :=
  match word? ['%', '\x7b'] c.rest with
  | none => pure none
  | some rest =>
    match interpolationFront rest with
    | .construct (.interpolation path name) left => do
      let transform ← resolved settings resolve c.offset name
      pure (some (.interpolation path transform, c.moveTo left))
    | .broken defect => reject settings c defect
    | _ => pure none

/-- Reads the body of a conditional that begins at `c`, from `next` on. A closing
tag has to end it. -/
def enclosing (inner : Cursor → Run (Body τ)) (c : Cursor) (condition : Condition)
    (next : Cursor) : Run (Found (Node τ)) := do
  let body ← inner next
  match body.stop with
  | none => Run.fail (.unterminated ifName) c.offset
  | some stop => pure (some (.conditional condition body.nodes, { next with offset := stop }))

/-- Looks for a conditional inside of as many others. Its body is read by
`inner`. -/
def conditionalWith (inner : Cursor → Run (Body τ)) (depth : Nat) (c : Cursor) :
    Run (Found (Node τ)) :=
  match opening? c.rest with
  | none => pure none
  | some rest =>
    match openerFront rest with
    | .construct (.opener condition) left =>
      if settings.maxDepth ≤ depth then Run.fail (.tooDeep settings.maxDepth) c.offset
      else enclosing inner c condition (c.moveTo left)
    | .broken defect => reject settings c defect
    | _ => pure none

/-- Looks for a node: a conditional, or else an interpolation. -/
def nodeWith (resolve : Text → Option τ) (inner : Cursor → Run (Body τ)) (depth : Nat)
    (c : Cursor) : Run (Found (Node τ)) := do
  match ← conditionalWith settings inner depth c with
  | some found => pure (some found)
  | none => interpolation settings resolve c

/-- Reads a body from the place on. -/
def bodyAt (resolve : Text → Option τ) (depth : Nat) (c : Cursor) : Run (Body τ) :=
  scan settings resolve depth c.offset [] c.rest

/-- Looks for a conditional inside of as many others. -/
def conditional (resolve : Text → Option τ) (depth : Nat) (c : Cursor) : Run (Found (Node τ)) :=
  conditionalWith settings (bodyAt settings resolve (depth + 1)) depth c

end

/-! ### What is found at a place -/

section Front

variable {settings : Settings} {resolve : Text → Option τ} {depth : Nat} {c : Cursor}
  {inner : Cursor → Run (Body τ)}

/-- A closing tag is found at the front if and only if one is read there. -/
theorem front_eq_closer_iff {s name rest : Text} :
    front s = .construct (.closer name) rest ↔ closer? s = some (name, rest) := by
  constructor
  · intro h
    obtain ⟨l, -, hconstruct, hs⟩ := front_eq_construct_iff.mp h
    cases l with
    | closer l =>
      cases hconstruct
      exact closer?_eq_some_iff.mpr ⟨l, rfl, hs⟩
    | _ => cases hconstruct
  · intro h
    simp only [front, h]

/-- Only the opening tag of a conditional begins as one. -/
theorem exists_of_openerFront {s rest : Text} {construct : Construct}
    (h : openerFront s = .construct construct rest) :
    ∃ condition, construct = .opener condition := by
  unfold openerFront at h
  repeat' split at h
  all_goals cases h
  exact ⟨_, rfl⟩

theorem exists_of_interpolationFront {s rest : Text} {construct : Construct}
    (h : interpolationFront s = .construct construct rest) :
    ∃ path name, construct = .interpolation path name := by
  unfold interpolationFront at h
  repeat' split at h
  all_goals cases h
  exact ⟨_, _, rfl⟩

/-- Neither of the two begins where a closing tag stands. -/
theorem unmarked_of_closer? {s : Text} {found : Text × Text} (h : closer? s = some found) :
    opening? s = none ∧ word? ['%', '\x7b'] s = none := by
  obtain ⟨l, -, rfl⟩ := closer?_eq_some_iff.mp h
  refine ⟨?_, rfl⟩
  rw [Option.eq_none_iff_forall_ne_some]
  intro rest hopening
  obtain ⟨w, htext⟩ := opening?_eq_some_iff.mp hopening
  -- Their second signs differ, with or without white space before them.
  simp only [Lexeme.Closer.text, List.cons_append, List.append_assoc] at htext
  have hsign := (Text.blank_delimiter_inj (by decide) (by decide) (List.cons.inj htext).2).2.1
  exact absurd hsign (by decide)

/-- Where neither of the two begins, nothing is found. -/
theorem nodeWith_of_unmarked (hopening : opening? c.rest = none)
    (hword : word? ['%', '\x7b'] c.rest = none) :
    nodeWith settings resolve inner depth c = pure none := by
  simp only [nodeWith, conditionalWith, interpolation, hopening, hword]
  rfl

/-- Where an opening tag begins, nothing but a conditional is found. -/
theorem nodeWith_of_opening? {rest : Text} (h : opening? c.rest = some rest) :
    nodeWith settings resolve inner depth c = conditionalWith settings inner depth c := by
  have hnone : interpolation settings resolve c = pure none := by
    simp only [interpolation, word?_eq_none_of_opening? h]
  rw [nodeWith, hnone]
  refine Eq.trans (Run.bind_congr fun found _ => ?_) (bind_pure _)
  cases found <;> rfl

/-- Where none begins, nothing but an interpolation is found. -/
theorem nodeWith_of_not_opening? (h : opening? c.rest = none) :
    nodeWith settings resolve inner depth c = interpolation settings resolve c := by
  simp only [nodeWith, conditionalWith, h, pure_bind]

/-- **What is found** is told by what stands at the front. -/
theorem nodeWith_eq (c : Cursor) : nodeWith settings resolve inner depth c =
    match front c.rest with
    | .construct (.opener condition) left =>
      if settings.maxDepth ≤ depth then Run.fail (.tooDeep settings.maxDepth) c.offset
      else enclosing inner c condition (c.moveTo left)
    | .construct (.interpolation path name) left => (do
      let transform ← resolved settings resolve c.offset name
      pure (some (.interpolation path transform, c.moveTo left)))
    | .broken defect => reject settings c defect
    | _ => pure none := by
  cases hcloser : closer? c.rest with
  | some found =>
    obtain ⟨hopening, hword⟩ := unmarked_of_closer? hcloser
    rw [nodeWith_of_unmarked hopening hword, front_eq_closer_iff.mpr hcloser]
  | none =>
    cases hopening : opening? c.rest with
    | some rest =>
      have hfront : front c.rest = openerFront rest := by simp only [front, hcloser, hopening]
      rw [nodeWith_of_opening? hopening, conditionalWith, hopening, hfront]
      cases hopener : openerFront rest with
      | construct construct left =>
        obtain ⟨condition, rfl⟩ := exists_of_openerFront hopener
        simp only [hopener]
      | _ => simp only [hopener]
    | none =>
      rw [nodeWith_of_not_opening? hopening, interpolation]
      cases hword : word? ['%', '\x7b'] c.rest with
      | none => simp only [front, hcloser, hopening, hword]
      | some rest =>
        have hfront : front c.rest = interpolationFront rest := by
          simp only [front, hcloser, hopening, hword]
        rw [hfront]
        cases hinterpolation : interpolationFront rest with
        | construct construct left =>
          obtain ⟨path, name, rfl⟩ := exists_of_interpolationFront hinterpolation
          simp only [hinterpolation]
        | _ => simp only [hinterpolation]

end Front

/-! ### What is found lies ahead -/

section Ahead

variable {settings : Settings} {resolve : Text → Option τ} {depth : Nat} {c d : Cursor}
  {node : Node τ}

/-- What is rejected is not found. -/
theorem reject_outcome_ne {defect : Defect} {found : Node τ × Cursor} :
    (reject settings c defect).outcome ≠ .ok (some found) := by
  intro h
  obtain ⟨_, -, h⟩ := Run.bind_outcome_eq_ok_iff.mp h
  cases h

/-- **An interpolation that is found ends ahead.** -/
theorem interpolation_ahead
    (h : (interpolation settings resolve c).outcome = .ok (some (node, d))) : c.Ahead d := by
  unfold interpolation at h
  split at h
  · cases h
  · rename_i rest hword
    split at h
    · rename_i path name left hfront
      obtain ⟨transform, -, h⟩ := Run.bind_outcome_eq_ok_iff.mp h
      cases h
      -- The two characters of the mark are taken, and what follows leaves a suffix.
      have hsuffix := (suffix_of_interpolationFront hfront).length_le
      refine Cursor.ahead_moveTo ?_
      rw [Text.word?_eq_some_iff.mp hword, List.length_append, List.length_cons]
      omega
    · exact absurd h reject_outcome_ne
    · cases h

/-- What is left after an opening tag lies ahead. -/
theorem ahead_of_openerFront {rest left : Text} {construct : Construct}
    (hopening : opening? c.rest = some rest)
    (hfront : openerFront rest = .construct construct left) : c.Ahead (c.moveTo left) := by
  have hopening := (opening?_advances hopening).2
  have hsuffix := (suffix_of_openerFront hfront).length_le
  exact Cursor.ahead_moveTo (by omega)

/-- A body that a closing tag ends has its end ahead of where the conditional
begins. -/
theorem enclosing_ahead {condition : Condition} {next : Cursor} (hnext : c.Ahead next)
    (h : (enclosing (bodyAt settings resolve depth) c condition next).outcome =
      .ok (some (node, d))) : c.Ahead d := by
  obtain ⟨body, hbody, h⟩ := Run.bind_outcome_eq_ok_iff.mp h
  cases hstop : body.stop with
  | none =>
    rw [hstop] at h
    cases h
  | some stop =>
    rw [hstop] at h
    cases h
    have hbounds := scan_stop_bounds hbody stop hstop
    obtain ⟨htext, hlater, hinside⟩ := hnext
    rw [Cursor.length_rest] at hbounds
    refine ⟨htext, ?_, ?_⟩
    · show c.offset < stop
      omega
    · show stop ≤ next.text.length
      omega

/-- **A conditional that is found ends ahead**, at whatever depth it is looked
for. -/
theorem conditional_ahead
    (h : (conditional settings resolve depth c).outcome = .ok (some (node, d))) :
    c.Ahead d := by
  unfold conditional conditionalWith at h
  split at h
  · cases h
  · rename_i rest hopening
    split at h
    · rename_i condition left hfront
      split at h
      · cases h
      · exact enclosing_ahead (ahead_of_openerFront hopening hfront) h
    · exact absurd h reject_outcome_ne
    · cases h

/-- Of what reads the bodies it matters only what it does further ahead. -/
theorem conditionalWith_congr {inner inner' : Cursor → Run (Body τ)}
    (h : ∀ next, c.Ahead next → inner next = inner' next) :
    conditionalWith settings inner depth c = conditionalWith settings inner' depth c := by
  unfold conditionalWith
  cases hopening : opening? c.rest with
  | none => rfl
  | some rest =>
    dsimp only
    split
    · rename_i condition left hfront
      rw [enclosing, h _ (ahead_of_openerFront hopening hfront)]
      rfl
    · rfl
    · rfl

/-- **A node that is found ends ahead.** -/
theorem node_ahead (h : (nodeWith settings resolve (bodyAt settings resolve (depth + 1)) depth
    c).outcome = .ok (some (node, d))) : c.Ahead d := by
  obtain ⟨found, hfound, h⟩ := Run.bind_outcome_eq_ok_iff.mp h
  cases found with
  | none => exact interpolation_ahead h
  | some found =>
    cases h
    exact conditional_ahead hfound

theorem nodeWith_congr {inner inner' : Cursor → Run (Body τ)}
    (h : ∀ next, c.Ahead next → inner next = inner' next) :
    nodeWith settings resolve inner depth c = nodeWith settings resolve inner' depth c := by
  rw [nodeWith, conditionalWith_congr h]
  rfl

end Ahead

/-! ### What is found in a longer text -/

section After

variable {settings : Settings} {resolve : Text → Option τ} {depth : Nat}

theorem reject_after (c : Cursor) (u : Text) (defect : Defect) :
    (reject settings (c.after u) defect : Run (Found (Node τ))) =
      (reject settings c defect).moved u.length (Found.after u) :=
  Run.moved_meet_bind fun _ => rfl

/-- **An interpolation is found in a longer text as in a shorter one.** -/
theorem interpolation_after (c : Cursor) (u : Text) :
    interpolation settings resolve (c.after u) =
      (interpolation settings resolve c).moved u.length (Found.after u) := by
  unfold interpolation
  rw [Cursor.rest_after]
  cases word? ['%', '\x7b'] c.rest with
  | none => rfl
  | some rest =>
    dsimp only
    split
    · -- The name is looked up in the same way, and a problem with it is moved.
      rw [Cursor.offset_after, Machine.resolved_shift, ← Run.moved_id]
      simp only [Cursor.moveTo_after]
      exact Run.moved_bind fun _ _ => rfl
    · exact reject_after c u _
    · rfl

/-- If a body is read in a longer text as in a shorter one, so is a conditional
with it. -/
theorem enclosing_after {inner inner' : Cursor → Run (Body τ)} {u : Text}
    (h : ∀ next, inner' (next.after u) = (inner next).moved u.length (Body.shift u.length))
    (c : Cursor) (condition : Condition) (next : Cursor) :
    enclosing inner' (c.after u) condition (next.after u) =
      (enclosing inner c condition next).moved u.length (Found.after u) := by
  unfold enclosing
  rw [h]
  refine Run.moved_bind fun body _ => ?_
  cases hstop : body.stop with
  | none =>
    simp only [Body.shift, hstop, Option.map_none]
    rfl
  | some stop =>
    simp only [Body.shift, hstop, Option.map_some]
    rfl

/-- **A conditional is found in a longer text as in a shorter one**, if this is
so of the body. -/
theorem conditionalWith_after {inner inner' : Cursor → Run (Body τ)} {u : Text}
    (h : ∀ next, inner' (next.after u) = (inner next).moved u.length (Body.shift u.length))
    (c : Cursor) :
    conditionalWith settings inner' depth (c.after u) =
      (conditionalWith settings inner depth c).moved u.length (Found.after u) := by
  unfold conditionalWith
  rw [Cursor.rest_after]
  cases opening? c.rest with
  | none => rfl
  | some rest =>
    dsimp only
    split
    · by_cases hdepth : settings.maxDepth ≤ depth
      · rw [if_pos hdepth, if_pos hdepth]
        rfl
      · rw [if_neg hdepth, if_neg hdepth, Cursor.moveTo_after]
        exact enclosing_after h c _ _
    · exact reject_after c u _
    · rfl

/-- **A node is found in a longer text as in a shorter one**, if this is so of
the body. -/
theorem nodeWith_after {inner inner' : Cursor → Run (Body τ)} {u : Text}
    (h : ∀ next, inner' (next.after u) = (inner next).moved u.length (Body.shift u.length))
    (c : Cursor) :
    nodeWith settings resolve inner' depth (c.after u) =
      (nodeWith settings resolve inner depth c).moved u.length (Found.after u) := by
  rw [nodeWith, conditionalWith_after h]
  refine Run.moved_bind fun found _ => ?_
  cases found with
  | none => exact interpolation_after c u
  | some found => rfl

end After

end Template

end Stencil
