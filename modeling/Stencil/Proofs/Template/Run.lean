import Stencil.Template.Scan

/-!
# `Stencil.Proofs.Template.Run`: laws of runs and of the scan's offsets

Two runs that begin alike are compared by what follows on a value:
`Run.bind_congr`. A run that has failed does not go on: `Run.fail_bind`.
The rest of what is needed of runs are the laws of monads.

`scan_stop_bounds` says that a body stops between the offset at which it
begins and the end of the text. The scan cuts the text after a closing tag
out of what followed the opening tag, and the lower bound, `scan_le_stop`,
is what makes that cut the right one.
-/

set_option autoImplicit false

namespace Stencil

namespace Run

variable {α β : Type}

/-- What follows a run matters only on a value that the run gives. -/
theorem bind_congr {r : Run α} {next next' : α → Run β}
    (h : ∀ a, r.outcome = .ok a → next a = next' a) : r >>= next = r >>= next' := by
  cases hr : r.outcome with
  | error e => rw [bind_of_error next hr, bind_of_error next' hr]
  | ok a => rw [bind_of_ok next hr, bind_of_ok next' hr, h a hr]

/-- A run that has failed does not go on. -/
theorem fail_bind (cause : Cause) (position : Nat) (next : α → Run β) :
    (fail cause position : Run α) >>= next = fail cause position := rfl

end Run

namespace Template

variable {τ : Type} {settings : Settings} {resolve : Text → Option τ}

/-- A body stops no earlier than it begins, and no later than the text ends.
The induction is on the text that is left, and follows the cases of a scan. -/
theorem scan_stop_bounds {depth position : Nat} {pending s : Text} {body : Body τ}
    (h : (scan settings resolve depth position pending s).outcome = .ok body) :
    ∀ stop ∈ body.stop, position ≤ stop ∧ stop ≤ position + s.length := by
  induction hlength : s.length using Nat.strongRecOn
    generalizing depth position pending s body with
  | _ n ih =>
    subst hlength
    intro stop hstop
    cases s with
    | nil =>
      rw [scan_nil] at h
      cases h
      cases hstop
    | cons c tail =>
      -- Where one character is taken as text, the bounds for the rest are enough.
      have htext : ∀ {body : Body τ} {stop : Nat},
          (scan settings resolve depth (position + 1) (c :: pending) tail).outcome = .ok body →
            stop ∈ body.stop → position ≤ stop ∧ stop ≤ position + (c :: tail).length := by
        intro body stop h hstop
        have := ih tail.length (Nat.lt_succ_self _) h rfl stop hstop
        rw [List.length_cons]
        omega
      cases hfront : front (c :: tail) with
      | plain =>
        rw [scan_of_plain hfront] at h
        exact htext h hstop
      | broken defect =>
        rw [scan_of_broken hfront, Run.bind_outcome_eq_ok_iff] at h
        obtain ⟨_, -, h⟩ := h
        exact htext h hstop
      | construct construct rest =>
        have hshort := (front_advances hfront).2
        cases construct with
        | closer name =>
          by_cases hclose : name = ifName ∧ 0 < depth
          · obtain ⟨rfl, hdepth⟩ := hclose
            rw [scan_of_closer hfront hdepth] at h
            cases h
            cases hstop
            exact ⟨Nat.le_add_right _ _, Nat.add_le_add_left (Nat.sub_le _ _) _⟩
          · rw [scan_of_strayCloser hfront hclose, Run.bind_outcome_eq_ok_iff] at h
            obtain ⟨_, -, h⟩ := h
            exact htext h hstop
        | interpolation path name =>
          simp only [scan_of_interpolation hfront, Run.bind_outcome_eq_ok_iff] at h
          obtain ⟨transform, -, after, hafter, h⟩ := h
          cases h
          have := ih rest.length hshort hafter rfl stop hstop
          omega
        | opener condition =>
          by_cases hdepth : settings.maxDepth ≤ depth
          · rw [scan_of_tooDeep hfront hdepth] at h
            cases h
          · simp only [scan_of_opener hfront (Int.not_le.mp hdepth),
              Run.bind_outcome_eq_ok_iff] at h
            obtain ⟨inner, hinner, h⟩ := h
            cases hinnerStop : inner.stop with
            | none =>
              rw [hinnerStop] at h
              cases h
            | some middle =>
              -- The body of the conditional stops at `middle`, and what follows it later.
              simp only [hinnerStop, Run.bind_outcome_eq_ok_iff] at h
              obtain ⟨after, hafter, h⟩ := h
              cases h
              have hmiddle := ih rest.length hshort hinner rfl middle hinnerStop
              have hdrop : (rest.drop (middle - (position +
                  ((c :: tail).length - rest.length)))).length < (c :: tail).length := by
                rw [List.length_drop]
                omega
              have := ih _ hdrop hafter rfl stop hstop
              rw [List.length_drop] at this
              omega

/-- A body stops no earlier than it begins. -/
theorem scan_le_stop {depth position : Nat} {pending s : Text} {body : Body τ}
    (h : (scan settings resolve depth position pending s).outcome = .ok body) :
    ∀ stop ∈ body.stop, position ≤ stop :=
  fun stop hstop => (scan_stop_bounds h stop hstop).1

end Template

end Stencil
