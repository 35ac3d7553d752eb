import Stencil.Template.Problem

/-!
# `Stencil.Template.Run`: what reading comes to

A run is the outcome of reading, a value or an error, together with the notices
that were given on the way. The notices stay when the outcome is an error: those
that came before it were given all the same. Runs follow one another as in any
computation that may fail, and their notices add up in order.
-/

set_option autoImplicit false

namespace Stencil

/-- The notices that were given, in order, and how it ended. -/
structure Run (α : Type) where
  notices : List Notice
  outcome : Except TemplateError α
  deriving Repr

namespace Run

variable {α β : Type}

/-- A run that gives a value and no notice. -/
protected def pure (a : α) : Run α :=
  ⟨[], .ok a⟩

/-- Goes on after a run with what it gave, unless it failed. -/
protected def bind (r : Run α) (next : α → Run β) : Run β :=
  match r.outcome with
  | .error e => ⟨r.notices, .error e⟩
  | .ok a => ⟨r.notices ++ (next a).notices, (next a).outcome⟩

instance : Monad Run where
  pure := Run.pure
  bind := Run.bind

instance : LawfulMonad Run := LawfulMonad.mk' Run
  (by
    intro α r
    obtain ⟨notices, outcome⟩ := r
    cases outcome <;> simp [Functor.map, Run.bind, Run.pure])
  (by intro α β a f; rfl)
  (by
    intro α β γ r f g
    obtain ⟨notices, outcome⟩ := r
    cases outcome with
    | error e => rfl
    | ok a =>
      simp only [bind, Run.bind]
      cases (f a).outcome <;> simp)

/-- A run that fails and gives no notice. -/
def fail (cause : Cause) (position : Nat) : Run α :=
  ⟨[], .error ⟨cause, position⟩⟩

/-- A run that gives one notice. -/
def notice (n : Notice) : Run Unit :=
  ⟨[n], .ok ()⟩

/-- Meets a problem: strict reading fails, lenient reading gives a notice. -/
def meet (strict : Bool) (problem : Problem) (position : Nat) : Run Unit :=
  if strict then fail (.problem problem) position else notice ⟨problem, position⟩

/-! ### How runs follow one another -/

@[simp] theorem pure_notices (a : α) : (pure a : Run α).notices = [] := rfl

@[simp] theorem pure_outcome (a : α) : (pure a : Run α).outcome = .ok a := rfl

@[simp] theorem fail_notices (cause : Cause) (position : Nat) :
    (fail cause position : Run α).notices = [] := rfl

@[simp] theorem fail_outcome (cause : Cause) (position : Nat) :
    (fail cause position : Run α).outcome = .error ⟨cause, position⟩ := rfl

theorem bind_of_error {r : Run α} {e : TemplateError} (next : α → Run β)
    (h : r.outcome = .error e) : r >>= next = ⟨r.notices, .error e⟩ := by
  simp only [bind, Run.bind, h]

theorem bind_of_ok {r : Run α} {a : α} (next : α → Run β) (h : r.outcome = .ok a) :
    r >>= next = ⟨r.notices ++ (next a).notices, (next a).outcome⟩ := by
  simp only [bind, Run.bind, h]

/-- Only two runs that both give a value make one that gives a value. -/
theorem bind_outcome_eq_ok_iff {r : Run α} {next : α → Run β} {b : β} :
    (r >>= next).outcome = .ok b ↔
      ∃ a, r.outcome = .ok a ∧ (next a).outcome = .ok b := by
  cases h : r.outcome with
  | error e => simp [bind_of_error next h]
  | ok a => simp [bind_of_ok next h]

end Run

end Stencil
