import Stencil.Number.Integer
import Stencil.Template.Construct
import Stencil.Log

/-!
# `Stencil.Template.Problem`: notices and errors of reading a template

Two things can be wrong with a construct: it is broken, or it asks for a transform
that is not known. Either is a *problem*. Strict reading ends with the first one.
Lenient reading gives a *notice* of it and goes on: a broken construct stays in the
text, and an unknown transform is left out.

Two more things end a reading in any case, for then no tree would be right: a
conditional that is never closed, and conditionals nested too deep.
-/

set_option autoImplicit false

namespace Stencil

/-- What may be wrong with a construct. -/
inductive Problem where
  /-- The construct is broken. -/
  | broken (defect : Defect)
  /-- The construct asks for a transform that is not known. -/
  | unknownTransform (name : Text)
  deriving DecidableEq, Repr

/-- What is wrong, for a person to read. -/
def Problem.message : Problem → String
  | .broken defect => defect.message
  | .unknownTransform name => "Unknown transform '" ++ String.ofList name ++ "'"

/-- A problem that reading went past, and the offset of its construct. -/
structure Notice where
  problem : Problem
  position : Nat
  deriving DecidableEq, Repr

/-- The record that a notice leaves in the log. An unknown transform is worth a
warning, because the template does not do then what it says. -/
def Notice.record (n : Notice) : LogRecord :=
  let place := n.problem.message ++ " at position " ++ toString n.position
  match n.problem with
  | .broken _ => ⟨.debug, .templates, place ++ ", treating as text"⟩
  | .unknownTransform _ =>
    ⟨.warning, .templates, place ++ ", interpolation left without transform"⟩

/-- Why reading a template ended without a tree. -/
inductive Cause where
  /-- Reading was strict and met a problem. -/
  | problem (p : Problem)
  /-- A tag is open at the end of the text. -/
  | unterminated (tag : Text)
  /-- A conditional stands inside as many others as are allowed. -/
  | tooDeep (limit : Int)
  deriving DecidableEq, Repr

/-- What is wrong, for a person to read. That can be said unless the limit on nesting
is too long to be written out. -/
def Cause.detail? : Cause → Option String
  | .problem p => some p.message
  | .unterminated tag =>
    let tag := String.ofList tag
    some ("Unterminated tag '<#" ++ tag ++ ">', expected '</#" ++ tag ++ ">'")
  | .tooDeep limit => do
    let limit ← Integer.written? limit
    some ("Tag nesting deeper than " ++ String.ofList limit ++ " levels")

/-- Why reading a template ended without a tree, and the offset of the construct
that is to blame. -/
structure TemplateError where
  cause : Cause
  position : Nat
  deriving DecidableEq, Repr

/-- What is wrong and where, if it can be said what is wrong. -/
def TemplateError.message? (e : TemplateError) : Option String :=
  e.cause.detail?.map (atOffset e.position)

/-- Only an error about a long limit has no message. -/
theorem TemplateError.message?_eq_none_iff {e : TemplateError} :
    e.message? = none ↔ ∃ limit, e.cause = .tooDeep limit ∧ Integer.IsLong limit := by
  obtain ⟨cause, position⟩ := e
  cases cause with
  | problem p => simp [message?, Cause.detail?]
  | unterminated tag => simp [message?, Cause.detail?]
  | tooDeep limit =>
    simp only [message?, Cause.detail?, Cause.tooDeep.injEq, exists_eq_left',
      ← Integer.written?_eq_none_iff]
    cases Integer.written? limit <;> simp

/-- The error that strict reading makes of a notice. -/
def Notice.error (n : Notice) : TemplateError :=
  ⟨.problem n.problem, n.position⟩

end Stencil
