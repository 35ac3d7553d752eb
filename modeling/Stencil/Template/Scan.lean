import Stencil.Settings.Basic
import Stencil.Template.Node
import Stencil.Template.Run

/-!
# `Stencil.Template.Scan`: reading a template

Reading goes through a template once, from left to right. At each place it asks
`front` what stands there. A whole construct becomes part of the tree, and reading
goes on after it. Everything else is text, one character at a time. Pending text is
gathered until a construct or the end of the body makes a literal of it, so that no
literal is empty and no two stand side by side.

The body of a conditional is read by the same function, one level deeper, up to its
closing tag. A body says what nodes it has and at which offset reading goes on after
its closing tag; a body that ran into the end of the text has no such offset.

A closing tag belongs to the innermost open conditional or to none. One that has no
place where it stands, like any broken construct, is a problem: strict reading ends
there, lenient reading takes its first character as text and looks again at the next
place. The nesting limit and an open conditional at the end of the text are errors
in either case. A conditional that stands too deep is refused before its body is
read, so that an outer fault wins over an inner one.

`Template.parse` reads a whole template and `Template.log` lists the records that
this leaves.
-/

set_option autoImplicit false

namespace Stencil

/-- The nodes of a body, and the offset after the closing tag that ended it. There
is none if the text ended first. -/
structure Body (τ : Type) where
  nodes : List (Node τ)
  stop : Option Nat
  deriving Repr

namespace Body

variable {τ : Type}

/-- The text that is pending, latest character first, as a literal if it is not
empty. -/
def literal (pending : Text) : List (Node τ) :=
  if pending.isEmpty then [] else [.literal pending.reverse]

/-- Sets nodes before those of a body. -/
def after (body : Body τ) (earlier : List (Node τ)) : Body τ :=
  { body with nodes := earlier ++ body.nodes }

end Body

namespace Template

variable {τ : Type}

/-- The transform that is known under the name that was asked for, if any was. -/
def resolved (settings : Settings) (resolve : Text → Option τ) (position : Nat) :
    Option Text → Run (Option τ)
  | none => pure none
  | some name =>
    match resolve name with
    | some transform => pure (some transform)
    | none => do
      Run.meet settings.strict (.unknownTransform name) position
      pure none

/-- Reads a body from a place in a template on, with text pending from before it.
The depth counts the conditionals around that place. -/
def scan (settings : Settings) (resolve : Text → Option τ) (depth position : Nat)
    (pending s : Text) : Run (Body τ) :=
  match s with
  | [] => pure ⟨Body.literal pending, none⟩
  | c :: tail =>
    match _hfront : front (c :: tail) with
    | .plain => scan settings resolve depth (position + 1) (c :: pending) tail
    | .broken defect => do
      Run.meet settings.strict (.broken defect) position
      scan settings resolve depth (position + 1) (c :: pending) tail
    | .construct (.closer name) rest =>
      if name = ifName ∧ 0 < depth then
        pure ⟨Body.literal pending, some (position + ((c :: tail).length - rest.length))⟩
      else do
        Run.meet settings.strict (.broken (.strayCloser name)) position
        scan settings resolve depth (position + 1) (c :: pending) tail
    | .construct (.interpolation path name) rest => do
      let transform ← resolved settings resolve position name
      let next := position + ((c :: tail).length - rest.length)
      let body ← scan settings resolve depth next [] rest
      pure (body.after (Body.literal pending ++ [.interpolation path transform]))
    | .construct (.opener condition) rest =>
      if settings.maxDepth ≤ depth then Run.fail (.tooDeep settings.maxDepth) position
      else do
        let next := position + ((c :: tail).length - rest.length)
        let inner ← scan settings resolve (depth + 1) next [] rest
        match inner.stop with
        | none => Run.fail (.unterminated ifName) position
        | some stop =>
          let body ← scan settings resolve depth stop [] (rest.drop (stop - next))
          pure (body.after (Body.literal pending ++ [.conditional condition inner.nodes]))
termination_by s.length
decreasing_by
  -- Text goes one character on, and a construct takes at least one. What follows a
  -- closing tag is cut from what follows its opening tag, so it is no longer.
  all_goals
    first
    | simp only [List.length_cons]; omega
    | exact (front_advances _hfront).2
    | have := (front_advances _hfront).2
      simp only [List.length_cons, List.length_drop] at *
      omega

/-! ### The cases of a scan

One equation for each thing that may stand at the front. They say all there is to
say about one step, so that a proof about whole templates has no need to look into
`scan` itself. -/

section Cases

variable {settings : Settings} {resolve : Text → Option τ} {depth position : Nat}
  {pending tail rest : Text} {c : Char}

theorem scan_nil :
    scan settings resolve depth position pending [] = pure ⟨Body.literal pending, none⟩ := by
  rw [scan]

theorem scan_of_plain (h : front (c :: tail) = .plain) :
    scan settings resolve depth position pending (c :: tail) =
      scan settings resolve depth (position + 1) (c :: pending) tail := by
  rw [scan]
  split <;> simp_all

theorem scan_of_broken {defect : Defect} (h : front (c :: tail) = .broken defect) :
    scan settings resolve depth position pending (c :: tail) = (do
      Run.meet settings.strict (.broken defect) position
      scan settings resolve depth (position + 1) (c :: pending) tail) := by
  rw [scan]
  split <;> simp_all

/-- A closing tag ends the body of the innermost open conditional. -/
theorem scan_of_closer (h : front (c :: tail) = .construct (.closer ifName) rest)
    (hdepth : 0 < depth) :
    scan settings resolve depth position pending (c :: tail) =
      pure ⟨Body.literal pending,
        some (position + ((c :: tail).length - rest.length))⟩ := by
  rw [scan]
  split <;> simp_all

/-- A closing tag of another name, or one outside all conditionals, is a problem. -/
theorem scan_of_strayCloser {name : Text}
    (h : front (c :: tail) = .construct (.closer name) rest)
    (hstray : ¬(name = ifName ∧ 0 < depth)) :
    scan settings resolve depth position pending (c :: tail) = (do
      Run.meet settings.strict (.broken (.strayCloser name)) position
      scan settings resolve depth (position + 1) (c :: pending) tail) := by
  rw [scan]
  split <;> simp_all

theorem scan_of_interpolation {path : Path} {name : Option Text}
    (h : front (c :: tail) = .construct (.interpolation path name) rest) :
    scan settings resolve depth position pending (c :: tail) = (do
      let transform ← resolved settings resolve position name
      let body ← scan settings resolve depth
        (position + ((c :: tail).length - rest.length)) [] rest
      pure (body.after (Body.literal pending ++ [.interpolation path transform]))) := by
  rw [scan]
  split <;> simp_all

/-- A conditional inside as many others as are allowed is refused at its opening
tag, whatever its body holds. -/
theorem scan_of_tooDeep {condition : Condition}
    (h : front (c :: tail) = .construct (.opener condition) rest)
    (hdepth : settings.maxDepth ≤ depth) :
    scan settings resolve depth position pending (c :: tail) =
      Run.fail (.tooDeep settings.maxDepth) position := by
  rw [scan]
  split <;> simp_all

theorem scan_of_opener {condition : Condition}
    (h : front (c :: tail) = .construct (.opener condition) rest)
    (hdepth : (depth : Int) < settings.maxDepth) :
    scan settings resolve depth position pending (c :: tail) = (do
      let next := position + ((c :: tail).length - rest.length)
      let inner ← scan settings resolve (depth + 1) next [] rest
      match inner.stop with
      | none => Run.fail (.unterminated ifName) position
      | some stop =>
        let body ← scan settings resolve depth stop [] (rest.drop (stop - next))
        pure (body.after (Body.literal pending ++ [.conditional condition inner.nodes]))) := by
  rw [scan]
  split <;> simp_all [Int.not_le.mpr hdepth]

end Cases

/-- Reads a whole template, where no conditional is open yet. -/
def parse (settings : Settings) (resolve : Text → Option τ) (s : Text) :
    Run (List (Node τ)) := do
  let body ← scan settings resolve 0 0 [] s
  pure body.nodes

/-- The records that reading a template leaves: one when it begins, one for every
notice, and one at the end if there is a tree. -/
def log {α : Type} (settings : Settings) (s : Text) (run : Run (List α)) : List LogRecord :=
  let strict := if settings.strict then "True" else "False"
  let begin : LogRecord := ⟨.debug, .templates,
    "Parsing template (" ++ toString s.length ++ " chars, strict=" ++ strict ++ ")"⟩
  let finish : List LogRecord := match run.outcome with
    | .ok nodes => [⟨.debug, .templates,
        "Parsed template into " ++ toString nodes.length ++ " top-level nodes"⟩]
    | .error _ => []
  begin :: run.notices.map Notice.record ++ finish

end Template

end Stencil
