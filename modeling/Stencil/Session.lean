import Stencil.Template.Scan

/-!
# `Stencil.Session`: a registry and a reader in use

A session holds a registry, the settings that templates are read with, and the
trees that were kept under a key. Steps are taken one after the other. A step gives
an answer or fails, and leaves records in the log; one that fails changes nothing.

A kept tree carries the transforms that were known when it was read. Registering a
name again later gives the session another transform under that name and leaves
kept trees alone.
-/

set_option autoImplicit false

namespace Stencil

/-- A registry, settings, and trees kept under keys, the latest first. -/
structure Session (α : Type) where
  registry : Registry α
  settings : Settings
  kept : List (Text × List (Node (Transform α)))

namespace Session

variable {α : Type}

/-- What may be asked of a session, on values of type `α`. -/
inductive Step (α : Type) where
  /-- Make a transform known. -/
  | register (name : Text) (run : α → α)
  /-- Look a transform up. -/
  | resolve (name : Text)
  /-- Ask whether a transform is known. -/
  | contains (name : Text)
  /-- Read with other settings from now on. -/
  | configure (strict : Bool) (maxDepth : Int)
  /-- Read a template, and keep its tree under a key if one is given. -/
  | parse (text : Text) (key : Option Text)
  /-- Give a value to the transforms at the top of a kept tree. -/
  | apply (key : Text) (value : α)
  /-- Compare two kept trees. -/
  | compare (left right : Text)

/-- What a step gives. -/
inductive Answer (α : Type) where
  | registered (transform : Transform α)
  | resolved (transform : Option (Transform α))
  | contained (known : Bool)
  | configured (settings : Settings)
  | parsed (nodes : List (Node (Transform α)))
  | applied (values : List α)
  | compared (equal : Bool)

/-- Why a step failed. -/
inductive Failure where
  | name (e : InvalidName)
  | settings (e : SettingsError)
  | template (e : TemplateError)
  /-- No tree is kept under the key. -/
  | notKept (key : Text)
  deriving Repr

/-- What a step came to: its answer, its records, and the session after it. -/
structure Outcome (α : Type) where
  answer : Except Failure (Answer α)
  log : List LogRecord
  session : Session α

/-- The tree that is kept under a key. -/
def tree? (session : Session α) (key : Text) : Except Failure (List (Node (Transform α))) :=
  match session.kept.lookup key with
  | some nodes => .ok nodes
  | none => .error (.notKept key)

/-- Gives a value to each transform among the topmost interpolations. -/
def applyAll (nodes : List (Node (Transform α))) (value : α) : List α :=
  nodes.filterMap fun
    | .interpolation _ (some transform) => some (transform.run value)
    | _ => none

/-- Takes one step. -/
def step (session : Session α) : Step α → Outcome α
  | .register name run =>
    match session.registry.register name run with
    | .error e => ⟨.error (.name e), [], session⟩
    | .ok done =>
      ⟨.ok (.registered done.transform), done.log, { session with registry := done.registry }⟩
  | .resolve name => ⟨.ok (.resolved (session.registry.resolve name)), [], session⟩
  | .contains name => ⟨.ok (.contained (session.registry.contains name)), [], session⟩
  | .configure strict maxDepth =>
    match Settings.make strict maxDepth with
    | .error e => ⟨.error (.settings e), [], session⟩
    | .ok settings => ⟨.ok (.configured settings), [], { session with settings }⟩
  | .parse text key =>
    let run := Template.parse session.settings session.registry.resolve text
    let log := Template.log session.settings text run
    match run.outcome with
    | .error e => ⟨.error (.template e), log, session⟩
    | .ok nodes =>
      let kept := match key with
        | some key => (key, nodes) :: session.kept
        | none => session.kept
      ⟨.ok (.parsed nodes), log, { session with kept }⟩
  | .apply key value =>
    ⟨(session.tree? key).map fun nodes => .applied (applyAll nodes value), [], session⟩
  | .compare left right =>
    let answer := do
      let a ← session.tree? left
      let b ← session.tree? right
      pure (.compared (a.map Node.names = b.map Node.names))
    ⟨answer, [], session⟩

/-- The session after several steps, one after the other. -/
def run (session : Session α) (steps : List (Step α)) : Session α :=
  steps.foldl (fun session next => (session.step next).session) session

end Session

end Stencil
