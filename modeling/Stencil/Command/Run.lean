import Stencil.Command.Invocation
import Stencil.File.Path
import Stencil.Settings.Document
import Stencil.Template.Dictionary
import Stencil.Template.Outline
import Stencil.Template.Scan

/-!
# `Stencil.Command.Run`: the command `parse`

The command goes through its stages in a fixed order and stops at the first that
fails: make the given transforms known, load the settings, read the source, read the
template. Then it writes the tree, as an outline or as JSON, and nothing else to its
output. The log and what went wrong go to the error output. Warnings are always
shown there, other records only on request.

What the files hold is given beforehand, so that the whole command is a function of
its request and of those contents. The transforms leave every value as it is, for
nothing is shown but the tree.
-/

set_option autoImplicit false

namespace Stencil

/-- The texts that a request refers to. -/
structure CommandInput where
  settings : FileContent
  source : FileContent

/-- Why the command failed. -/
inductive CommandError where
  | transform (e : InvalidName)
  | settings (e : LoadError)
  /-- There is no template file of that name. -/
  | noSource (file : Text)
  /-- The template file does not hold text. -/
  | undecodable
  | template (e : TemplateError)
  deriving Repr

/-- What is wrong, for a person to read, if that can be said. -/
def CommandError.message? : CommandError → Option String
  | .transform e => some e.message
  | .settings e => e.message?
  | .noSource file => some ("Template file not found: " ++ String.ofList file)
  | .undecodable => none
  | .template e => e.message?

/-- What the command came to: its records, and the tree or why there is none. -/
structure CommandRun where
  log : List LogRecord
  outcome : Except CommandError (Node Text)

/-- The exit code and what is written. -/
structure CommandOutput where
  code : Nat
  output : Text
  errors : String
  deriving DecidableEq, Repr

namespace ParseRequest

/-- The source is the standard input. -/
def fromInput (request : ParseRequest) : Bool :=
  request.source = ['-']

/-- The template file, where the source is one. -/
def sourceFile (request : ParseRequest) : FilePath :=
  FilePath.ofText request.source

/-- The settings file, if one is given. -/
def settingsFile (request : ParseRequest) : Option FilePath :=
  request.settings.map FilePath.ofText

/-- The settings that a request names: those of its file, or the defaults. -/
def namedSettings (reader : DocumentReader) (request : ParseRequest) (content : FileContent) :
    Except LoadError Settings :=
  match request.settingsFile with
  | some file => Settings.loadWith reader file.print content
  | none => .ok Settings.defaults

/-- The settings that a request is read with: those that it names, and strict ones if
that is asked for. -/
def loadSettings (reader : DocumentReader) (request : ParseRequest) (content : FileContent) :
    Except LoadError Settings := do
  let settings ← request.namedSettings reader content
  pure (settings.orStrict request.strict)

/-- The text of the template. -/
def loadSource (request : ParseRequest) : FileContent → Except CommandError Text
  | .text s => .ok s
  | .undecodable => .error .undecodable
  | .missing => .error (.noSource request.sourceFile.print)

/-- Goes through the stages, given a reader of documents. -/
def run (reader : DocumentReader) (request : ParseRequest) (input : CommandInput) : CommandRun :=
  let (registered, registry) :=
    Registry.empty.registerAll (request.transforms.map fun name => (name, (id : Text → Text)))
  match registry with
  | .error e => ⟨registered, .error (.transform e)⟩
  | .ok registry =>
    match request.loadSettings reader input.settings with
    | .error e => ⟨registered, .error (.settings e)⟩
    | .ok settings =>
      match request.loadSource input.source with
      | .error e => ⟨registered, .error e⟩
      | .ok source =>
        let run := Template.parse settings registry.resolve source
        { log := registered ++ Template.log settings source run
          outcome := match run.outcome with
            | .error e => .error (.template e)
            | .ok nodes => .ok (Node.root nodes).names }

/-- How a tree is written. -/
def render (request : ParseRequest) (tree : Node Text) : Text :=
  if request.json then tree.dictionary.layout 0 else tree.outline 0

/-- The lines of those records that are shown. -/
def logLines (verbose : Bool) (log : List LogRecord) : String :=
  let shown := log.filter fun r => verbose || r.level = .warning
  String.join (shown.map fun r => r.line ++ "\n")

/-- What the command writes, and its exit code, given a reader of documents. There is
neither for an error that has no message: such an error is not one of the person who
gave the command, and ends the program. -/
def executeWith (reader : DocumentReader) (request : ParseRequest) (verbose : Bool)
    (input : CommandInput) : Except CommandError CommandOutput :=
  let run := request.run reader input
  let lines := logLines verbose run.log
  match run.outcome with
  | .ok tree => .ok ⟨0, request.render tree ++ ['\n'], lines⟩
  | .error e =>
    match e.message? with
    | some message => .ok ⟨2, [], lines ++ "templator: " ++ message ++ "\n"⟩
    | none => .error e

/-- What the command writes, and its exit code. -/
def execute (request : ParseRequest) (verbose : Bool) (input : CommandInput) :
    Except CommandError CommandOutput :=
  request.executeWith .plain verbose input

end ParseRequest

end Stencil
