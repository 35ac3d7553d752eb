import Stencil.Command.Argument

/-!
# `Stencil.Command.Invocation`: what a command line asks for

There is one command, `parse`, which takes the name of a template, or a dash for the
standard input, and options of its own. Options that are good for any command stand
before it. Asking for help or the version takes effect as soon as it is read, unless
an earlier argument was wrong; and a beginning of several options anywhere on the
line is wrong before anything is read. Whatever else is wrong makes the whole line a
misuse.
-/

set_option autoImplicit false

namespace Stencil

/-- What an option before the command means. -/
inductive GeneralOption where
  | help
  | version
  | verbose
  deriving DecidableEq, Repr

/-- What an option of the command `parse` means. -/
inductive ParseOption where
  | help
  | settings
  | strict
  | transform
  | json
  deriving DecidableEq, Repr

/-- What the command `parse` is to do. -/
structure ParseRequest where
  /-- The name of the template, or a dash. -/
  source : Text
  /-- The name of a settings file. -/
  settings : Option Text := none
  /-- Read strictly, whatever the settings file says. -/
  strict : Bool := false
  /-- The names of the transforms that are known. -/
  transforms : List Text := []
  /-- Show the tree as JSON instead of an outline. -/
  json : Bool := false
  deriving DecidableEq, Repr

/-- What a command line asks for. -/
inductive Invocation where
  | help
  | version
  /-- The line cannot be understood. -/
  | misuse
  | parse (verbose : Bool) (request : ParseRequest)
  deriving DecidableEq, Repr

namespace Invocation

/-- What is written when the version is asked for. -/
def versionLine : String := "templator 0.1.0\n"

/-- The options before the command. -/
def generalOptions : List (OptionForm GeneralOption) :=
  [ ⟨"-h".toList, false, .help⟩, ⟨"--help".toList, false, .help⟩,
    ⟨"-V".toList, false, .version⟩, ⟨"--version".toList, false, .version⟩,
    ⟨"-v".toList, false, .verbose⟩, ⟨"--verbose".toList, false, .verbose⟩ ]

/-- The options of the command `parse`. -/
def parseOptions : List (OptionForm ParseOption) :=
  [ ⟨"-h".toList, false, .help⟩, ⟨"--help".toList, false, .help⟩,
    ⟨"--config".toList, true, .settings⟩, ⟨"--strict".toList, false, .strict⟩,
    ⟨"--transform".toList, true, .transform⟩, ⟨"--json".toList, false, .json⟩ ]

/-- The name of the command. -/
def parseCommand : Text := "parse".toList

/-- The request as far as it is read. -/
structure Draft where
  source : Option Text := none
  settings : Option Text := none
  strict : Bool := false
  transforms : List Text := []
  json : Bool := false
  /-- Something was read that has no place here. -/
  stray : Bool := false

/-- The invocation that a draft comes to at the end of the line. -/
def Draft.finish (verbose : Bool) (d : Draft) : Invocation :=
  match d.source, d.stray with
  | some source, false => .parse verbose ⟨source, d.settings, d.strict, d.transforms, d.json⟩
  | _, _ => .misuse

/-- Follows an option with its value. -/
def Draft.withValue (d : Draft) (option : ParseOption) (value : Text) : Draft :=
  match option with
  | .settings => { d with settings := some value }
  | .transform => { d with transforms := d.transforms ++ [value] }
  | _ => d

/-- Follows options without values, up to one that asks for help. -/
def Draft.withFlags? (d : Draft) : List ParseOption → Option Draft
  | [] => some d
  | .help :: _ => none
  | .strict :: rest => Draft.withFlags? { d with strict := true } rest
  | .json :: rest => Draft.withFlags? { d with json := true } rest
  | _ :: rest => d.withFlags? rest

/-- Reads what follows the mark after which there are only values. The mark may also
stand right behind the source. -/
def afterSeparator (verbose afterSource : Bool) (d : Draft) (values : List Text) : Invocation :=
  match d.source, values with
  | none, [source] => { d with source := some source }.finish verbose
  | some _, [] => if afterSource then d.finish verbose else .misuse
  | _, _ => .misuse

/-- Reads the arguments of the command `parse`. `afterSource` says that the last
argument was the source. -/
def readParse (verbose : Bool) (afterSource : Bool) (d : Draft) : List Text → Invocation
  | [] => d.finish verbose
  | s :: rest =>
    match Argument.read parseOptions s with
    | .separator => afterSeparator verbose afterSource d rest
    | .plain value =>
      match d.source with
      | none => readParse verbose true { d with source := some value } rest
      | some _ => readParse verbose false { d with stray := true } rest
    | .unknown => readParse verbose false { d with stray := true } rest
    | .ambiguous => .misuse
    | .option form attached =>
      if form.takesValue then
        match attached, rest with
        | some attached, rest =>
          readParse verbose false (d.withValue form.meaning attached.text) rest
        | none, value :: rest =>
          match Argument.read parseOptions value with
          | .plain value => readParse verbose false (d.withValue form.meaning value) rest
          | _ => .misuse
        | none, [] => .misuse
      else match Argument.meanings? parseOptions form attached with
        | none => .misuse
        | some (meanings, stray) =>
          match d.withFlags? meanings with
          | none => .help
          | some d => readParse verbose false { d with stray := d.stray || stray } rest

/-- Follows the options before the command, up to one that takes effect at once. -/
def general (verbose : Bool) : List GeneralOption → Except Invocation Bool
  | [] => .ok verbose
  | .help :: _ => .error .help
  | .version :: _ => .error .version
  | .verbose :: rest => general true rest

/-- Reads the arguments up to the command, and then those of the command. -/
def readGeneral (verbose stray : Bool) : List Text → Invocation
  | [] => .misuse
  | s :: rest =>
    match Argument.read generalOptions s with
    | .separator | .ambiguous => .misuse
    | .plain command =>
      if command = parseCommand && !Argument.anyAmbiguous parseOptions rest then
        readParse verbose false { stray } rest
      else .misuse
    | .unknown => readGeneral verbose true rest
    | .option form attached =>
      match Argument.meanings? generalOptions form attached with
      | none => .misuse
      | some (meanings, strayLetter) =>
        match general verbose meanings with
        | .error invocation => invocation
        | .ok verbose => readGeneral verbose (stray || strayLetter) rest

/-- Reads a command line, given its arguments. -/
def read (arguments : List Text) : Invocation :=
  if Argument.anyAmbiguous generalOptions arguments then .misuse
  else readGeneral false false arguments

end Invocation

end Stencil
