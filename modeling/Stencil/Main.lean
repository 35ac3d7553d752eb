import Stencil.Command.Run

/-!
# `Stencil.Main`: the program

The outermost layer: it hands the arguments to `Invocation.read`, reads the files
that a request names, and writes what `ParseRequest.execute` says. What is written
and with which exit code is decided there and not here.
-/

set_option autoImplicit false

namespace Stencil.Program

/-- The text that is shown when help is asked for. -/
def usage : String :=
  "usage: templator [-h] [-V] [-v] parse [-h] [--config FILE] [--strict] " ++
    "[--transform NAME] [--json] source\n"

/-- Reads a file, or finds that there is none. -/
def readFile (path : FilePath) : IO FileContent := do
  try
    return .ofBytes (← IO.FS.readBinFile (String.ofList path.print))
  catch _ => return .missing

/-- Reads the standard input to its end. -/
def readInput : IO FileContent := do
  let stream ← IO.getStdin
  let mut bytes := ByteArray.empty
  let mut more := true
  while more do
    let chunk ← stream.read 65536
    bytes := bytes ++ chunk
    more := !chunk.isEmpty
  return .ofBytes bytes

/-- Carries a request out. -/
def carryOut (verbose : Bool) (request : ParseRequest) : IO UInt32 := do
  let settings ← match request.settingsFile with
    | some file => readFile file
    | none => pure .missing
  let source ← if request.fromInput then readInput else readFile request.sourceFile
  match request.execute verbose ⟨settings, source⟩ with
  | .ok done =>
    IO.eprint done.errors
    IO.print (String.ofList done.output)
    return done.code.toUInt32
  | .error _ =>
    IO.eprintln "templator: unreadable input"
    return 1

end Stencil.Program

open Stencil Stencil.Program in
/-- The program. -/
def main (arguments : List String) : IO UInt32 := do
  match Invocation.read (arguments.map String.toList) with
  | .help =>
    IO.print usage
    return 0
  | .version =>
    IO.print Invocation.versionLine
    return 0
  | .misuse =>
    IO.eprint usage
    return 2
  | .parse verbose request => carryOut verbose request
