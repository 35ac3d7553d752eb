import Stencil.Text.Basic

/-!
# `Stencil.File.Path`: names of files

The name of a file is taken apart at its slashes. Parts that say nothing, empty ones
and single dots, are left out, and the name is written without them: that is how it
appears in messages and how the file is opened. Two dots stay, for what they lead to
is not known before the directory is looked at.
-/

set_option autoImplicit false

namespace Stencil

/-- The slashes at the front of a name, and its parts. -/
structure FilePath where
  root : Text
  parts : List Text
  deriving DecidableEq, Repr

namespace FilePath

/-- Cuts a text at every slash. -/
def splitSlash : Text → List Text
  | [] => [[]]
  | c :: rest =>
    if c = '/' then [] :: splitSlash rest
    else match splitSlash rest with
      | [] => [[c]]
      | part :: parts => (c :: part) :: parts

/-- The slashes that a name keeps at its front: two of exactly two, and one of any
other number but none. -/
def rootOf (s : Text) : Text :=
  match (s.takeWhile (· = '/')).length with
  | 0 => []
  | 2 => ['/', '/']
  | _ => ['/']

/-- Takes a name apart. -/
def ofText (s : Text) : FilePath :=
  ⟨rootOf s, (splitSlash s).filter fun part => part ≠ [] ∧ part ≠ ['.']⟩

/-- Writes a name. One without anything in it names the directory itself. -/
def print (p : FilePath) : Text :=
  match p.root, p.parts with
  | [], [] => ['.']
  | root, parts => root ++ List.intercalate ['/'] parts

end FilePath

end Stencil
