import Stencil.File.Path
import Stencil.File.Content

/-!
# `Stencil.File.Directory`: a directory with files in it

A directory is given by its files, each under the names of the directories that lead
to it and its own. Looking a file up follows the parts of its path one by one, so two
dots lead back only from a directory that is there. What lies outside is not seen.
-/

set_option autoImplicit false

namespace Stencil

/-- The files in a directory and below it, each with the parts of its name. -/
structure Directory where
  files : List (List Text × ByteArray)

namespace Directory

/-- A directory with files under the given names. -/
def ofFiles (files : List (Text × ByteArray)) : Directory :=
  ⟨files.map fun (name, bytes) => ((FilePath.ofText name).parts, bytes)⟩

/-- A directory is reached by these names. -/
def isDirectory (d : Directory) (location : List Text) : Bool :=
  location.isEmpty || d.files.any fun (name, _) => location.isPrefixOf name && location != name

/-- Follows the parts of a path from a place below the directory on. -/
def follow? (d : Directory) (location : List Text) : List Text → Option (List Text)
  | [] => some location
  | part :: rest =>
    if !d.isDirectory location then none
    else if part = ['.', '.'] then
      if location.isEmpty then none else d.follow? location.dropLast rest
    else d.follow? (location ++ [part]) rest

/-- Reads a file. -/
def read (d : Directory) (path : FilePath) : FileContent :=
  if !path.root.isEmpty then .missing
  else match (d.follow? [] path.parts).bind fun location => d.files.lookup location with
    | some bytes => .ofBytes bytes
    | none => .missing

end Directory

end Stencil
