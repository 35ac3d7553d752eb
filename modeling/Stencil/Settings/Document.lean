import Stencil.Settings.Basic
import Stencil.Yaml.Document
import Stencil.File.Content

/-!
# `Stencil.Settings.Document`: settings from a file

A settings file holds a YAML document with a mapping. A document whose value counts
as false, such as an empty one, stands for the defaults, and so does a file that is
not there. How YAML is read is left to a `DocumentReader`.
-/

set_option autoImplicit false

namespace Stencil

/-- A reader of YAML documents. It may say why a text is none. -/
abbrev DocumentReader :=
  Text → Except (Option Text) Value

/-- The reader of this library, which gives no reasons. -/
def DocumentReader.plain : DocumentReader := fun s =>
  match Yaml.document? s with
  | some value => .ok value
  | none => .error none

/-- Why a file gave no settings. -/
inductive LoadError where
  /-- The file does not hold text. -/
  | undecodable
  /-- The text of that file is not a YAML document, for the given reason if there
  is one. -/
  | malformed (file : Text) (reason : Option Text)
  /-- The document of that file is not a mapping. -/
  | notMapping (file : Text)
  /-- The mapping is not one of settings. -/
  | refused (e : SettingsError)
  deriving Repr

/-- What is wrong, for a person to read, if that can be said. -/
def LoadError.message? : LoadError → Option String
  | .undecodable => none
  | .malformed _ none => some "Invalid YAML"
  | .malformed file (some reason) =>
    some ("Invalid YAML in " ++ String.ofList file ++ ": " ++ String.ofList reason)
  | .notMapping file => some ("YAML must be a mapping: " ++ String.ofList file)
  | .refused e => e.message?

namespace Settings

/-- Settings from the value of a document. -/
def ofValue (file : Text) (value : Value) : Except LoadError Settings :=
  if value.isFalsy then (ofEntries []).mapError .refused
  else match value with
    | .map entries => (ofEntries entries).mapError .refused
    | _ => .error (.notMapping file)

/-- Settings from what was read under the name of a file, given a reader of
documents. -/
def loadWith (reader : DocumentReader) (file : Text) : FileContent → Except LoadError Settings
  | .missing => .ok defaults
  | .undecodable => .error .undecodable
  | .text s =>
    match reader s with
    | .ok value => ofValue file value
    | .error reason => .error (.malformed file reason)

/-- Settings from what was read under the name of a file. -/
def load (file : Text) (content : FileContent) : Except LoadError Settings :=
  loadWith .plain file content

end Settings

end Stencil
