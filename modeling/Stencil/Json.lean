import Stencil.Text.Quoted

/-!
# `Stencil.Json`: JSON values and their layout

The dictionary form of a tree is a JSON value. This module has the values that can
occur in it and the layout in which they are written: one member a line, two blanks
of indentation a level, empty arrays and objects closed at once. Characters beyond
ASCII stand as they are; only the quote, the backslash and the controls below the
space are escaped.
-/

set_option autoImplicit false

namespace Stencil

/-- A JSON value without numbers and truth values. The members of an object keep
their order. -/
inductive Json where
  | null
  | text (s : Text)
  | array (items : List Json)
  | object (members : List (Text × Json))
  deriving Repr

namespace Json

/-- How a JSON string shows one character. -/
def escape (c : Char) : Text :=
  if c = '"' ∨ c = '\\' then ['\\', c]
  else if c = '\n' then ['\\', 'n']
  else if c = '\r' then ['\\', 'r']
  else if c = '\t' then ['\\', 't']
  else if c.toNat = 0x08 then ['\\', 'b']
  else if c.toNat = 0x0c then ['\\', 'f']
  else if c.toNat < 0x20 then '\\' :: 'u' :: Text.hex 4 c.toNat
  else [c]

/-- A text as a JSON string. -/
def string (s : Text) : Text :=
  '"' :: s.flatMap escape ++ ['"']

/-- The start of a line at a level of indentation. -/
def newline (level : Nat) : Text :=
  '\n' :: List.replicate (2 * level) ' '

/-- Sets members that are already laid out between brackets, one a line. -/
def bracket (level : Nat) (opening closing : Char) (members : List Text) : Text :=
  match members with
  | [] => [opening, closing]
  | _ :: _ =>
    opening :: List.intercalate [','] (members.map (newline (level + 1) ++ ·)) ++
      newline level ++ [closing]

mutual

/-- A value as it is written from a level of indentation on. -/
def layout (level : Nat) : Json → Text
  | .null => ['n', 'u', 'l', 'l']
  | .text s => string s
  | .array items => bracket level '[' ']' (layoutItems level items)
  | .object members => bracket level '\x7b' '\x7d' (layoutMembers level members)

/-- The items of an array, each as it is written one level further in. -/
def layoutItems (level : Nat) : List Json → List Text
  | [] => []
  | item :: rest => layout (level + 1) item :: layoutItems level rest

/-- The members of an object, each as it is written one level further in. -/
def layoutMembers (level : Nat) : List (Text × Json) → List Text
  | [] => []
  | (key, value) :: rest =>
    (string key ++ [':', ' '] ++ layout (level + 1) value) :: layoutMembers level rest

end

end Json

end Stencil
