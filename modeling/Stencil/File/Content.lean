import Stencil.Text.Basic

/-!
# `Stencil.File.Content`: from bytes to text

A text file holds UTF-8. Its lines may end in a line feed, a carriage return, or
both; in the text that is read every line ends in a line feed.
-/

set_option autoImplicit false

namespace Stencil

/-- What comes of reading a file as text. -/
inductive FileContent where
  /-- There is no such file. -/
  | missing
  /-- There is one, and it does not hold text. -/
  | undecodable
  | text (s : Text)
  deriving DecidableEq, Repr

/-- Makes every line end in a line feed. -/
def unifyLineEnds : Text → Text
  | [] => []
  | '\r' :: '\n' :: rest => '\n' :: unifyLineEnds rest
  | '\r' :: rest => '\n' :: unifyLineEnds rest
  | c :: rest => c :: unifyLineEnds rest

/-- The text that bytes hold, if they hold one. -/
def FileContent.ofBytes (bytes : ByteArray) : FileContent :=
  match String.fromUTF8? bytes with
  | some s => .text (unifyLineEnds s.toList)
  | none => .undecodable

end Stencil
