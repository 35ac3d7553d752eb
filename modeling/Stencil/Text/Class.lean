import Stencil.Text.Basic
import Stencil.Text.Table.IdentifierStart
import Stencil.Text.Table.IdentifierExtra
import Stencil.Text.Table.Printable

/-!
# `Stencil.Text.Class`: the character classes of the template language

Three classes drive the grammar: white space, which may stand between the parts of
a construct; identifier characters, of which paths are made; and the lower-case
Latin letters, of which the names of tags and transforms are made. A fourth class
tells which characters a quoted text shows as they are.

White space and identifiers follow the Unicode standard, version 14.0.0. The two
large classes are tables under `Stencil.Text.Table`.
-/

set_option autoImplicit false

namespace Stencil.Text

/-- The white space characters: the ASCII blanks and line ends, the four ASCII
separators U+001C to U+001F, and the blanks and line ends beyond ASCII. -/
def Table.space : Ranges :=
  [ (0x0009, 0x000d), (0x001c, 0x0020), (0x0085, 0x0085), (0x00a0, 0x00a0),
    (0x1680, 0x1680), (0x2000, 0x200a), (0x2028, 0x2029), (0x202f, 0x202f),
    (0x205f, 0x205f), (0x3000, 0x3000) ]

/-- White space, which may separate the parts of a construct. -/
def isSpace (c : Char) : Bool :=
  Table.space.contains c.toNat

/-- Characters that may begin an identifier: letters of every script, the low line
and other connecting punctuation, and currency signs. -/
def isIdentifierStart (c : Char) : Bool :=
  Table.identifierStart.contains c.toNat

/-- Characters that may stand in an identifier after its first: whatever may begin
one, and also digits and marks. -/
def isIdentifierPart (c : Char) : Bool :=
  isIdentifierStart c || Table.identifierExtra.contains c.toNat

/-- The letters of which the names of tags and transforms are made, `a` to `z`. No
other alphabet has a place there. -/
def isLowercase (c : Char) : Bool :=
  'a' ≤ c && c ≤ 'z'

/-- Characters that a quoted text shows as they are. -/
def isPrintable (c : Char) : Bool :=
  Table.printable.contains c.toNat

/-- A name of a tag or transform: one or more of the letters `a` to `z`. -/
def isName (name : Text) : Bool :=
  !name.isEmpty && name.all isLowercase

/-- An identifier: one character that may begin it, then characters that may stand
in it. -/
def isIdentifier : Text → Bool
  | [] => false
  | c :: rest => isIdentifierStart c && rest.all isIdentifierPart

/-! ### The tables ascend

The lookup stops early, which is right for an ascending table only. -/

theorem Table.space_ascending : Table.space.Ascending := by decide

theorem Table.identifierStart_ascending : Table.identifierStart.Ascending := by
  decide +kernel

theorem Table.identifierExtra_ascending : Table.identifierExtra.Ascending := by
  decide +kernel

theorem Table.printable_ascending : Table.printable.Ascending := by decide +kernel

/-- Whatever may begin an identifier may also stand further inside it. -/
theorem isIdentifierPart_of_isIdentifierStart {c : Char} (h : isIdentifierStart c = true) :
    isIdentifierPart c = true := by
  simp [isIdentifierPart, h]

end Stencil.Text
