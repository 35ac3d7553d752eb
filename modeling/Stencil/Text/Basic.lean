/-!
# `Stencil.Text.Basic`: texts and readers

A template, a name and a piece of either are all lists of Unicode code points, so
that an offset, a length and a cut count code points and nothing else. Everything
that is read, kept in a tree or written back to template source is a `Text`.
Messages for a person are `String`s.

A *reader* takes a value off the front of a text and says what is left. Readers
know nothing of what stood before the text they are given. That is what makes the
grammar independent of its left context, and it lets a reader be applied to any
suffix of a larger text.
-/

set_option autoImplicit false

namespace Stencil

/-- A text is the list of its code points. -/
abbrev Text := List Char

/-- A reader takes a value off the front of a text, or fails. On success it
returns the value and what is left of the text. -/
abbrev Reader (α : Type) := Text → Option (α × Text)

/-- A message about the place in a text that an offset tells. -/
def atOffset (position : Nat) (detail : String) : String :=
  "Parse error at position " ++ toString position ++ ": " ++ detail

namespace Reader

variable {α : Type}

/-- A reader advances if, whenever it succeeds, what it leaves is a proper suffix
of what it was given. Such a reader may be repeated without losing termination. -/
def Advances (read : Reader α) : Prop :=
  ∀ {s : Text} {a : α} {rest : Text}, read s = some (a, rest) →
    rest <:+ s ∧ rest.length < s.length

end Reader

end Stencil
