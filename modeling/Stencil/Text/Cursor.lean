import Stencil.Number.Integer
import Stencil.Text.Read
import Stencil.Text.Quoted

/-!
# `Stencil.Text.Cursor`: a place in a text

A cursor is a text with an offset into it. Moving it gives another cursor, so an
attempt that fails costs nothing: the cursor it began with is still there. The
offset may lie past the end, and is then left alone.

`Cursor.read?` applies a reader at a cursor. The reader sees only what follows the
cursor, and the new offset is found from how much it left.

A *walk* is a cursor together with a mark, an earlier cursor from which text can be
cut out. `Walk.step` performs one of the lexical primitives and says whether it
succeeded; on failure the walk stays where it is.
-/

set_option autoImplicit false

namespace Stencil

open Text (char? word? space? skipSpace identifier? name? quoted)

/-- A text and an offset into it, counted in code points. -/
structure Cursor where
  text : Text
  offset : Nat
  deriving DecidableEq, Repr

namespace Cursor

/-- What follows the cursor. -/
def rest (c : Cursor) : Text :=
  c.text.drop c.offset

/-- The character at the cursor, unless it stands at or past the end. -/
def current? (c : Cursor) : Option Char :=
  c.rest.head?

/-- The cursor stands at or past the end. -/
def atEnd (c : Cursor) : Bool :=
  c.text.length ≤ c.offset

/-- The cursor one character further on, but never past the end. -/
def advance (c : Cursor) : Cursor :=
  if c.atEnd then c else { c with offset := c.offset + 1 }

/-- The text from an earlier cursor up to this one. -/
def since (c mark : Cursor) : Text :=
  (c.text.take c.offset).drop mark.offset

/-- The cursor from which `left` remains, if `left` is a suffix of what follows. -/
def moveTo (c : Cursor) (left : Text) : Cursor :=
  { c with offset := c.offset + (c.rest.length - left.length) }

/-- Applies a reader at the cursor. -/
def read? {α : Type} (read : Reader α) (c : Cursor) : Option (α × Cursor) :=
  (read c.rest).map fun (a, left) => (a, c.moveTo left)

/-- The character at the cursor as a text, empty at the end. -/
def currentText (c : Cursor) : Text :=
  c.current?.toList

/-- A line that shows where the cursor stands, unless its offset is too long to be
written out. -/
def describe? (c : Cursor) : Option Text := do
  let offset ← Integer.written? c.offset
  some ("Cursor(offset=".toList ++ offset ++ ", current=".toList ++ quoted c.currentText ++ [')'])

end Cursor

/-- The lexical primitives, as steps of a walk. -/
inductive Walk.Step where
  /-- Go one character on. -/
  | advance
  /-- Remember this place. -/
  | mark
  /-- Cut out the text from the mark up to here. -/
  | textSince
  /-- Take the one character that makes up the given text. A text of another
  length matches no character. -/
  | accept (wanted : Text)
  /-- Take the characters of the given text, one after the other. -/
  | acceptAll (wanted : Text)
  /-- Take white space, of which there must be some. -/
  | space
  /-- Leave out white space, if there is any. -/
  | skipSpace
  /-- Take an identifier. -/
  | identifier
  /-- Take a run of the letters `a` to `z`. -/
  | name
  deriving DecidableEq, Repr

/-- A cursor and the place that was last marked. -/
structure Walk where
  here : Cursor
  marked : Cursor

/-- What a step came to: whether it succeeded, the text it took or cut out if it
gives one, and the walk after it. -/
structure Walk.Report where
  ok : Bool
  value : Option Text
  walk : Walk

namespace Walk

/-- A walk that begins at a cursor has its mark there. -/
def start (c : Cursor) : Walk :=
  ⟨c, c⟩

private def movedTo (w : Walk) : Option Text → Report
  | some left => ⟨true, none, { w with here := w.here.moveTo left }⟩
  | none => ⟨false, none, w⟩

private def taking (w : Walk) (read : Reader Text) : Report :=
  match w.here.read? read with
  | some (taken, here) => ⟨true, some taken, { w with here }⟩
  | none => ⟨false, none, w⟩

/-- Performs one step. -/
def step (w : Walk) : Step → Report
  | .advance => ⟨true, none, { w with here := w.here.advance }⟩
  | .mark => ⟨true, none, { w with marked := w.here }⟩
  | .textSince => ⟨true, some (w.here.since w.marked), w⟩
  | .accept [wanted] => w.movedTo (char? wanted w.here.rest)
  | .accept _ => ⟨false, none, w⟩
  | .acceptAll wanted => w.movedTo (word? wanted w.here.rest)
  | .space => w.movedTo (space? w.here.rest)
  | .skipSpace => w.movedTo (some (Text.skipSpace w.here.rest))
  | .identifier => w.taking identifier?
  | .name => w.taking name?

end Walk

end Stencil
