import Stencil.Text.Basic

/-!
# `Stencil.Yaml.Place`: places in a YAML document

How YAML is read depends on where a thing stands: on its column, for indentation
says what belongs together, and on its line, for a key and its colon share one. A
place is what follows in the text, with its line and column.

Between the parts of a document there are gaps of blanks, line breaks and comments.
A tab may stand in a gap, but not where it could be taken for indentation.
-/

set_option autoImplicit false

namespace Stencil.Yaml

/-- The characters that end a line. -/
def isBreak (c : Char) : Bool :=
  c = '\n' || c = '\u0085' || c = '\u2028' || c = '\u2029'

/-- The characters that part words within a line. -/
def isBlank (c : Char) : Bool :=
  c = ' ' || c = '\t'

/-- A blank, a line break or the end of the text stands here. An indicator such as
the colon counts only if this follows it. -/
def endsWord : Text → Bool
  | [] => true
  | c :: _ => isBlank c || isBreak c

/-- What follows in a text, and where that is. -/
structure Place where
  line : Nat
  column : Nat
  rest : Text
  deriving DecidableEq, Repr

namespace Place

/-- The place one character further on. -/
def step (p : Place) : Place :=
  match p.rest with
  | [] => p
  | c :: rest =>
    if isBreak c then ⟨p.line + 1, 0, rest⟩ else ⟨p.line, p.column + 1, rest⟩

/-- The place some characters further on, none of which ends the line. -/
def forward (p : Place) (count : Nat) : Place :=
  { p with column := p.column + count, rest := p.rest.drop count }

/-- Nothing follows. -/
def atEnd (p : Place) : Bool :=
  p.rest.isEmpty

/-- A line of three marks stands here, which begins or ends a document. -/
def atMarker (p : Place) (mark : Char) : Bool :=
  p.column = 0 && p.rest.take 3 = [mark, mark, mark] && endsWord (p.rest.drop 3)

/-- A document begins or ends here. -/
def atBoundary (p : Place) : Bool :=
  p.atMarker '-' || p.atMarker '.'

/-- The given indicator stands here and counts as one. -/
def atIndicator (p : Place) (indicator : Char) : Bool :=
  match p.rest with
  | [] => false
  | c :: rest => c = indicator && endsWord rest

/-- How far a key may reach from its beginning to its colon. -/
def keyLength : Nat := 1024

/-- Both places are close enough on one line for a key to stretch from one to the
other. -/
def holdsKey (start stop : Place) : Bool :=
  start.line = stop.line && start.rest.length - stop.rest.length ≤ keyLength

/-- Leaves out blanks on the same line. -/
def skipBlanks (p : Place) : Place :=
  p.forward (p.rest.takeWhile isBlank).length

/-- Leaves out a gap. Inside brackets a tab may stand anywhere in it; otherwise only
before the first line break, and there only if `tabs` allows it. -/
def skipGap (inBrackets tabs : Bool) (p : Place) : Place :=
  go tabs false p.line p.column p.rest
where
  /-- Follows the gap character by character, inside a comment or outside. -/
  go (tabs comment : Bool) (line column : Nat) : Text → Place
    | [] => ⟨line, column, []⟩
    | c :: rest =>
      if isBreak c then go inBrackets false (line + 1) 0 rest
      else if comment || c = '#' then go tabs true line (column + 1) rest
      else if c = ' ' || (c = '\t' && tabs) then go tabs false line (column + 1) rest
      else ⟨line, column, c :: rest⟩

/-! ### How much is left -/

theorem length_step_le (p : Place) : p.step.rest.length ≤ p.rest.length := by
  unfold step
  split
  · exact Nat.le_refl _
  · rename_i c rest hrest
    rw [hrest]
    split <;> exact Nat.le_succ _

theorem length_step_lt {p : Place} {c : Char} {rest : Text} (h : p.rest = c :: rest) :
    p.step.rest.length < p.rest.length := by
  simp only [step, h]
  split <;> exact Nat.lt_succ_self _

theorem length_forward_lt {p : Place} {c : Char} {rest : Text} (h : p.rest = c :: rest)
    (count : Nat) : (p.forward (count + 1)).rest.length < p.rest.length := by
  simp only [forward, h, List.drop_succ_cons, List.length_drop, List.length_cons]
  omega

end Place

end Stencil.Yaml
