import Stencil.Text.Basic

/-!
# `Stencil.Command.Argument`: the arguments of a command line

An argument is an option, a value, or the mark `--` after which there are only
values. Options are listed in a table with all ways to write them. A long option may
be cut short as long as only one option of the table begins so, and may have a value
attached with an equals sign. Short options may be written together behind one dash.

What begins with a dash and is no option of the table is a value only if it is a
lone dash, looks like a negative number, or holds a blank.
-/

set_option autoImplicit false

namespace Stencil

/-- One way to write an option, with its dashes, and whether a value belongs to it. -/
structure OptionForm (α : Type) where
  name : Text
  takesValue : Bool
  meaning : α

/-- What is attached to an option in the same argument, and whether an equals sign
attaches it. -/
structure Attached where
  assigned : Bool
  text : Text
  deriving DecidableEq, Repr

/-- What an argument is. -/
inductive Argument (α : Type) where
  /-- A value. -/
  | plain (value : Text)
  /-- The mark after which there are only values. -/
  | separator
  /-- An option, with what is attached to it. -/
  | option (form : OptionForm α) (attached : Option Attached)
  /-- Something that looks like an option and is none. -/
  | unknown
  /-- The beginning of several options. -/
  | ambiguous

namespace Argument

variable {α : Type}

/-- The text looks like a negative number, written with ASCII digits: a dash and
digits, with a point in front of the last of them at most. -/
def looksNegative : Text → Bool
  | '-' :: rest =>
    let part := rest.dropWhile Char.isDigit
    match part with
    | [] => !rest.isEmpty
    | '.' :: digits => !digits.isEmpty && digits.all Char.isDigit
    | _ => false
  | _ => false

/-- The part of an argument before its first equals sign, and the part after it. -/
def assignment (s : Text) : Text × Option Attached :=
  match s.dropWhile (· != '=') with
  | [] => (s, none)
  | _ :: value => (s.takeWhile (· != '='), some ⟨true, value⟩)

/-- The options of a table that an argument may mean if it is not written out. -/
def candidates (table : List (OptionForm α)) (s : Text) :
    List (OptionForm α × Option Attached) :=
  match s with
  | '-' :: '-' :: _ =>
    let (name, attached) := assignment s
    (table.filter fun form => name.isPrefixOf form.name).map fun form => (form, attached)
  | _ =>
    (table.filter fun form => form.name = s.take 2).map fun form =>
      (form, some ⟨false, s.drop 2⟩)

/-- Says what an argument is, given the options there are. -/
def read (table : List (OptionForm α)) (s : Text) : Argument α :=
  if s = ['-', '-'] then .separator
  else match table.find? fun form => form.name = s with
    | some form => .option form none
    | none =>
      if s.head? ≠ some '-' ∨ s = ['-'] then .plain s
      else
        let (name, attached) := assignment s
        let written := table.find? fun form => form.name = name
        match attached, written with
        | some attached, some form => .option form (some attached)
        | _, _ =>
          match candidates table s with
          | [(form, attached)] => .option form attached
          | [] => if looksNegative s || s.contains ' ' then .plain s else .unknown
          | _ => .ambiguous

/-- Some argument before the mark is the beginning of several options. -/
def anyAmbiguous (table : List (OptionForm α)) : List Text → Bool
  | [] => false
  | s :: rest =>
    match read table s with
    | .separator => false
    | .ambiguous => true
    | _ => anyAmbiguous table rest

/-- Takes options without values apart that are written behind one dash, given the
first of them and the letters after it. Gives their meanings and whether a letter
was met that is no option. An equals sign or a dash among the letters is refused. -/
def together? (table : List (OptionForm α)) (form : OptionForm α) (assigned : Bool) :
    Text → Option (List α × Bool)
  | [] => none
  | letter :: rest =>
    if assigned || letter = '-' then none
    else match table.find? fun other => other.name = ['-', letter] with
      | none => some ([form.meaning], true)
      | some other =>
        let more := match rest with
          | [] => some ([other.meaning], false)
          | '=' :: value => together? table other true value
          | rest => together? table other false rest
        more.map fun (meanings, stray) => (form.meaning :: meanings, stray)

/-- The meanings of an option without a value, with what is attached to it. Only a
short option can have something attached, which then is more short options. -/
def meanings? (table : List (OptionForm α)) (form : OptionForm α) :
    Option Attached → Option (List α × Bool)
  | none => some ([form.meaning], false)
  | some attached =>
    if form.name.length = 2 then together? table form attached.assigned attached.text
    else none

end Argument

end Stencil
