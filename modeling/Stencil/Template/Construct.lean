import Stencil.Condition.Read

/-!
# `Stencil.Template.Construct`: what may stand at a place in a template

    INTERPOLATION = "%{" PATH (WS NAME)? "}"
    OPENING       = "<" "#" "if" "(" CONDITION ")" ">"
    CLOSING       = "<" "/" "#" NAME ">"

White space may stand between the parts, except inside `%{` and between `#` and
the name after it. A path is followed by a name only if white space parts them.

`front` looks at one place and says what stands there: a whole construct and the
text after it, a construct that begins and is broken, or nothing in particular. It
looks at the text from that place on and at nothing else. Whether a closing tag
belongs there, and whether a transform is known, is not its business.

A closing tag only counts when all of it is there. An opening tag and an
interpolation are broken as soon as they have begun, at `<#` and `%{`.
-/

set_option autoImplicit false

namespace Stencil

open Text (char? word? space? skipSpace name?)

/-- The name of the one tag there is. -/
def ifName : Text := ['i', 'f']

/-- A construct of the template language. -/
inductive Construct where
  /-- The closing tag of that name. -/
  | closer (name : Text)
  /-- The opening tag of a conditional. -/
  | opener (condition : Condition)
  /-- A path, and the name of the transform that is asked for. -/
  | interpolation (path : Path) (transform : Option Text)
  deriving DecidableEq, Repr

/-- Why a construct that begins is not whole, or has no place where it stands. -/
inductive Defect where
  /-- A closing tag where no tag of its name is open. -/
  | strayCloser (name : Text)
  /-- An opening tag without a name. -/
  | missingTagName
  /-- An opening tag whose name is not known. -/
  | unknownTag (name : Text)
  /-- An opening tag of a conditional without a proper condition or end. -/
  | malformedOpener
  /-- An interpolation without a path. -/
  | missingPath
  /-- An interpolation that is not closed after its path and name. -/
  | unclosedInterpolation
  deriving DecidableEq, Repr

/-- What is wrong, for a person to read. -/
def Defect.message : Defect → String
  | .strayCloser name => "Unexpected closing tag '</#" ++ String.ofList name ++ ">'"
  | .missingTagName => "Expected tag name after '<#'"
  | .unknownTag name => "Unknown tag '<#" ++ String.ofList name ++ ">'"
  | .malformedOpener => "Malformed '<#if>' tag"
  | .missingPath => "Expected path after '%\x7b'"
  | .unclosedInterpolation => "Expected '\x7d' to close interpolation"

/-- What stands at a place in a template. -/
inductive Front where
  /-- No construct begins here. -/
  | plain
  /-- A construct begins here and is broken. -/
  | broken (defect : Defect)
  /-- A whole construct stands here, with this text after it. -/
  | construct (construct : Construct) (rest : Text)
  deriving DecidableEq, Repr

/-! ### Tags -/

/-- Takes a whole closing tag and gives its name. -/
def closer? : Reader Text := fun s => do
  let rest ← char? '<' s
  let rest ← char? '/' (skipSpace rest)
  let rest ← char? '#' (skipSpace rest)
  let (name, rest) ← name? rest
  let rest ← char? '>' (skipSpace rest)
  some (name, rest)

/-- Takes the beginning of an opening tag, up to the place of its name. -/
def opening? (s : Text) : Option Text := do
  let rest ← char? '<' s
  char? '#' (skipSpace rest)

/-- Takes what follows the name of a conditional: a condition in parentheses and
the end of the tag. -/
def guard? : Reader Condition := fun s => do
  let rest ← char? '(' (skipSpace s)
  let (condition, rest) ← Condition.condition? Condition.nestingLimit (skipSpace rest)
  let rest ← char? ')' (skipSpace rest)
  let rest ← char? '>' (skipSpace rest)
  some (condition, rest)

/-- Reads an opening tag from the place of its name on. -/
def openerFront (s : Text) : Front :=
  match name? s with
  | none => .broken .missingTagName
  | some (name, rest) =>
    if name = ifName then
      match guard? rest with
      | none => .broken .malformedOpener
      | some (condition, rest) => .construct (.opener condition) rest
    else .broken (.unknownTag name)

/-! ### Interpolations -/

/-- Takes what may stand between the path of an interpolation and its end: white
space, then a name, then more white space. -/
def transformName (s : Text) : Option Text × Text :=
  match space? s with
  | none => (none, s)
  | some rest =>
    match name? rest with
    | none => (none, rest)
    | some (name, rest) => (some name, skipSpace rest)

/-- Reads an interpolation from the place after `%{` on. -/
def interpolationFront (s : Text) : Front :=
  match path? (skipSpace s) with
  | none => .broken .missingPath
  | some (path, rest) =>
    let (transform, rest) := transformName rest
    match char? '\x7d' rest with
    | none => .broken .unclosedInterpolation
    | some rest => .construct (.interpolation path transform) rest

/-- Says what stands at the front of a text. -/
def front (s : Text) : Front :=
  match closer? s with
  | some (name, rest) => .construct (.closer name) rest
  | none =>
    match opening? s with
    | some rest => openerFront rest
    | none =>
      match word? ['%', '\x7b'] s with
      | some rest => interpolationFront rest
      | none => .plain

/-! ### What a construct leaves -/

theorem suffix_of_char?_skipSpace {c : Char} {s rest : Text}
    (h : char? c (skipSpace s) = some rest) : rest <:+ s ∧ rest.length < s.length := by
  have hs := Text.skipSpace_suffix s
  rw [Text.suffix_of_char? h] at hs
  have := hs.length_le
  simp only [List.length_cons] at this
  exact ⟨(List.suffix_cons c rest).trans hs, by omega⟩

theorem closer?_advances : Reader.Advances closer? := by
  intro s name rest h
  simp only [closer?, Option.bind_eq_bind, Option.bind_eq_some_iff, Option.some.injEq,
    Prod.exists, Prod.mk.injEq] at h
  obtain ⟨r1, h1, r2, h2, r3, h3, name', r4, h4, r5, h5, -, rfl⟩ := h
  rw [Text.suffix_of_char? h1]
  have h2 := suffix_of_char?_skipSpace h2
  have h3 := suffix_of_char?_skipSpace h3
  have h4 := Text.name?_advances h4
  have h5 := suffix_of_char?_skipSpace h5
  refine ⟨h5.1.trans (h4.1.trans (h3.1.trans (h2.1.trans (List.suffix_cons _ _)))), ?_⟩
  simp only [List.length_cons]
  omega

theorem opening?_advances {s rest : Text} (h : opening? s = some rest) :
    rest <:+ s ∧ rest.length < s.length := by
  simp only [opening?, Option.bind_eq_bind, Option.bind_eq_some_iff] at h
  obtain ⟨r1, h1, h2⟩ := h
  rw [Text.suffix_of_char? h1]
  have h2 := suffix_of_char?_skipSpace h2
  refine ⟨h2.1.trans (List.suffix_cons _ _), ?_⟩
  simp only [List.length_cons]
  omega

theorem guard?_advances : Reader.Advances guard? := by
  intro s condition rest h
  simp only [guard?, Option.bind_eq_bind, Option.bind_eq_some_iff, Option.some.injEq,
    Prod.exists, Prod.mk.injEq] at h
  obtain ⟨r1, h1, condition', r2, h2, r3, h3, r4, h4, -, rfl⟩ := h
  have h1 := suffix_of_char?_skipSpace h1
  have h2 := Condition.condition?_advances _ h2
  have h3 := suffix_of_char?_skipSpace h3
  have h4 := suffix_of_char?_skipSpace h4
  have hs := Text.skipSpace_suffix r1
  have := hs.length_le
  exact ⟨h4.1.trans (h3.1.trans (h2.1.trans (hs.trans h1.1))), by omega⟩

theorem transformName_suffix (s : Text) : (transformName s).2 <:+ s := by
  unfold transformName
  split
  · exact List.suffix_refl s
  · rename_i rest hspace
    have hspace := (Text.suffix_of_space? hspace).1
    split
    · exact hspace
    · rename_i name left hname
      exact (Text.skipSpace_suffix left).trans ((Text.name?_advances hname).1.trans hspace)

theorem suffix_of_openerFront {s rest : Text} {c : Construct}
    (h : openerFront s = .construct c rest) : rest <:+ s := by
  unfold openerFront at h
  split at h
  · cases h
  · rename_i name left hname
    split at h
    · split at h
      · cases h
      · rename_i condition left' hguard
        cases h
        exact (guard?_advances hguard).1.trans (Text.name?_advances hname).1
    · cases h

theorem suffix_of_interpolationFront {s rest : Text} {c : Construct}
    (h : interpolationFront s = .construct c rest) : rest <:+ s := by
  unfold interpolationFront at h
  split at h
  · cases h
  · rename_i path left hpath
    have hpath := (path?_advances hpath).1.trans (Text.skipSpace_suffix s)
    simp only at h
    split at h
    · cases h
    · rename_i left' hclose
      cases h
      have hname := transformName_suffix left
      rw [Text.suffix_of_char? hclose] at hname
      exact (List.suffix_cons _ _).trans (hname.trans hpath)

/-- A whole construct takes at least one character, and leaves a suffix. -/
theorem front_advances {s rest : Text} {c : Construct} (h : front s = .construct c rest) :
    rest <:+ s ∧ rest.length < s.length := by
  unfold front at h
  split at h
  · -- A closing tag.
    rename_i name left hcloser
    cases h
    exact closer?_advances hcloser
  · split at h
    · -- An opening tag: `<#` takes two characters already, so it is enough that what
      -- follows them leaves a suffix.
      rename_i left hopening
      have hsuffix := suffix_of_openerFront h
      have hopening := opening?_advances hopening
      have := hsuffix.length_le
      exact ⟨hsuffix.trans hopening.1, by omega⟩
    · split at h
      · -- An interpolation, where `%{` takes two.
        rename_i left hword
        have hsuffix := suffix_of_interpolationFront h
        have := hsuffix.length_le
        rw [Text.word?_eq_some_iff.mp hword]
        refine ⟨hsuffix.trans (List.suffix_append _ _), ?_⟩
        simp only [List.cons_append, List.nil_append, List.length_cons]
        omega
      · cases h

end Stencil
