import Stencil.Proofs.Template.Lexeme

/-!
# `Stencil.Proofs.Template.Front`: what stands at a place in a template

`front` looks at one place and goes from one reader to the next. Here
the same is said reader by reader. `closer?`, `header?` and
`interpolation?` take the three constructs, each of them if and only if
a lexeme of it stands at the front, and `defect?` says what is wrong
with a construct that begins and is not whole. `front_eq` puts them
together, in the order in which they are tried.

The two statements that the rest of the theory uses are about lexemes
and marks, and no longer about readers:

* `front_eq_construct_iff`: a construct is found if and only if a
  lexeme of it stands at the front, with its condition nested no
  deeper than the limit;
* `front_eq_plain_iff`: nothing is found if and only if none of the
  marks stands there: `%` with a brace, `<` with `#`, or a whole
  closing tag.
-/

set_option autoImplicit false

namespace Stencil

open Text (Blank StopsAt isSpace char? word? space? skipSpace name?)
open Condition (Spelling nestingLimit)

/-! ### The readers of whole constructs -/

/-- Takes a whole opening tag and gives its condition. -/
def header? : Reader Condition := fun s => do
  let rest ← opening? s
  let (name, rest) ← name? rest
  if name = ifName then guard? rest else none

/-- Takes a whole interpolation and gives its path and the name that is
asked for. -/
def interpolation? : Reader (Path × Option Text) := fun s => do
  let rest ← word? ['%', '\x7b'] s
  let (path, rest) ← path? (skipSpace rest)
  let (name, rest) := transformName rest
  let rest ← char? '\x7d' rest
  some ((path, name), rest)

/-- What is wrong where `<#` or `%` with a brace stands and no whole
construct does. -/
def defect? (s : Text) : Option Defect :=
  match opening? s with
  | some rest =>
    match name? rest with
    | none => some .missingTagName
    | some (name, _) => some (if name = ifName then .malformedOpener else .unknownTag name)
  | none =>
    match word? ['%', '\x7b'] s with
    | some rest =>
      some (if (path? (skipSpace rest)).isNone then .missingPath else .unclosedInterpolation)
    | none => none

/-- An opening tag and an interpolation do not begin alike. -/
theorem word?_eq_none_of_opening? {s rest : Text} (h : opening? s = some rest) :
    word? ['%', '\x7b'] s = none := by
  cases s with
  | nil => rfl
  | cons c tail =>
    simp only [opening?, Option.bind_eq_bind, Option.bind_eq_some_iff,
      Text.char?_eq_some_iff] at h
    obtain ⟨_, hc, -⟩ := h
    rw [(List.cons.inj hc).1]
    rfl

/-- **What stands at a place**, reader by reader: a closing tag, else an
opening tag, else an interpolation, else one of the two that is broken,
else nothing in particular. -/
theorem front_eq (s : Text) : front s =
    match closer? s with
    | some (name, rest) => .construct (.closer name) rest
    | none =>
      match header? s with
      | some (condition, rest) => .construct (.opener condition) rest
      | none =>
        match interpolation? s with
        | some ((path, name), rest) => .construct (.interpolation path name) rest
        | none =>
          match defect? s with
          | some defect => .broken defect
          | none => .plain := by
  unfold front
  cases hcloser : closer? s with
  | some found => rfl
  | none =>
    cases hopening : opening? s with
    | some rest =>
      -- An opening tag has begun. `%` cannot stand here as well.
      have hword := word?_eq_none_of_opening? hopening
      cases hname : name? rest with
      | none => simp [header?, interpolation?, defect?, hopening, hword, openerFront, hname]
      | some found =>
        obtain ⟨name, rest'⟩ := found
        by_cases hif : name = ifName
        · cases hguard : guard? rest' <;>
            simp [header?, interpolation?, defect?, hopening, hword, openerFront, hname, hif,
              hguard]
        · simp [header?, interpolation?, defect?, hopening, hword, openerFront, hname, hif]
    | none =>
      -- No opening tag has begun, so only an interpolation may stand here.
      cases hword : word? ['%', '\x7b'] s with
      | none => simp [header?, interpolation?, defect?, hopening, hword]
      | some rest =>
        cases hpath : path? (skipSpace rest) with
        | none =>
          simp [header?, interpolation?, defect?, hopening, hword, interpolationFront, hpath]
        | some found =>
          obtain ⟨path, rest'⟩ := found
          cases hclose : char? '\x7d' (transformName rest').2 <;>
            simp [header?, interpolation?, defect?, hopening, hword, interpolationFront, hpath,
              hclose]

/-! ### Each reader finds the lexemes -/

/-- A closing tag is read if and only if one stands at the front. -/
theorem closer?_eq_some_iff {s name rest : Text} :
    closer? s = some (name, rest) ↔
      ∃ l : Lexeme.Closer, l.name = name ∧ s = l.text ++ rest := by
  simp only [closer?, Option.bind_eq_bind, Option.bind_eq_some_iff, Option.some.injEq,
    Prod.exists, Prod.mk.injEq, Text.char?_eq_some_iff, Text.name?_eq_some_iff,
    Text.char?_skipSpace_eq_some_iff (c := '/') (by decide),
    Text.char?_skipSpace_eq_some_iff (c := '#') (by decide),
    Text.char?_skipSpace_eq_some_iff (c := '>') (by decide)]
  constructor
  · intro h
    obtain ⟨_, rfl, _, ⟨w, rfl⟩, _, ⟨w', rfl⟩, _, _, ⟨hname, rfl, -⟩, _, ⟨w'', rfl⟩, rfl,
      rfl⟩ := h
    exact ⟨⟨w, w', _, w'', hname⟩, rfl, by simp [Lexeme.Closer.text]⟩
  · intro h
    obtain ⟨⟨w, w', name, w'', hname⟩, rfl, rfl⟩ := h
    refine ⟨w.1 ++ '/' :: (w'.1 ++ '#' :: (name ++ (w''.1 ++ '>' :: rest))), ?_,
      w'.1 ++ '#' :: (name ++ (w''.1 ++ '>' :: rest)), ⟨w, rfl⟩,
      name ++ (w''.1 ++ '>' :: rest), ⟨w', rfl⟩, name, w''.1 ++ '>' :: rest,
      ⟨hname, rfl, ?_⟩, rest, ⟨w'', rfl⟩, rfl, rfl⟩
    · simp [Lexeme.Closer.text]
    · exact Text.stopsAt_isLowercase_delimiter w'' (by decide) rest

/-- An opening tag begins where `<` and `#` stand, perhaps with white space
between them. -/
theorem opening?_eq_some_iff {s rest : Text} :
    opening? s = some rest ↔ ∃ w : Blank, s = '<' :: (w.1 ++ '#' :: rest) := by
  simp only [opening?, Option.bind_eq_bind, Option.bind_eq_some_iff, Text.char?_eq_some_iff,
    Text.char?_skipSpace_eq_some_iff (c := '#') (by decide)]
  constructor
  · intro h
    obtain ⟨_, rfl, w, rfl⟩ := h
    exact ⟨w, rfl⟩
  · intro h
    obtain ⟨w, rfl⟩ := h
    exact ⟨_, rfl, w, rfl⟩

/-- A condition behind white space is read, before the closing parenthesis,
if and only if a spelling of it stands there. -/
theorem condition?_skipSpace_eq_some_iff {s rest : Text} {c : Condition} {w : Blank} :
    Condition.condition? nestingLimit (skipSpace s) = some (c, w.1 ++ ')' :: rest) ↔
      ∃ (v : Blank) (e : Spelling), e.IsProper ∧ e.nesting ≤ nestingLimit ∧ e.value = c ∧
        s = v.1 ++ (e.text ++ (w.1 ++ ')' :: rest)) := by
  have hread : Condition.condition? nestingLimit = Condition.readAt nestingLimit 2 := rfl
  rw [hread]
  constructor
  · intro h
    obtain ⟨e, he, -, hnesting, hvalue, htext, -⟩ :=
      Condition.spelled_of_readAt (Nat.le_refl 2) h
    obtain ⟨v, hv⟩ := Text.exists_blank_append_skipSpace s
    rw [htext] at hv
    exact ⟨v, e, he, hnesting, hvalue, hv⟩
  · intro h
    obtain ⟨v, e, he, hnesting, rfl, rfl⟩ := h
    rw [Text.skipSpace_blank_append v (Spelling.stopsAt_isSpace_text he _)]
    exact Condition.readAt_text he hnesting e.level_le_two (Nat.le_refl 2)
      (Spelling.ends_of_boundary he (Condition.boundary_paren w rest) 2)

/-- An opening tag is read if and only if one stands at the front whose
condition is not nested too deep. -/
theorem header?_eq_some_iff {s rest : Text} {c : Condition} :
    header? s = some (c, rest) ↔ ∃ l : Lexeme.Opener,
      l.condition.nesting ≤ nestingLimit ∧ l.condition.value = c ∧ s = l.text ++ rest := by
  simp only [header?, guard?, Option.bind_eq_bind, Option.bind_eq_some_iff, Prod.exists,
    Option.ite_none_right_eq_some, Option.some.injEq, Prod.mk.injEq,
    Text.name?_eq_some_iff, opening?_eq_some_iff,
    Text.char?_skipSpace_eq_some_iff (c := '(') (by decide),
    Text.char?_skipSpace_eq_some_iff (c := ')') (by decide),
    Text.char?_skipSpace_eq_some_iff (c := '>') (by decide)]
  constructor
  · intro h
    obtain ⟨_, ⟨w, rfl⟩, _, _, ⟨-, rfl, -⟩, rfl, _, ⟨w', rfl⟩, _, _, hcondition, _, ⟨x, rfl⟩, _,
      ⟨x', rfl⟩, rfl, rfl⟩ := h
    obtain ⟨w'', e, he, hnesting, hvalue, rfl⟩ := condition?_skipSpace_eq_some_iff.mp hcondition
    exact ⟨⟨w, w', w'', e, x, x', he⟩, hnesting, hvalue, by simp [Lexeme.Opener.text]⟩
  · intro h
    obtain ⟨⟨w, w', w'', e, x, x', he⟩, hnesting, rfl, rfl⟩ := h
    -- The name is over at the parenthesis, with or without white space before it.
    refine ⟨_, ⟨w, ?_⟩, ifName, _, ⟨by decide, rfl, ?_⟩, rfl, _, ⟨w', rfl⟩, e.value, _,
      condition?_skipSpace_eq_some_iff.mpr ⟨w'', e, he, hnesting, rfl, rfl⟩, _, ⟨x, rfl⟩,
      rest, ⟨x', rfl⟩, rfl, rfl⟩
    · simp [Lexeme.Opener.text]
    · exact Text.stopsAt_isLowercase_delimiter w' (by decide) _

/-- What stands between a path and the closing brace is read as a name or
as nothing, and the white space with it. -/
theorem transformName_eq_iff {s rest : Text} {name : Option Text} :
    transformName s = (name, '\x7d' :: rest) ↔
      ∃ (request : Option Lexeme.Request) (w : Blank),
        request.map Lexeme.Request.name = name ∧
          s = Lexeme.requestText request ++ (w.1 ++ '\x7d' :: rest) := by
  have hbrace : StopsAt isSpace ('\x7d' :: rest) :=
    Text.stopsAt_isSpace_delimiter (by decide) rest
  constructor
  · intro h
    unfold transformName at h
    split at h
    · obtain ⟨rfl, rfl⟩ := Prod.mk.inj h
      exact ⟨none, Blank.none, rfl, rfl⟩
    · -- There is white space. A name may follow it.
      rename_i left hspace
      obtain ⟨gap, hgap, rfl, -⟩ := Text.space?_eq_some_iff.mp hspace
      split at h
      · obtain ⟨rfl, rfl⟩ := Prod.mk.inj h
        exact ⟨none, gap, rfl, rfl⟩
      · rename_i name' left' hread
        obtain ⟨rfl, hskip⟩ := Prod.mk.inj h
        obtain ⟨hname, rfl, -⟩ := Text.name?_eq_some_iff.mp hread
        obtain ⟨⟨w, rfl⟩, -⟩ := Text.skipSpace_eq_iff.mp hskip
        exact ⟨some ⟨gap, name', hgap, hname⟩, w, rfl, by simp [Lexeme.requestText]⟩
  · intro h
    obtain ⟨request, w, rfl, rfl⟩ := h
    cases request with
    | none =>
      -- Without a name, all the white space comes before the brace.
      by_cases hw : w.1 = []
      · have hspace := Text.space?_eq_none_of_stopsAt hbrace
        simp [transformName, Lexeme.requestText, hw, hspace]
      · have hspace : space? (w.1 ++ '\x7d' :: rest) = some ('\x7d' :: rest) :=
          Text.space?_eq_some_iff.mpr ⟨w, hw, rfl, hbrace⟩
        have hname : name? ('\x7d' :: rest) = none :=
          Text.name?_eq_none_of_stopsAt (Text.isLowercase_delimiter (by decide))
        simp [transformName, Lexeme.requestText, hspace, hname]
    | some r =>
      obtain ⟨gap, name, hgap, hname⟩ := r
      have hspace : space? (gap.1 ++ (name ++ (w.1 ++ '\x7d' :: rest))) =
          some (name ++ (w.1 ++ '\x7d' :: rest)) :=
        Text.space?_eq_some_iff.mpr ⟨gap, hgap, rfl, Lexeme.stopsAt_isSpace_name hname _⟩
      have hread : name? (name ++ (w.1 ++ '\x7d' :: rest)) =
          some (name, w.1 ++ '\x7d' :: rest) :=
        Text.name?_eq_some_iff.mpr
          ⟨hname, rfl, Text.stopsAt_isLowercase_delimiter w (by decide) rest⟩
      simp [transformName, Lexeme.requestText, hspace, hread,
        Text.skipSpace_blank_append w hbrace]

/-- An interpolation is read if and only if one stands at the front. -/
theorem interpolation?_eq_some_iff {s rest : Text} {path : Path} {name : Option Text} :
    interpolation? s = some ((path, name), rest) ↔ ∃ l : Lexeme.Interpolation,
      l.path = path ∧ l.name = name ∧ s = l.text ++ rest := by
  simp only [interpolation?, Option.bind_eq_bind, Option.bind_eq_some_iff, Prod.exists,
    Option.some.injEq, Prod.mk.injEq, Text.word?_eq_some_iff, Text.char?_eq_some_iff]
  constructor
  · intro h
    obtain ⟨left, rfl, path, left', hpath, _, hclose, ⟨rfl, rfl⟩, rfl⟩ := h
    obtain ⟨request, w, hrequest, rfl⟩ := transformName_eq_iff.mp (Prod.ext rfl hclose)
    obtain ⟨hlexical, htext, -⟩ := path?_eq_some_iff.mp hpath
    obtain ⟨v, hv⟩ := Text.exists_blank_append_skipSpace left
    refine ⟨⟨v, path, request, w, hlexical⟩, rfl, hrequest, ?_⟩
    rw [hv, htext]
    simp [Lexeme.Interpolation.text]
  · intro h
    obtain ⟨⟨v, path, request, w, hlexical⟩, rfl, rfl, rfl⟩ := h
    have hname : transformName (Lexeme.requestText request ++ (w.1 ++ '\x7d' :: rest)) =
        (request.map Lexeme.Request.name, '\x7d' :: rest) :=
      transformName_eq_iff.mpr ⟨request, w, rfl, rfl⟩
    refine ⟨v.1 ++ (path.print ++ (Lexeme.requestText request ++ (w.1 ++ '\x7d' :: rest))),
      by simp [Lexeme.Interpolation.text], path,
      Lexeme.requestText request ++ (w.1 ++ '\x7d' :: rest), ?_, rest, ?_, ⟨rfl, ?_⟩, rfl⟩
    · rw [Text.skipSpace_blank_append v (Path.stopsAt_isSpace_print hlexical _)]
      exact path?_eq_some_iff.mpr
        ⟨hlexical, rfl, Path.Ends.of_stopsAt (Lexeme.stopsAt_requestText request w rest)⟩
    · rw [hname]
    · rw [hname]
      rfl

/-! ### Lexemes and marks -/

/-- **A construct is found** if and only if a lexeme of it stands at the
front, with a condition that is not nested too deep. -/
theorem front_eq_construct_iff {s rest : Text} {c : Construct} :
    front s = .construct c rest ↔ ∃ l : Lexeme,
      l.nesting ≤ nestingLimit ∧ l.construct = c ∧ s = l.text ++ rest := by
  have hfound : ∀ {c rest}, front s = .construct c rest → ∃ l : Lexeme,
      l.nesting ≤ nestingLimit ∧ l.construct = c ∧ s = l.text ++ rest := by
    intro c rest h
    rw [front_eq] at h
    split at h
    · rename_i name left hread
      cases h
      obtain ⟨l, rfl, hs⟩ := closer?_eq_some_iff.mp hread
      exact ⟨.closer l, Nat.zero_le _, rfl, hs⟩
    · split at h
      · rename_i condition left hread
        cases h
        obtain ⟨l, hnesting, rfl, hs⟩ := header?_eq_some_iff.mp hread
        exact ⟨.opener l, hnesting, rfl, hs⟩
      · split at h
        · rename_i path name left hread
          cases h
          obtain ⟨l, rfl, rfl, hs⟩ := interpolation?_eq_some_iff.mp hread
          exact ⟨.interpolation l, Nat.zero_le _, rfl, hs⟩
        · split at h <;> cases h
  constructor
  · exact hfound
  · -- A lexeme at the front makes one of the readers succeed, so some lexeme is found.
    -- Two lexemes at the front are the same.
    intro h
    obtain ⟨l, hnesting, rfl, hs⟩ := h
    have hsome : ∃ c rest, front s = .construct c rest := by
      rw [front_eq]
      cases hcloser : closer? s with
      | some found => exact ⟨_, _, rfl⟩
      | none =>
        cases hheader : header? s with
        | some found => exact ⟨_, _, rfl⟩
        | none =>
          cases hinterpolation : interpolation? s with
          | some found => exact ⟨_, _, rfl⟩
          | none =>
            exfalso
            cases l with
            | closer l =>
              rw [closer?_eq_some_iff.mpr ⟨l, rfl, hs⟩] at hcloser
              cases hcloser
            | opener l =>
              rw [header?_eq_some_iff.mpr ⟨l, hnesting, rfl, hs⟩] at hheader
              cases hheader
            | interpolation l =>
              rw [interpolation?_eq_some_iff.mpr ⟨l, rfl, rfl, hs⟩] at hinterpolation
              cases hinterpolation
    obtain ⟨c, rest', hfront⟩ := hsome
    obtain ⟨l', -, rfl, hs'⟩ := hfound hfront
    obtain ⟨rfl, rfl⟩ := Lexeme.text_append_inj (hs.symm.trans hs')
    exact hfront

/-- An opening tag or an interpolation begins here, whole or not. -/
def Begun (s : Text) : Prop :=
  (∃ (w : Blank) (rest : Text), s = '<' :: (w.1 ++ '#' :: rest)) ∨
    ∃ rest : Text, s = '%' :: '\x7b' :: rest

/-- One of the marks stands at the front: a whole closing tag, or what an
opening tag or an interpolation begins with. -/
def Marked (s : Text) : Prop :=
  (∃ (l : Lexeme.Closer) (rest : Text), s = l.text ++ rest) ∨ Begun s

/-- Something may be wrong where one of the two begins and nowhere else. -/
theorem defect?_isSome_iff {s : Text} : (defect? s).isSome = true ↔ Begun s := by
  have hopening : (∃ (w : Blank) (rest : Text), s = '<' :: (w.1 ++ '#' :: rest)) ↔
      ∃ rest, opening? s = some rest := by
    simp only [opening?_eq_some_iff]
    exact exists_comm
  have hword : (∃ rest, s = '%' :: '\x7b' :: rest) ↔
      ∃ rest, word? ['%', '\x7b'] s = some rest := by
    simp only [Text.word?_eq_some_iff, List.cons_append, List.nil_append]
  rw [Begun, hopening, hword]
  unfold defect?
  cases opening? s with
  | some rest => cases hname : name? rest <;> simp [hname]
  | none => cases word? ['%', '\x7b'] s <;> simp

/-- An opening tag begins where one stands. -/
theorem Lexeme.Opener.begun (l : Lexeme.Opener) (rest : Text) : Begun (l.text ++ rest) :=
  Or.inl ⟨l.afterAngle, _, by
    rw [Lexeme.Opener.text, List.cons_append, List.append_assoc, List.cons_append]⟩

/-- An interpolation begins where one stands. -/
theorem Lexeme.Interpolation.begun (l : Lexeme.Interpolation) (rest : Text) :
    Begun (l.text ++ rest) :=
  Or.inr ⟨_, rfl⟩

/-- A mark stands where a lexeme does. -/
theorem Lexeme.marked (l : Lexeme) (rest : Text) : Marked (l.text ++ rest) := by
  cases l with
  | closer l => exact Or.inl ⟨l, rest, rfl⟩
  | opener l => exact Or.inr (l.begun rest)
  | interpolation l => exact Or.inr (l.begun rest)

/-- **Nothing is found** if and only if none of the marks stands there. -/
theorem front_eq_plain_iff {s : Text} : front s = .plain ↔ ¬ Marked s := by
  rw [front_eq]
  cases hcloser : closer? s with
  | some found =>
    obtain ⟨l, -, hs⟩ := closer?_eq_some_iff.mp hcloser
    have hmarked : Marked s := Or.inl ⟨l, _, hs⟩
    simp [hmarked]
  | none =>
    have hclosed : ¬ ∃ (l : Lexeme.Closer) (rest : Text), s = l.text ++ rest := by
      intro h
      obtain ⟨l, rest, hs⟩ := h
      rw [closer?_eq_some_iff.mpr ⟨l, rfl, hs⟩] at hcloser
      cases hcloser
    -- Without a closing tag, what is left of a mark is a construct that begins.
    have hmarked : Marked s ↔ Begun s := or_iff_right hclosed
    rw [hmarked]
    cases hheader : header? s with
    | some found =>
      obtain ⟨l, -, -, rfl⟩ := header?_eq_some_iff.mp hheader
      simp [l.begun found.2]
    | none =>
      cases hinterpolation : interpolation? s with
      | some found =>
        obtain ⟨l, -, -, rfl⟩ := interpolation?_eq_some_iff.mp hinterpolation
        simp [l.begun found.2]
      | none =>
        rw [← defect?_isSome_iff]
        cases defect? s <;> simp

end Stencil
