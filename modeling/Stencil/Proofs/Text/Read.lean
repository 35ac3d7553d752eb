import Mathlib.Data.List.TakeWhile
import Stencil.Proofs.Text.Class
import Stencil.Text.Read

/-!
# `Stencil.Proofs.Text.Read`: what the lexical readers take

Each lexical reader takes the longest run of its class. Here every one
of them gets an equation of the form "it reads this and leaves that if
and only if the text is this followed by that, and that does not go
on": `identifier?_eq_some_iff`, `name?_eq_some_iff`, and
`char?_skipSpace_eq_some_iff` for a delimiter behind white space.

`StopsAt p s` says that `s` does not begin with a character of the
class `p`. `Blank` is the type of the white space between the parts of
a construct. `run_append_inj` and `blank_append_inj` say that a run can
be cut from what follows it in one way only, on which the uniqueness of
derivations rests.
-/

set_option autoImplicit false

namespace Stencil.Text

/-! ### Runs of a class -/

section Run

variable {p : Char → Bool}

/-- The text does not begin with a character of the class. -/
def StopsAt (p : Char → Bool) : Text → Prop
  | [] => True
  | c :: _ => p c = false

@[simp] theorem stopsAt_nil : StopsAt p [] := trivial

@[simp] theorem stopsAt_cons {c : Char} {s : Text} : StopsAt p (c :: s) ↔ p c = false :=
  Iff.rfl

/-- To stop at one character is not to begin with it. -/
theorem stopsAt_beq_iff {c : Char} {s : Text} :
    StopsAt (· == c) s ↔ ∀ tail, s ≠ c :: tail := by
  cases s with
  | nil => simp
  | cons d s =>
    rw [stopsAt_cons, beq_eq_false_iff_ne]
    constructor
    · rintro hd tail h
      exact hd (List.cons.inj h).1
    · rintro h rfl
      exact h s rfl

/-- What stops at a class stops at every smaller one. -/
theorem StopsAt.mono {q : Char → Bool} {s : Text} (h : StopsAt p s)
    (hqp : ∀ c, q c = true → p c = true) : StopsAt q s := by
  cases s with
  | nil => trivial
  | cons c s =>
    rw [stopsAt_cons] at h ⊢
    rw [Bool.eq_false_iff] at h ⊢
    exact fun hq => h (hqp c hq)

theorem stopsAt_dropWhile (p : Char → Bool) (s : Text) : StopsAt p (s.dropWhile p) := by
  induction s with
  | nil => trivial
  | cons c s ih =>
    rw [List.dropWhile_cons]
    split
    · exact ih
    · rename_i hc
      simpa using hc

theorem takeWhile_append_of_stopsAt {w rest : Text} (hw : ∀ c ∈ w, p c = true)
    (hrest : StopsAt p rest) : (w ++ rest).takeWhile p = w := by
  rw [List.takeWhile_append_of_pos hw]
  cases rest with
  | nil => simp
  | cons c rest =>
    rw [stopsAt_cons] at hrest
    simp [hrest]

theorem dropWhile_append_of_stopsAt {w rest : Text} (hw : ∀ c ∈ w, p c = true)
    (hrest : StopsAt p rest) : (w ++ rest).dropWhile p = rest := by
  rw [List.dropWhile_append_of_pos hw]
  cases rest with
  | nil => rfl
  | cons c rest =>
    rw [stopsAt_cons] at hrest
    simp [hrest]

/-- A run and what stops after it are told by their concatenation. -/
theorem run_append_inj {w w' rest rest' : Text} (hw : ∀ c ∈ w, p c = true)
    (hw' : ∀ c ∈ w', p c = true) (hrest : StopsAt p rest) (hrest' : StopsAt p rest')
    (h : w ++ rest = w' ++ rest') : w = w' ∧ rest = rest' := by
  have htake := congrArg (List.takeWhile p) h
  have hdrop := congrArg (List.dropWhile p) h
  rw [takeWhile_append_of_stopsAt hw hrest, takeWhile_append_of_stopsAt hw' hrest'] at htake
  rw [dropWhile_append_of_stopsAt hw hrest, dropWhile_append_of_stopsAt hw' hrest'] at hdrop
  exact ⟨htake, hdrop⟩

/-- A first character of one class and a run of another: the readers of
identifiers and of names are both of this kind. -/
theorem cons_run_eq_iff {c : Char} {tail word rest : Text} :
    (c :: tail.takeWhile p = word ∧ tail.dropWhile p = rest) ↔
      ∃ more, word = c :: more ∧ (∀ d ∈ more, p d = true) ∧ tail = more ++ rest ∧
        StopsAt p rest := by
  constructor
  · intro h
    obtain ⟨rfl, rfl⟩ := h
    exact ⟨tail.takeWhile p, rfl, fun d hd => List.mem_takeWhile_imp hd,
      List.takeWhile_append_dropWhile.symm, stopsAt_dropWhile p tail⟩
  · intro h
    obtain ⟨more, rfl, hmore, rfl, hrest⟩ := h
    rw [takeWhile_append_of_stopsAt hmore hrest, dropWhile_append_of_stopsAt hmore hrest]
    exact ⟨rfl, rfl⟩

end Run

/-! ### Identifiers and names -/

/-- An identifier is read if and only if it stands at the front and does
not go on. -/
theorem identifier?_eq_some_iff {s name rest : Text} :
    identifier? s = some (name, rest) ↔
      isIdentifier name = true ∧ s = name ++ rest ∧ StopsAt isIdentifierPart rest := by
  cases s with
  | nil =>
    cases name with
    | nil => simp [identifier?, isIdentifier]
    | cons c name => simp [identifier?]
  | cons c tail =>
    by_cases hc : isIdentifierStart c = true
    · -- The first character and the run after it are taken.
      simp only [identifier?, if_pos hc, Option.some.injEq, Prod.mk.injEq, cons_run_eq_iff]
      constructor
      · intro h
        obtain ⟨more, rfl, hmore, rfl, hrest⟩ := h
        exact ⟨by simpa [isIdentifier, hc] using hmore, rfl, hrest⟩
      · intro h
        obtain ⟨hname, hs, hrest⟩ := h
        cases name with
        | nil => simp [isIdentifier] at hname
        | cons d more =>
          rw [List.cons_append, List.cons.injEq] at hs
          obtain ⟨rfl, rfl⟩ := hs
          exact ⟨more, rfl, by simpa [isIdentifier, hc] using hname, rfl, hrest⟩
    · -- No identifier begins with this character.
      simp only [identifier?, if_neg hc, reduceCtorEq, false_iff]
      intro h
      obtain ⟨hname, hs, -⟩ := h
      cases name with
      | nil => simp [isIdentifier] at hname
      | cons d more =>
        rw [List.cons_append, List.cons.injEq] at hs
        obtain ⟨rfl, -⟩ := hs
        simp [isIdentifier, hc] at hname

/-- A name is read if and only if it stands at the front and does not go
on. -/
theorem name?_eq_some_iff {s name rest : Text} :
    name? s = some (name, rest) ↔
      isName name = true ∧ s = name ++ rest ∧ StopsAt isLowercase rest := by
  cases s with
  | nil =>
    cases name with
    | nil => simp [name?, isName]
    | cons c name => simp [name?]
  | cons c tail =>
    by_cases hc : isLowercase c = true
    · -- The first character and the run after it are taken.
      simp only [name?, if_pos hc, Option.some.injEq, Prod.mk.injEq, cons_run_eq_iff]
      constructor
      · intro h
        obtain ⟨more, rfl, hmore, rfl, hrest⟩ := h
        exact ⟨by simpa [isName, hc] using hmore, rfl, hrest⟩
      · intro h
        obtain ⟨hname, hs, hrest⟩ := h
        cases name with
        | nil => simp [isName] at hname
        | cons d more =>
          rw [List.cons_append, List.cons.injEq] at hs
          obtain ⟨rfl, rfl⟩ := hs
          exact ⟨more, rfl, by simpa [isName, hc] using hname, rfl, hrest⟩
    · -- No name begins with this character.
      simp only [name?, if_neg hc, reduceCtorEq, false_iff]
      intro h
      obtain ⟨hname, hs, -⟩ := h
      cases name with
      | nil => simp [isName] at hname
      | cons d more =>
        rw [List.cons_append, List.cons.injEq] at hs
        obtain ⟨rfl, -⟩ := hs
        simp [isName, hc] at hname

/-- An identifier begins with a character that may begin one. -/
theorem exists_cons_of_isIdentifier {name : Text} (h : isIdentifier name = true) :
    ∃ c tail, name = c :: tail ∧ isIdentifierStart c = true := by
  cases name with
  | nil => simp [isIdentifier] at h
  | cons c tail =>
    simp only [isIdentifier, Bool.and_eq_true] at h
    exact ⟨c, tail, rfl, h.1⟩

/-- All characters of an identifier may stand inside one. -/
theorem isIdentifierPart_of_mem {name : Text} (h : isIdentifier name = true) :
    ∀ c ∈ name, isIdentifierPart c = true := by
  cases name with
  | nil => simp
  | cons c tail =>
    simp only [isIdentifier, Bool.and_eq_true, List.all_eq_true] at h
    intro d hd
    rcases List.mem_cons.mp hd with rfl | hd
    · exact isIdentifierPart_of_isIdentifierStart h.1
    · exact h.2 d hd

/-- All characters of a name are letters of names. -/
theorem isLowercase_of_mem {name : Text} (h : isName name = true) :
    ∀ c ∈ name, isLowercase c = true := by
  simp only [isName, Bool.and_eq_true, List.all_eq_true] at h
  exact h.2

/-- A name is not empty. -/
theorem exists_cons_of_isName {name : Text} (h : isName name = true) :
    ∃ c tail, name = c :: tail ∧ isLowercase c = true := by
  cases name with
  | nil => simp [isName] at h
  | cons c tail => exact ⟨c, tail, rfl, isLowercase_of_mem h c List.mem_cons_self⟩

/-! ### White space -/

/-- White space between two parts of a construct, perhaps none. -/
abbrev Blank := { w : Text // ∀ c ∈ w, isSpace c = true }

/-- No white space at all. -/
def Blank.none : Blank := ⟨[], by simp⟩

/-- One blank. -/
def Blank.single : Blank := ⟨[' '], List.forall_mem_singleton.mpr (by decide)⟩

@[simp] theorem Blank.val_none : Blank.none.1 = [] := rfl

@[simp] theorem Blank.val_single : Blank.single.1 = [' '] := rfl

theorem stopsAt_skipSpace (s : Text) : StopsAt isSpace (skipSpace s) :=
  stopsAt_dropWhile _ _

theorem skipSpace_of_stopsAt {s : Text} (h : StopsAt isSpace s) : skipSpace s = s :=
  dropWhile_append_of_stopsAt (w := []) (by simp) h

/-- White space at the front is left out, and what stops there stays. -/
theorem skipSpace_blank_append (w : Blank) {s : Text} (h : StopsAt isSpace s) :
    skipSpace (w.1 ++ s) = s :=
  dropWhile_append_of_stopsAt w.2 h

/-- What stops at a class without white space stops at it behind white
space too. -/
theorem stopsAt_blank_append {p : Char → Bool} (hp : ∀ c, isSpace c = true → p c = false)
    (w : Blank) {s : Text} (h : StopsAt p s) : StopsAt p (w.1 ++ s) := by
  obtain ⟨w, hw⟩ := w
  cases w with
  | nil => exact h
  | cons c w => exact hp c (hw c List.mem_cons_self)

/-- White space that is there stops at such a class, whatever follows it. -/
theorem stopsAt_blank_append_of_ne_nil {p : Char → Bool}
    (hp : ∀ c, isSpace c = true → p c = false) {w : Blank} (hw : w.1 ≠ []) (s : Text) :
    StopsAt p (w.1 ++ s) := by
  obtain ⟨w, hspace⟩ := w
  cases w with
  | nil => exact absurd rfl hw
  | cons c w => exact hp c (hspace c List.mem_cons_self)

/-- Every text is some white space and what is left without it. -/
theorem exists_blank_append_skipSpace (s : Text) : ∃ w : Blank, s = w.1 ++ skipSpace s :=
  ⟨⟨s.takeWhile isSpace, fun _ hc => List.mem_takeWhile_imp hc⟩,
    List.takeWhile_append_dropWhile.symm⟩

theorem skipSpace_eq_iff {s rest : Text} :
    skipSpace s = rest ↔ (∃ w : Blank, s = w.1 ++ rest) ∧ StopsAt isSpace rest := by
  constructor
  · rintro rfl
    exact ⟨exists_blank_append_skipSpace s, stopsAt_skipSpace s⟩
  · intro h
    obtain ⟨⟨w, rfl⟩, hrest⟩ := h
    exact skipSpace_blank_append w hrest

/-- White space and what follows it are told by their concatenation. -/
theorem blank_append_inj {w w' : Blank} {s s' : Text} (hs : StopsAt isSpace s)
    (hs' : StopsAt isSpace s') (h : w.1 ++ s = w'.1 ++ s') : w = w' ∧ s = s' := by
  obtain ⟨hw, hrest⟩ := run_append_inj w.2 w'.2 hs hs' h
  exact ⟨Subtype.ext hw, hrest⟩

/-- White space that has to be there is read if and only if there is
some, and then all of it. -/
theorem space?_eq_some_iff {s rest : Text} :
    space? s = some rest ↔
      ∃ w : Blank, w.1 ≠ [] ∧ s = w.1 ++ rest ∧ StopsAt isSpace rest := by
  cases s with
  | nil =>
    simp only [space?, reduceCtorEq, false_iff]
    intro h
    obtain ⟨w, hw, hs, -⟩ := h
    exact hw (List.append_eq_nil_iff.mp hs.symm).1
  | cons c tail =>
    by_cases hc : isSpace c = true
    · -- There is white space. It begins with this character and goes on as far as it can.
      simp only [space?, if_pos hc, Option.some.injEq]
      constructor
      · rintro rfl
        obtain ⟨w, hw⟩ := exists_blank_append_skipSpace tail
        exact ⟨⟨c :: w.1, List.forall_mem_cons.mpr ⟨hc, w.2⟩⟩, List.cons_ne_nil _ _,
          congrArg (List.cons c) hw, stopsAt_skipSpace tail⟩
      · intro h
        obtain ⟨w, hw, hs, hrest⟩ := h
        have htail : skipSpace (c :: tail) = rest := by
          rw [hs, skipSpace_blank_append w hrest]
        simpa [skipSpace, hc] using htail
    · -- White space that is there would begin with this character.
      simp only [space?, if_neg hc, reduceCtorEq, false_iff]
      intro h
      obtain ⟨⟨w, hspace⟩, hw, hs, -⟩ := h
      cases w with
      | nil => exact hw rfl
      | cons d w =>
        rw [List.cons_append, List.cons.injEq] at hs
        exact hc (hs.1 ▸ hspace d List.mem_cons_self)

/-- Where no white space stands, none is read. -/
theorem space?_eq_none_of_stopsAt {s : Text} (h : StopsAt isSpace s) : space? s = none := by
  cases s with
  | nil => rfl
  | cons c s =>
    rw [stopsAt_cons] at h
    simp [space?, h]

/-- Where no letter of names stands, no name is read. -/
theorem name?_eq_none_of_stopsAt {s : Text} (h : StopsAt isLowercase s) : name? s = none := by
  cases s with
  | nil => rfl
  | cons c s =>
    rw [stopsAt_cons] at h
    simp [name?, h]

/-! ### Delimiters behind white space -/

/-- White space stops at a delimiter. -/
theorem stopsAt_isSpace_delimiter {c : Char} (hc : c ∈ delimiters) (s : Text) :
    StopsAt isSpace (c :: s) :=
  isSpace_delimiter hc

/-- A name stops at a delimiter, also behind white space. -/
theorem stopsAt_isLowercase_delimiter (w : Blank) {c : Char} (hc : c ∈ delimiters) (s : Text) :
    StopsAt isLowercase (w.1 ++ c :: s) := by
  refine stopsAt_blank_append (fun d hd => ?_) w (isLowercase_delimiter hc)
  rw [Bool.eq_false_iff]
  intro hlower
  rw [isSpace_eq_false_of_isLowercase hlower] at hd
  exact absurd hd (by decide)

/-- White space and a delimiter after it are told by the text. -/
theorem blank_delimiter_inj {w w' : Blank} {c d : Char} {s s' : Text} (hc : c ∈ delimiters)
    (hd : d ∈ delimiters) (h : w.1 ++ c :: s = w'.1 ++ d :: s') : w = w' ∧ c = d ∧ s = s' := by
  obtain ⟨hw, hrest⟩ := blank_append_inj (stopsAt_isSpace_delimiter hc s)
    (stopsAt_isSpace_delimiter hd s') h
  exact ⟨hw, List.cons.inj hrest⟩

theorem char?_eq_some_iff {c : Char} {s rest : Text} :
    char? c s = some rest ↔ s = c :: rest := by
  constructor
  · exact suffix_of_char?
  · rintro rfl
    exact char?_cons_self c rest

/-- A delimiter is found behind white space if and only if there is white
space, perhaps none, and then the delimiter. -/
theorem char?_skipSpace_eq_some_iff {c : Char} (hc : c ∈ delimiters) {s rest : Text} :
    char? c (skipSpace s) = some rest ↔ ∃ w : Blank, s = w.1 ++ c :: rest := by
  rw [char?_eq_some_iff, skipSpace_eq_iff, stopsAt_cons]
  exact and_iff_left (isSpace_delimiter hc)

/-- The same for a sign of several characters. -/
theorem word?_skipSpace_eq_some_iff {c : Char} (hc : c ∈ delimiters) {more s rest : Text} :
    word? (c :: more) (skipSpace s) = some rest ↔
      ∃ w : Blank, s = w.1 ++ (c :: more ++ rest) := by
  rw [word?_eq_some_iff, skipSpace_eq_iff, List.cons_append, stopsAt_cons]
  exact and_iff_left (isSpace_delimiter hc)

end Stencil.Text
