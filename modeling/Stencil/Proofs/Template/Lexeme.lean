import Stencil.Proofs.Condition.Read
import Stencil.Template.Construct

/-!
# `Stencil.Proofs.Template.Lexeme`: how the constructs of a template are written

A lexeme is a whole construct as it stands in a text: a closing tag, an
opening tag or an interpolation, with the white space that was chosen
between its parts. The three structures carry the proofs that the parts
are what they should be, so a lexeme is a derivation in the grammar of
its construct. The limit on the nesting of a condition is kept apart,
as it is for spellings.

A lexeme says by itself where it ends. `Lexeme.text_append_inj`: two
lexemes at the front of one text are the same, whatever follows either.
That is why a reader of a construct never depends on what follows, and
why nothing here speaks of a boundary.

That the readers find exactly the lexemes is said in
`Stencil.Proofs.Template.Front`.
-/

set_option autoImplicit false

namespace Stencil

open Text (Blank StopsAt isSpace isLowercase)
open Condition (Spelling)

namespace Lexeme

/-! ### Closing tags -/

/-- A closing tag as it is written. -/
structure Closer where
  afterAngle : Blank
  afterSlash : Blank
  name : Text
  afterName : Blank
  isName : Text.isName name = true

namespace Closer

/-- The text of a closing tag. -/
def text (l : Closer) : Text :=
  '<' :: (l.afterAngle.1 ++ '/' :: (l.afterSlash.1 ++ '#' :: (l.name ++
    (l.afterName.1 ++ ['>']))))

/-- A closing tag is told by its text, whatever follows. -/
theorem text_append_inj {l l' : Closer} {rest rest' : Text}
    (h : l.text ++ rest = l'.text ++ rest') : l = l' ∧ rest = rest' := by
  obtain ⟨w, w', name, w'', hname⟩ := l
  obtain ⟨v, v', name', v'', hname'⟩ := l'
  simp only [text, List.cons_append, List.append_assoc, List.nil_append] at h
  -- Every blank ends at the delimiter after it, and the name at the next blank or
  -- delimiter.
  obtain ⟨rfl, -, hslash⟩ := Text.blank_delimiter_inj (by decide) (by decide) (List.cons.inj h).2
  obtain ⟨rfl, -, hhash⟩ := Text.blank_delimiter_inj (by decide) (by decide) hslash
  obtain ⟨rfl, hend⟩ := Text.run_append_inj (Text.isLowercase_of_mem hname)
    (Text.isLowercase_of_mem hname') (Text.stopsAt_isLowercase_delimiter w'' (by decide) rest)
    (Text.stopsAt_isLowercase_delimiter v'' (by decide) rest') hhash
  obtain ⟨rfl, -, rfl⟩ := Text.blank_delimiter_inj (by decide) (by decide) hend
  exact ⟨rfl, rfl⟩

end Closer

/-! ### Opening tags -/

/-- An opening tag as it is written. -/
structure Opener where
  afterAngle : Blank
  afterName : Blank
  afterParen : Blank
  condition : Spelling
  afterCondition : Blank
  afterClose : Blank
  isProper : condition.IsProper

namespace Opener

/-- The text of an opening tag. -/
def text (l : Opener) : Text :=
  '<' :: (l.afterAngle.1 ++ '#' :: (ifName ++ (l.afterName.1 ++ '(' :: (l.afterParen.1 ++
    (l.condition.text ++ (l.afterCondition.1 ++ ')' :: (l.afterClose.1 ++ ['>'])))))))

/-- An opening tag is told by its text, whatever follows. -/
theorem text_append_inj {l l' : Opener} {rest rest' : Text}
    (h : l.text ++ rest = l'.text ++ rest') : l = l' ∧ rest = rest' := by
  obtain ⟨w, w', w'', e, x, x', he⟩ := l
  obtain ⟨v, v', v'', e', y, y', he'⟩ := l'
  simp only [text, List.cons_append, List.append_assoc, List.nil_append] at h
  obtain ⟨rfl, -, hname⟩ := Text.blank_delimiter_inj (by decide) (by decide) (List.cons.inj h).2
  obtain ⟨rfl, -, hparen⟩ := Text.blank_delimiter_inj (by decide) (by decide)
    (List.append_cancel_left hname)
  obtain ⟨rfl, hcondition⟩ := Text.blank_append_inj (Spelling.stopsAt_isSpace_text he _)
    (Spelling.stopsAt_isSpace_text he' _) hparen
  -- The closing parenthesis is where both conditions are over.
  obtain ⟨rfl, hclose⟩ := Spelling.eq_of_text_append_eq he he'
    (Condition.boundary_paren x _) (Condition.boundary_paren y _) hcondition
  obtain ⟨rfl, -, hend⟩ := Text.blank_delimiter_inj (by decide) (by decide) hclose
  obtain ⟨rfl, -, rfl⟩ := Text.blank_delimiter_inj (by decide) (by decide) hend
  exact ⟨rfl, rfl⟩

end Opener

/-! ### Interpolations -/

/-- The name of a transform with the white space before it, of which there
has to be some. -/
structure Request where
  gap : Blank
  name : Text
  gap_ne_nil : gap.1 ≠ []
  isName : Text.isName name = true

/-- The text of what may stand between the path and the end. -/
def requestText : Option Request → Text
  | none => []
  | some r => r.gap.1 ++ r.name

/-- An interpolation as it is written. -/
structure Interpolation where
  afterBrace : Blank
  path : Path
  request : Option Request
  beforeBrace : Blank
  isLexical : path.isLexical = true

/-- A path is over where a name may follow. -/
theorem stopsAt_requestText (request : Option Request) (w : Blank) (s : Text) :
    StopsAt Path.mayContinue (requestText request ++ (w.1 ++ '\x7d' :: s)) := by
  cases request with
  | none =>
    exact Text.stopsAt_blank_append (fun c hc => Path.mayContinue_eq_false_of_isSpace hc) w
      (Text.stopsAt_cons.mpr (by decide))
  | some r =>
    rw [requestText, List.append_assoc]
    exact Text.stopsAt_blank_append_of_ne_nil
      (fun c hc => Path.mayContinue_eq_false_of_isSpace hc) r.gap_ne_nil _

/-- No white space stands before a name. -/
theorem stopsAt_isSpace_name {name : Text} (h : Text.isName name = true) (s : Text) :
    StopsAt isSpace (name ++ s) := by
  obtain ⟨c, tail, rfl, hc⟩ := Text.exists_cons_of_isName h
  exact Text.isSpace_eq_false_of_isLowercase hc

/-- A name is no end of an interpolation. -/
theorem name_append_ne_brace {name : Text} (h : Text.isName name = true) (s s' : Text) :
    name ++ s ≠ '\x7d' :: s' := by
  obtain ⟨c, tail, rfl, hc⟩ := Text.exists_cons_of_isName h
  intro heq
  rw [(List.cons.inj heq).1] at hc
  exact absurd hc (by decide)

/-- Whether there is a name and which one is told by the text. -/
theorem requestText_append_inj {request request' : Option Request} {w w' : Blank}
    {s s' : Text} (h : requestText request ++ (w.1 ++ '\x7d' :: s) =
      requestText request' ++ (w'.1 ++ '\x7d' :: s')) :
    request = request' ∧ w = w' ∧ s = s' := by
  have hbrace : ∀ t : Text, StopsAt isSpace ('\x7d' :: t) :=
    Text.stopsAt_isSpace_delimiter (by decide)
  cases request with
  | none =>
    cases request' with
    | none =>
      obtain ⟨hw, -, hs⟩ := Text.blank_delimiter_inj (by decide) (by decide) h
      exact ⟨rfl, hw, hs⟩
    | some r =>
      simp only [requestText, List.nil_append, List.append_assoc] at h
      -- Behind the white space there is a brace here and a name there.
      have heq := (Text.blank_append_inj (hbrace s) (stopsAt_isSpace_name r.isName _) h).2
      exact absurd heq.symm (name_append_ne_brace r.isName _ _)
  | some r =>
    cases request' with
    | none =>
      simp only [requestText, List.nil_append, List.append_assoc] at h
      have heq := (Text.blank_append_inj (stopsAt_isSpace_name r.isName _) (hbrace s') h).2
      exact absurd heq (name_append_ne_brace r.isName _ _)
    | some r' =>
      obtain ⟨gap, name, hgap, hname⟩ := r
      obtain ⟨gap', name', hgap', hname'⟩ := r'
      simp only [requestText, List.append_assoc] at h
      obtain ⟨rfl, hrest⟩ := Text.blank_append_inj (stopsAt_isSpace_name hname _)
        (stopsAt_isSpace_name hname' _) h
      obtain ⟨rfl, hend⟩ := Text.run_append_inj (Text.isLowercase_of_mem hname)
        (Text.isLowercase_of_mem hname') (Text.stopsAt_isLowercase_delimiter w (by decide) s)
        (Text.stopsAt_isLowercase_delimiter w' (by decide) s') hrest
      obtain ⟨rfl, -, rfl⟩ := Text.blank_delimiter_inj (by decide) (by decide) hend
      exact ⟨rfl, rfl, rfl⟩

namespace Interpolation

/-- The name of the transform that is asked for, if any is. -/
def name (l : Interpolation) : Option Text :=
  l.request.map Request.name

/-- The text of an interpolation. -/
def text (l : Interpolation) : Text :=
  '%' :: '\x7b' :: (l.afterBrace.1 ++ (l.path.print ++ (requestText l.request ++
    (l.beforeBrace.1 ++ ['\x7d']))))

/-- An interpolation is told by its text, whatever follows. -/
theorem text_append_inj {l l' : Interpolation} {rest rest' : Text}
    (h : l.text ++ rest = l'.text ++ rest') : l = l' ∧ rest = rest' := by
  obtain ⟨w, p, request, x, hp⟩ := l
  obtain ⟨v, p', request', y, hp'⟩ := l'
  simp only [text, List.cons_append, List.append_assoc, List.nil_append] at h
  obtain ⟨rfl, hpath⟩ := Text.blank_append_inj (Path.stopsAt_isSpace_print hp _)
    (Path.stopsAt_isSpace_print hp' _) (List.cons.inj (List.cons.inj h).2).2
  -- The path is over where a name may follow, whether one does or not.
  obtain ⟨rfl, hrequest⟩ := Path.print_append_inj hp hp'
    (Path.Ends.of_stopsAt (stopsAt_requestText request x rest))
    (Path.Ends.of_stopsAt (stopsAt_requestText request' y rest')) hpath
  obtain ⟨rfl, rfl, rfl⟩ := requestText_append_inj hrequest
  exact ⟨rfl, rfl⟩

end Interpolation

end Lexeme

/-! ### All three kinds -/

/-- A whole construct as it is written. -/
inductive Lexeme where
  | closer (l : Lexeme.Closer)
  | opener (l : Lexeme.Opener)
  | interpolation (l : Lexeme.Interpolation)

namespace Lexeme

/-- The text of a construct. -/
def text : Lexeme → Text
  | .closer l => l.text
  | .opener l => l.text
  | .interpolation l => l.text

/-- The construct that is written. -/
def construct : Lexeme → Construct
  | .closer l => .closer l.name
  | .opener l => .opener l.condition.value
  | .interpolation l => .interpolation l.path l.name

/-- How deep groups and negations nest in the construct. -/
def nesting : Lexeme → Nat
  | .opener l => l.condition.nesting
  | _ => 0

/-- A closing tag and an opening tag part at their second sign. -/
theorem closer_text_append_ne_opener (l : Closer) (l' : Opener) (rest rest' : Text) :
    l.text ++ rest ≠ l'.text ++ rest' := by
  intro h
  simp only [Closer.text, Opener.text, List.cons_append, List.append_assoc] at h
  have hsign := (Text.blank_delimiter_inj (by decide) (by decide) (List.cons.inj h).2).2.1
  exact absurd hsign (by decide)

/-- A construct is told by its text, whatever follows. -/
theorem text_append_inj {l l' : Lexeme} {rest rest' : Text}
    (h : l.text ++ rest = l'.text ++ rest') : l = l' ∧ rest = rest' := by
  cases l with
  | closer l =>
    cases l' with
    | closer l' =>
      obtain ⟨rfl, hrest⟩ := Closer.text_append_inj h
      exact ⟨rfl, hrest⟩
    | opener l' => exact absurd h (closer_text_append_ne_opener l l' _ _)
    | interpolation l' => exact absurd (List.cons.inj h).1 (by decide)
  | opener l =>
    cases l' with
    | closer l' => exact absurd h.symm (closer_text_append_ne_opener l' l _ _)
    | opener l' =>
      obtain ⟨rfl, hrest⟩ := Opener.text_append_inj h
      exact ⟨rfl, hrest⟩
    | interpolation l' => exact absurd (List.cons.inj h).1 (by decide)
  | interpolation l =>
    cases l' with
    | closer l' => exact absurd (List.cons.inj h).1 (by decide)
    | opener l' => exact absurd (List.cons.inj h).1 (by decide)
    | interpolation l' =>
      obtain ⟨rfl, hrest⟩ := Interpolation.text_append_inj h
      exact ⟨rfl, hrest⟩

end Lexeme

end Stencil
