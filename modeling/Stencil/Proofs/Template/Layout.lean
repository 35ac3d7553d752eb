import Stencil.Proofs.Template.Literal
import Stencil.Template.Scan

/-!
# `Stencil.Proofs.Template.Layout`: the grammar of templates

A layout is a template as it is written: literals, interpolations, and
conditionals with the layout of their body between their tags. It is a
derivation in the grammar of templates, and the functions on it are what
the grammar defines: `Layout.text` is the text that is derived and
`Layout.nodes` the tree that belongs to it.

`Layout.Fits` says that the grammar allows a layout inside as many
conditionals:

    BODY(k)     = (LITERAL(k) | INTERPOLATION | CONDITIONAL(k))*
    CONDITIONAL(k) = OPENING BODY(k + 1) CLOSING     if k is below the limit

where no two literals stand side by side, no literal is empty or has a
place in it that matters, and the closing tag is that of a conditional.
Strict reading also asks that the transforms are known.

A text has one layout at most: `Layout.eq_of_text_append_eq`.
-/

set_option autoImplicit false

namespace Stencil

open Condition (nestingLimit)

/-- A body of a template as it is written. -/
inductive Layout where
  | done
  | literal (text : Text) (next : Layout)
  | interpolation (l : Lexeme.Interpolation) (next : Layout)
  | conditional (opener : Lexeme.Opener) (body : Layout) (closer : Lexeme.Closer)
    (next : Layout)

namespace Layout

variable {τ : Type}

/-- The text that is written. -/
def text : Layout → Text
  | .done => []
  | .literal t next => t ++ next.text
  | .interpolation l next => l.text ++ next.text
  | .conditional opener body closer next =>
    opener.text ++ (body.text ++ (closer.text ++ next.text))

/-- The nodes that are written. A transform that is not known is left
out. -/
def nodes (resolve : Text → Option τ) : Layout → List (Node τ)
  | .done => []
  | .literal t next => .literal t :: next.nodes resolve
  | .interpolation l next =>
    .interpolation l.path (l.name.bind resolve) :: next.nodes resolve
  | .conditional opener body _ next =>
    .conditional opener.condition.value (body.nodes resolve) :: next.nodes resolve

/-- The layout begins with a literal. -/
def opensLiteral : Layout → Bool
  | .literal .. => true
  | _ => false

/-- The transform that a lexeme asks for is known, if it asks for one. -/
def Known (resolve : Text → Option τ) (l : Lexeme.Interpolation) : Prop :=
  ∀ name ∈ l.name, (resolve name).isSome = true

/-- The grammar allows the layout inside as many conditionals. -/
def Fits (settings : Settings) (resolve : Text → Option τ) : Nat → Layout → Prop
  | _, .done => True
  | depth, .literal t next =>
    (t ≠ [] ∧ Inert settings.strict depth t ∧ next.opensLiteral = false) ∧
      next.Fits settings resolve depth
  | depth, .interpolation l next =>
    (settings.strict = true → Known resolve l) ∧ next.Fits settings resolve depth
  | depth, .conditional opener body closer next =>
    ((depth : Int) < settings.maxDepth ∧ opener.condition.nesting ≤ nestingLimit ∧
        closer.name = ifName) ∧
      body.Fits settings resolve (depth + 1) ∧ next.Fits settings resolve depth

/-! ### What comes after a body -/

/-- What ends a body: the end of the text, or a closing tag with what
follows it. -/
inductive Ending where
  | ended
  | closed (l : Lexeme.Closer) (rest : Text)

namespace Ending

/-- The text from the end of the body on. -/
def text : Ending → Text
  | .ended => []
  | .closed l rest => l.text ++ rest

/-- The offset after the closing tag, if there is one. It is counted from
the end of the text. -/
def stop (finish : Nat) : Ending → Option Nat
  | .ended => none
  | .closed _ rest => some (finish - rest.length)

/-- A closing tag ends the body of a conditional. -/
def Fits (depth : Nat) : Ending → Prop
  | .ended => True
  | .closed l _ => l.name = ifName ∧ 0 < depth

end Ending

/-! ### The construct that a body begins with -/

/-- The construct that a body begins with, unless it begins with a literal,
and what comes after it. It may be the closing tag behind an empty body. -/
def lead : Layout → Ending → Option (Lexeme × Text)
  | .done, .ended => none
  | .done, .closed l rest => some (.closer l, rest)
  | .literal .., _ => none
  | .interpolation l next, e => some (.interpolation l, next.text ++ e.text)
  | .conditional opener body closer next, e =>
    some (.opener opener, body.text ++ (closer.text ++ (next.text ++ e.text)))

/-- The text of a construct and of what comes after it. -/
def leadText : Option (Lexeme × Text) → Text
  | none => []
  | some (l, rest) => l.text ++ rest

theorem text_eq_leadText {layout : Layout} (hliteral : layout.opensLiteral = false)
    (e : Ending) : layout.text ++ e.text = leadText (layout.lead e) := by
  cases layout with
  | done => cases e <;> rfl
  | literal t next => cases hliteral
  | interpolation l next => exact List.append_assoc _ _ _
  | conditional opener body closer next =>
    simp only [text, lead, leadText, Lexeme.text, List.append_assoc]

/-- That construct is told by the text. -/
theorem leadText_inj {p q : Option (Lexeme × Text)} (h : leadText p = leadText q) : p = q := by
  cases p with
  | none =>
    cases q with
    | none => rfl
    | some q => exact absurd h.symm (q.1.text_append_ne_nil q.2)
  | some p =>
    cases q with
    | none => exact absurd h (p.1.text_append_ne_nil p.2)
    | some q =>
      obtain ⟨hl, hrest⟩ := Lexeme.text_append_inj h
      exact congrArg some (Prod.ext hl hrest)

theorem lead_inj {layout layout' : Layout} {e e' : Ending}
    (hliteral : layout.opensLiteral = false) (hliteral' : layout'.opensLiteral = false)
    (h : layout.text ++ e.text = layout'.text ++ e'.text) : layout.lead e = layout'.lead e' := by
  rw [text_eq_leadText hliteral, text_eq_leadText hliteral'] at h
  exact leadText_inj h

section

variable {settings : Settings} {resolve : Text → Option τ} {depth : Nat}

/-- It has its place there. -/
theorem counts_of_lead {layout : Layout} {e : Ending} {l : Lexeme} {rest : Text}
    (hfits : layout.Fits settings resolve depth) (he : e.Fits depth)
    (h : layout.lead e = some (l, rest)) : l.Counts depth := by
  cases layout with
  | done =>
    cases e with
    | ended => cases h
    | closed closer rest =>
      cases h
      exact he
  | literal t next => cases h
  | interpolation interpolation next =>
    cases h
    trivial
  | conditional opener body closer next =>
    cases h
    exact hfits.1.2.1

/-- A body that does not begin with a literal is empty or begins with a
construct. -/
theorem seam {layout : Layout} (hliteral : layout.opensLiteral = false) (e : Ending) :
    Seam (layout.text ++ e.text) := by
  rw [text_eq_leadText hliteral]
  cases layout.lead e with
  | none => exact seam_nil
  | some p => exact p.1.seam p.2

theorem matters {layout : Layout} (hliteral : layout.opensLiteral = false) {e : Ending}
    (hfits : layout.Fits settings resolve depth) (he : e.Fits depth)
    (hne : layout.text ++ e.text ≠ []) :
    Matters settings.strict depth (layout.text ++ e.text) := by
  rw [text_eq_leadText hliteral] at hne ⊢
  cases hlead : layout.lead e with
  | none =>
    rw [hlead] at hne
    exact absurd rfl hne
  | some p => exact matters_of_counts (counts_of_lead hfits he hlead) p.2

/-! ### Uniqueness -/

/-- A body that begins with a literal is told from one that does not. -/
theorem literal_text_ne {t : Text} {next layout : Layout} {e e' : Ending}
    (hnext : (Layout.literal t next).Fits settings resolve depth)
    (hliteral : layout.opensLiteral = false) (hfits : layout.Fits settings resolve depth)
    (he' : e'.Fits depth) :
    (Layout.literal t next).text ++ e.text ≠ layout.text ++ e'.text := by
  intro h
  obtain ⟨⟨ht, hinert, hnextLiteral⟩, -⟩ := hnext
  rw [text, List.append_assoc] at h
  have hne : layout.text ++ e'.text ≠ [] := by
    rw [← h]
    exact List.append_ne_nil_of_left_ne_nil ht _
  have hmatters := matters hliteral hfits he' hne
  rw [← h] at hmatters
  exact hinert.not_matters ht (seam hnextLiteral e) hmatters

/-- Of two literals that begin alike the one is no longer than the
other. -/
theorem append_eq_nil_of_inert {t m : Text} {next next' : Layout} {e e' : Ending}
    (hinert : Inert settings.strict depth (t ++ m))
    (hliteral : next.opensLiteral = false) (hfits : next.Fits settings resolve depth)
    (he : e.Fits depth) (hliteral' : next'.opensLiteral = false)
    (h : next.text ++ e.text = m ++ (next'.text ++ e'.text)) : m = [] := by
  by_contra hm
  -- After the shorter literal a construct has its place, inside the longer one.
  have hmatters := matters hliteral hfits he (by
    rw [h]
    exact List.append_ne_nil_of_left_ne_nil hm _)
  rw [h] at hmatters
  have hinner : Inert settings.strict depth m :=
    fun b hb => hinert b (hb.trans (List.suffix_append t m))
  exact hinner.not_matters hm (seam hliteral' e') hmatters

/-- The literal at the beginning is told by the text. -/
theorem literal_inj {t t' : Text} {next next' : Layout} {e e' : Ending}
    (hfits : (Layout.literal t next).Fits settings resolve depth)
    (hfits' : (Layout.literal t' next').Fits settings resolve depth)
    (he : e.Fits depth) (he' : e'.Fits depth)
    (h : (Layout.literal t next).text ++ e.text = (Layout.literal t' next').text ++ e'.text) :
    t = t' ∧ next.text ++ e.text = next'.text ++ e'.text := by
  obtain ⟨⟨-, hinert, hliteral⟩, hnext⟩ := hfits
  obtain ⟨⟨-, hinert', hliteral'⟩, hnext'⟩ := hfits'
  rw [text, text, List.append_assoc, List.append_assoc] at h
  rcases List.append_eq_append_iff.mp h with ⟨m, rfl, hm⟩ | ⟨m, rfl, hm⟩
  · have := append_eq_nil_of_inert hinert' hliteral hnext he hliteral' hm
    subst this
    exact ⟨(List.append_nil t).symm, hm⟩
  · have := append_eq_nil_of_inert hinert hliteral' hnext' he' hliteral hm
    subst this
    exact ⟨List.append_nil t', hm.symm⟩

/-- **A text has one layout at most.** The induction is on the layout. What
either begins with is told by the text, and so is what comes after it. -/
theorem eq_of_text_append_eq {layout layout' : Layout} {e e' : Ending}
    (hfits : layout.Fits settings resolve depth) (hfits' : layout'.Fits settings resolve depth)
    (he : e.Fits depth) (he' : e'.Fits depth)
    (h : layout.text ++ e.text = layout'.text ++ e'.text) : layout = layout' ∧ e = e' := by
  induction layout generalizing depth layout' e e' with
  | done =>
    cases layout' with
    | literal t next => exact absurd h.symm (literal_text_ne hfits' rfl hfits he)
    | done =>
      have hlead := lead_inj rfl rfl h
      cases e <;> cases e' <;> cases hlead <;> exact ⟨rfl, rfl⟩
    | interpolation l next =>
      have hlead := lead_inj rfl rfl h
      cases e <;> cases hlead
    | conditional opener body closer next =>
      have hlead := lead_inj rfl rfl h
      cases e <;> cases hlead
  | literal t next ih =>
    by_cases hliteral : layout'.opensLiteral = false
    · exact absurd h (literal_text_ne hfits hliteral hfits' he')
    · cases layout' with
      | literal t' next' =>
        -- Both begin with a literal, and it is the same one.
        obtain ⟨rfl, hnext⟩ := literal_inj hfits hfits' he he' h
        obtain ⟨rfl, rfl⟩ := ih hfits.2 hfits'.2 he he' hnext
        exact ⟨rfl, rfl⟩
      | _ => exact absurd rfl hliteral
  | interpolation l next ih =>
    cases layout' with
    | literal t next => exact absurd h.symm (literal_text_ne hfits' rfl hfits he)
    | done =>
      have hlead := lead_inj rfl rfl h
      cases e' <;> cases hlead
    | interpolation l' next' =>
      have hlead := lead_inj rfl rfl h
      simp only [lead, Option.some.injEq, Prod.mk.injEq, Lexeme.interpolation.injEq] at hlead
      obtain ⟨rfl, hnext⟩ := hlead
      obtain ⟨rfl, rfl⟩ := ih hfits.2 hfits'.2 he he' hnext
      exact ⟨rfl, rfl⟩
    | conditional opener body closer next => cases lead_inj rfl rfl h
  | conditional opener body closer next ihbody ihnext =>
    cases layout' with
    | literal t next => exact absurd h.symm (literal_text_ne hfits' rfl hfits he)
    | done =>
      have hlead := lead_inj rfl rfl h
      cases e' <;> cases hlead
    | interpolation l next => cases lead_inj rfl rfl h
    | conditional opener' body' closer' next' =>
      have hlead := lead_inj rfl rfl h
      simp only [lead, Option.some.injEq, Prod.mk.injEq, Lexeme.opener.injEq] at hlead
      obtain ⟨rfl, hrest⟩ := hlead
      -- The body ends with its closing tag, and what follows the tag is the ending.
      have hcloser : (Ending.closed closer (next.text ++ e.text)).Fits (depth + 1) :=
        ⟨hfits.1.2.2, Nat.succ_pos depth⟩
      have hcloser' : (Ending.closed closer' (next'.text ++ e'.text)).Fits (depth + 1) :=
        ⟨hfits'.1.2.2, Nat.succ_pos depth⟩
      obtain ⟨rfl, hclosed⟩ := ihbody hfits.2.1 hfits'.2.1 hcloser hcloser' hrest
      obtain ⟨rfl, hnext⟩ := Ending.closed.inj hclosed
      obtain ⟨rfl, rfl⟩ := ihnext hfits.2.2 hfits'.2.2 he he' hnext
      exact ⟨rfl, rfl⟩

/-- A text that is a body as a whole has one layout at most. -/
theorem Fits.unique {layout layout' : Layout} (hfits : layout.Fits settings resolve depth)
    (hfits' : layout'.Fits settings resolve depth) (h : layout.text = layout'.text) :
    layout = layout' := by
  have hended : Ending.ended.Fits depth := trivial
  exact (eq_of_text_append_eq hfits hfits' hended hended (congrArg (· ++ []) h)).1

end

end Layout

end Stencil
