import Stencil.Proofs.Condition.Grammar
import Stencil.Proofs.Template.Unmarked
import Stencil.Proofs.Template.RoundTrip

/-!
# `Stencil.Proofs.Template.Enclosure`: a template inside a conditional

A template may be set between the two tags of a conditional. It is read there
as it was read alone, as the body of that conditional:
`Template.parse_enclosed`. One level of nesting more has to be allowed.

All of this is about layouts. A layout that fits inside of some conditionals
fits inside of one more under a limit that is one higher (`Layout.Fits.enclosed`).
What counts in a literal is the same at any depth, except that a closing tag
closes nothing where no conditional is open. That is the one thing that can go
wrong: literal text with a whole closing tag in it would end the new
conditional (`ClosesNothing`).
-/

set_option autoImplicit false

namespace Stencil

open Text (Blank)

/-- No whole closing tag of a conditional stands in the text. -/
def ClosesNothing (t : Text) : Prop :=
  ∀ (u v : Text) (l : Lexeme.Closer), t = u ++ (l.text ++ v) → l.name ≠ ifName

/-- A literal stays one inside of a conditional more. Where none was open
before, it may not have a closing tag in it. -/
theorem Inert.enclosed {strict : Bool} {depth : Nat} {t : Text} (h : Inert strict depth t)
    (hcloses : depth = 0 → ClosesNothing t) : Inert strict (depth + 1) t := by
  intro b hb hne hmatters
  refine h b hb hne ?_
  cases strict with
  | true => exact hmatters
  | false =>
    obtain ⟨l, rest, hcounts, rfl⟩ := hmatters
    refine ⟨l, rest, ?_, rfl⟩
    cases l with
    | opener l => exact hcounts
    | interpolation l => trivial
    | closer l =>
      obtain ⟨u, hu⟩ := hb
      refine ⟨hcounts.1, Nat.pos_of_ne_zero fun hdepth => ?_⟩
      exact hcloses hdepth u rest l hu.symm hcounts.1

/-- The settings for what stands inside of a conditional: one level of nesting
less is left. -/
def Settings.inner (settings : Settings) : Settings where
  strict := settings.strict
  maxDepth := settings.maxDepth - 1
  maxDepth_le := Int.le_trans (Int.sub_le_self _ (by decide)) settings.maxDepth_le

/-- **A layout fits inside of a conditional more**, under a limit that is one
higher. The induction is on the layout. Only its outermost literals were
outside of all conditionals. -/
theorem Layout.Fits.enclosed {τ : Type} {settings : Settings} {resolve : Text → Option τ}
    {layout : Layout} {depth : Nat} (h : layout.Fits settings.inner resolve depth)
    (hcloses : depth = 0 → ∀ t, .literal t ∈ layout.nodes resolve → ClosesNothing t) :
    layout.Fits settings resolve (depth + 1) := by
  induction layout generalizing depth with
  | done => trivial
  | literal t next ih =>
    obtain ⟨⟨ht, hinert, hliteral⟩, hnext⟩ := h
    have hfirst : Inert settings.strict (depth + 1) t :=
      hinert.enclosed fun hdepth => hcloses hdepth t List.mem_cons_self
    exact ⟨⟨ht, hfirst, hliteral⟩,
      ih hnext fun hdepth t' ht' => hcloses hdepth t' (List.mem_cons_of_mem _ ht')⟩
  | interpolation l next ih =>
    exact ⟨h.1, ih h.2 fun hdepth t ht => hcloses hdepth t (List.mem_cons_of_mem _ ht)⟩
  | conditional opener body closer next ihbody ihnext =>
    obtain ⟨⟨hdepth, hnesting, hname⟩, hbody, hnext⟩ := h
    have hlimit : ((depth + 1 : Nat) : Int) < settings.maxDepth := by
      have hinner : (depth : Int) < settings.maxDepth - 1 := hdepth
      omega
    exact ⟨⟨hlimit, hnesting, hname⟩, ihbody hbody fun hzero => absurd hzero (Nat.succ_ne_zero _),
      ihnext hnext fun hdepth t ht => hcloses hdepth t (List.mem_cons_of_mem _ ht)⟩

namespace Template

variable {τ : Type}

/-- **A template in a conditional is read as the body of that conditional.**
Let a text be read as a condition, and a template with one level of nesting
less than there may be. If no outermost literal of its tree has a closing tag
in it, the template between the tags is read as one conditional that has the
condition and the nodes of the template. -/
theorem parse_enclosed (settings : Settings) (resolve : Text → Option τ)
    (hlimit : 1 ≤ settings.maxDepth) (c t : Text) (e : Condition) (nodes : List (Node τ))
    (hc : Condition.parse c = .ok e) (ht : (parse settings.inner resolve t).outcome = .ok nodes)
    (hcloses : ∀ text, .literal text ∈ nodes → ClosesNothing text) :
    (parse settings resolve (['<', '#', 'i', 'f', '('] ++ c ++ [')', '>'] ++ t ++
      ['<', '/', '#', 'i', 'f', '>'])).outcome = .ok [.conditional e nodes] := by
  obtain ⟨before, spelling, after, hproper, hnesting, rfl, rfl⟩ :=
    Condition.writtenForm_iff.mp (Condition.parse_eq_ok_iff_writtenForm.mp hc)
  obtain ⟨layout, hfits, rfl, rfl⟩ := parse_outcome_eq_ok_iff.mp ht
  let opener : Lexeme.Opener :=
    ⟨Blank.none, Blank.none, before, spelling, after, Blank.none, hproper⟩
  refine parse_outcome_eq_ok_iff.mpr ⟨.conditional opener layout .canonical .done, ?_, ?_, rfl⟩
  · exact ⟨⟨hlimit, hnesting, rfl⟩, hfits.enclosed fun _ => hcloses, trivial⟩
  · simp [Layout.text, Lexeme.Opener.text, Lexeme.Closer.text, Lexeme.Closer.canonical, opener,
      ifName]

/-- An interpolation that is broken, in a conditional. There may be one and no
more, so none may stand in the template itself. -/
theorem parse_enclosed_broken :
    let settings : Settings := ⟨false, 1, by decide⟩
    let resolve : Text → Option Unit := fun _ => none
    let e : Condition := .compare ⟨['a'], []⟩ .less ⟨['b'], []⟩
    Condition.parse ['a', '<', 'b'] = .ok e ∧
      (parse settings.inner resolve ['%', '\x7b']).outcome = .ok [.literal ['%', '\x7b']] ∧
      (parse settings resolve ['<', '#', 'i', 'f', '(', 'a', '<', 'b', ')', '>', '%', '\x7b',
        '<', '/', '#', 'i', 'f', '>']).outcome = .ok [.conditional e [.literal ['%', '\x7b']]] := by
  intro settings resolve e
  let spelling : Condition.Spelling :=
    .compare ⟨['a'], []⟩ Blank.none .less Blank.none ⟨['b'], []⟩
  have hproper : spelling.IsProper := ⟨by decide, by decide⟩
  have hc : Condition.parse ['a', '<', 'b'] = .ok e := by
    rw [Condition.parse_eq_ok_iff_writtenForm, Condition.writtenForm_iff]
    exact ⟨Blank.none, spelling, Blank.none, hproper, Nat.zero_le _, rfl, rfl⟩
  have hinert : Inert false 0 ['%', '\x7b'] := inert_false_of_readers (by decide)
  have ht : (parse settings.inner resolve ['%', '\x7b']).outcome = .ok [.literal ['%', '\x7b']] :=
    parse_outcome_eq_ok_iff.mpr ⟨.literal ['%', '\x7b'] .done,
      ⟨⟨List.cons_ne_nil _ _, hinert, rfl⟩, trivial⟩, rfl, rfl⟩
  have hcloses : ClosesNothing ['%', '\x7b'] := by
    intro u v l htext
    have hangle : '<' ∈ ['%', '\x7b'] := by
      rw [htext]
      exact List.mem_append_right _ List.mem_cons_self
    exact absurd hangle (by decide)
  refine ⟨hc, ht, parse_enclosed settings resolve (Int.le_refl 1) _ _ e _ hc ht ?_⟩
  intro text hmem
  obtain rfl := Node.literal.inj (List.mem_singleton.mp hmem)
  exact hcloses

end Template

end Stencil
