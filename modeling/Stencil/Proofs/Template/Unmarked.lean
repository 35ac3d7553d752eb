import Mathlib.Data.List.Infix
import Stencil.Proofs.Template.Grammar

/-!
# `Stencil.Proofs.Template.Unmarked`: what strict reading leaves as text

Strict reading takes no mark as text: not the beginning of an
interpolation or of an opening tag, whether the construct is whole or not,
and not a whole closing tag. So a template that is read strictly has no
mark in the literals of its tree, however deep they are
(`not_marked_of_mem_literals`). This is about every place inside a literal,
and not only about the one where it begins.

A closing tag differs from the other two constructs. It is a mark only when
all of it is there, with a name of the letters of names. One that breaks off
or has another name is no mark and is taken as text, in strict reading as in
lenient reading.
-/

set_option autoImplicit false

namespace Stencil

open Text (Blank)

/-! ### The literals of a tree -/

namespace Node

variable {τ : Type}

mutual

/-- The texts of the literals of a tree, at any depth. -/
def literals : Node τ → List Text
  | .literal text => [text]
  | .conditional _ children | .root children => allLiterals children
  | .interpolation .. | .bare => []

/-- The texts of the literals of several trees. -/
def allLiterals : List (Node τ) → List Text
  | [] => []
  | node :: rest => node.literals ++ allLiterals rest

end

end Node

/-! ### Marks inside a text -/

theorem Marked.ne_nil {s : Text} (h : Marked s) : s ≠ [] := by
  rcases h with ⟨l, rest, rfl⟩ | ⟨w, rest, rfl⟩ | ⟨rest, rfl⟩ <;> exact List.cons_ne_nil _ _

/-- In strict reading no place of a text matters if and only if there is no
mark in it. -/
theorem inert_true_iff {depth : Nat} {t : Text} :
    Inert true depth t ↔ ∀ u v, t = u ++ v → ¬ Marked v := by
  constructor
  · rintro h u v rfl hmarked
    exact h v (List.suffix_append u v) hmarked.ne_nil hmarked
  · rintro h v ⟨u, rfl⟩ - hmarked
    exact h u v rfl hmarked

/-- Whether there is a mark in a text can be found out place by place. -/
theorem inert_true_of_front {depth : Nat} {t : Text}
    (h : ∀ v ∈ t.tails, v ≠ [] → front v = .plain) : Inert true depth t := by
  intro v hv hne
  exact front_eq_plain_iff.mp (h v ((List.mem_tails v t).mpr hv) hne)

/-- Where no reader finds a construct, lenient reading takes all as text. -/
theorem inert_false_of_readers {depth : Nat} {t : Text}
    (h : ∀ v ∈ t.tails, closer? v = none ∧ header? v = none ∧ interpolation? v = none) :
    Inert false depth t := by
  rintro v hv - ⟨l, rest, hcounts, hl⟩
  obtain ⟨hcloser, hheader, hinterpolation⟩ := h v ((List.mem_tails v t).mpr hv)
  cases l with
  | closer l => cases hcloser.symm.trans (closer?_eq_some_iff.mpr ⟨l, rfl, hl⟩)
  | opener l => cases hheader.symm.trans (header?_eq_some_iff.mpr ⟨l, hcounts, rfl, hl⟩)
  | interpolation l =>
    cases hinterpolation.symm.trans (interpolation?_eq_some_iff.mpr ⟨l, rfl, rfl, hl⟩)

namespace Layout

variable {τ : Type} {settings : Settings} {resolve : Text → Option τ} {depth : Nat}

/-- The literals of a tree are those of its layout, and nothing that matters
to reading begins in them where they are. -/
theorem exists_inert_of_mem_literals {layout : Layout}
    (hfits : layout.Fits settings resolve depth) {t : Text}
    (ht : t ∈ Node.allLiterals (layout.nodes resolve)) :
    ∃ inner, Inert settings.strict inner t := by
  induction layout generalizing depth with
  | done => cases ht
  | literal text next ih =>
    rw [nodes, Node.allLiterals, Node.literals, List.singleton_append, List.mem_cons] at ht
    rcases ht with rfl | ht
    · exact ⟨depth, hfits.1.2.1⟩
    · exact ih hfits.2 ht
  | interpolation l next ih => exact ih hfits.2 ht
  | conditional opener body closer next ihbody ihnext =>
    rw [nodes, Node.allLiterals, Node.literals, List.mem_append] at ht
    rcases ht with ht | ht
    · exact ihbody hfits.2.1 ht
    · exact ihnext hfits.2.2 ht

end Layout

namespace Template

variable {τ : Type} {settings : Settings} {resolve : Text → Option τ}

/-- No mark stands in a literal of a template that was read strictly. -/
theorem not_marked_of_mem_literals {s : Text} {nodes : List (Node τ)}
    (h : (parse settings.strictly resolve s).outcome = .ok nodes) {t : Text}
    (ht : t ∈ (Node.root nodes).literals) {u v : Text} (huv : t = u ++ v) : ¬ Marked v := by
  obtain ⟨layout, hfits, -, rfl⟩ := parse_outcome_eq_ok_iff.mp h
  obtain ⟨inner, hinert⟩ := Layout.exists_inert_of_mem_literals hfits ht
  exact inert_true_iff.mp hinert u v huv

/-- Text alone is read strictly as one literal if and only if there is some
and no mark is in it. -/
theorem parse_strictly_eq_literal_iff {s : Text} :
    (parse settings.strictly resolve s).outcome = .ok [.literal s] ↔
      s ≠ [] ∧ ∀ u v, s = u ++ v → ¬ Marked v := by
  constructor
  · intro h
    refine ⟨?_, fun u v => not_marked_of_mem_literals h (List.mem_singleton.mpr rfl)⟩
    rintro rfl
    have hempty : (parse settings.strictly resolve []).outcome = .ok [] :=
      parse_outcome_eq_ok_iff.mpr ⟨.done, trivial, rfl, rfl⟩
    rw [hempty] at h
    cases h
  · rintro ⟨hne, hunmarked⟩
    have hinert : Inert true 0 s := inert_true_iff.mpr hunmarked
    exact parse_outcome_eq_ok_iff.mpr ⟨.literal s .done, ⟨⟨hne, hinert, rfl⟩, trivial⟩,
      List.append_nil s, rfl⟩

/-- **Strict reading leaves no construct in a literal**, at any depth: neither
what an interpolation or an opening tag begins with, nor a whole closing
tag. -/
theorem strict_literals_unmarked (settings : Settings) (resolve : Text → Option τ) (s : Text)
    (nodes : List (Node τ)) (h : (parse settings.strictly resolve s).outcome = .ok nodes)
    (t : Text) (ht : t ∈ (Node.root nodes).literals) (u v : Text) (huv : t = u ++ v) :
    (∀ rest, v ≠ '%' :: '\x7b' :: rest) ∧
      (∀ (w : Blank) (rest : Text), v ≠ '<' :: (w.1 ++ '#' :: rest)) ∧
      ∀ (l : Lexeme.Closer) (rest : Text), v ≠ l.text ++ rest := by
  have hmarked := not_marked_of_mem_literals h ht huv
  refine ⟨?_, ?_, ?_⟩
  · intro rest hv
    exact hmarked (Or.inr (Or.inr ⟨rest, hv⟩))
  · intro w rest hv
    exact hmarked (Or.inr (Or.inl ⟨w, rest, hv⟩))
  · intro l rest hv
    exact hmarked (Or.inl ⟨l, rest, hv⟩)

/-- The end of a literal that holds a percent sign and a comparison sign. -/
theorem strict_literals_unmarked_lookalike :
    (parse (τ := Unit) Settings.defaults.strictly (fun _ => none)
      ['5', '%', '<', 'x']).outcome = .ok [.literal ['5', '%', '<', 'x']] ∧
    (∀ rest, (['%', '<', 'x'] : Text) ≠ '%' :: '\x7b' :: rest) ∧
      (∀ (w : Blank) (rest : Text), ['%', '<', 'x'] ≠ '<' :: (w.1 ++ '#' :: rest)) ∧
      ∀ (l : Lexeme.Closer) (rest : Text), ['%', '<', 'x'] ≠ l.text ++ rest := by
  have h : (parse (τ := Unit) Settings.defaults.strictly (fun _ => none)
      ['5', '%', '<', 'x']).outcome = .ok [.literal ['5', '%', '<', 'x']] :=
    parse_outcome_eq_ok_iff.mpr ⟨.literal ['5', '%', '<', 'x'] .done,
      ⟨⟨List.cons_ne_nil _ _, inert_true_of_front (by decide), rfl⟩, trivial⟩, rfl, rfl⟩
  exact ⟨h, strict_literals_unmarked Settings.defaults _ _ _ h _ (List.mem_singleton.mpr rfl)
    ['5'] _ rfl⟩

/-- **A closing tag with another name is text**, in a strict reading too. -/
theorem strict_literal_with_capital_closer :
    (parse (τ := Unit) Settings.defaults.strictly (fun _ => none)
      ['<', '#', 'i', 'f', '(', 'a', '=', '=', 'b', ')', '>', 'x', '<', '/', '#', 'E', 'N', 'D',
        '>', '<', '/', '#', 'i', 'f', '>']).outcome =
      .ok [.conditional (.compare ⟨['a'], []⟩ .equal ⟨['b'], []⟩)
        [.literal ['x', '<', '/', '#', 'E', 'N', 'D', '>']]] := by
  have hcondition : (Condition.Spelling.compare ⟨['a'], []⟩ Blank.none .equal Blank.none
      ⟨['b'], []⟩).IsProper := ⟨by decide, by decide⟩
  have hinert : Inert true 1 ['x', '<', '/', '#', 'E', 'N', 'D', '>'] :=
    inert_true_of_front (by decide)
  refine parse_outcome_eq_ok_iff.mpr ⟨.conditional
    ⟨Blank.none, Blank.none, Blank.none, _, Blank.none, Blank.none, hcondition⟩
    (.literal ['x', '<', '/', '#', 'E', 'N', 'D', '>'] .done)
    ⟨Blank.none, Blank.none, ifName, Blank.none, by decide⟩ .done, ?_, rfl, rfl⟩
  exact ⟨⟨by decide, Nat.zero_le _, rfl⟩, ⟨⟨List.cons_ne_nil _ _, hinert, rfl⟩, trivial⟩, trivial⟩

end Template

end Stencil
