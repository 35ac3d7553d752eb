import Mathlib.Logic.Function.Iterate
import Stencil.Proofs.Condition.Canonical
import Stencil.Proofs.Condition.Grammar

/-!
# `Stencil.Proofs.Condition.RoundTrip`: reading what is printed

The canonical form of a condition has one spelling, and that spelling means
the condition. So reading the canonical form gives the condition back,
unless it nests too deep. Then it is not read at all: no shorter condition
at the front is read in its place (`readAt_text_eq_none`), because the
readers would have to leave what the spelling leaves.

How deep a text nests is a fact about its characters. `Spelling.depths`
tells for each of them how many groups and negations enclose it, and
`max?_depths` says that the largest of these numbers is the nesting.

What was read need not be read again from its canonical form. The canonical
form has parentheses between two negations, which the text need not have,
and they count. `parse_print_negated` gives the conditions where this
matters.
-/

set_option autoImplicit false

namespace Stencil.Condition

open Text (Blank skipSpace)

/-! ### The deepest point of a text -/

namespace Spelling

/-- How many groups and negations enclose each character of the text. The
signs of a group are outside of it, and so is the sign of a negation. -/
def depths : Spelling → List Nat
  | .compare left before op after right =>
    (Spelling.compare left before op after right).text.map fun _ => 0
  | .group before inner after =>
    0 :: ((before.1.map fun _ => 1) ++ (inner.depths.map (· + 1) ++
      ((after.1.map fun _ => 1) ++ [0])))
  | .not after inner => 0 :: ((after.1.map fun _ => 1) ++ inner.depths.map (· + 1))
  | .join junction left before after right =>
    left.depths ++ (((before.1 ++ (junction.sign ++ after.1)).map fun _ => 0) ++ right.depths)

theorem le_nesting_of_mem_depths {e : Spelling} {d : Nat} (h : d ∈ e.depths) :
    d ≤ e.nesting := by
  induction e generalizing d with
  | compare left before op after right =>
    obtain ⟨_, -, rfl⟩ := List.mem_map.mp h
    exact Nat.zero_le _
  | group before inner after ih =>
    simp only [depths, List.mem_cons, List.mem_append, List.mem_map, List.not_mem_nil,
      or_false] at h
    rcases h with rfl | ⟨_, -, rfl⟩ | ⟨d, hd, rfl⟩ | ⟨_, -, rfl⟩ | rfl
    · exact Nat.zero_le _
    · exact Nat.succ_pos _
    · exact Nat.succ_le_succ (ih hd)
    · exact Nat.succ_pos _
    · exact Nat.zero_le _
  | not after inner ih =>
    simp only [depths, List.mem_cons, List.mem_append, List.mem_map] at h
    rcases h with rfl | ⟨_, -, rfl⟩ | ⟨d, hd, rfl⟩
    · exact Nat.zero_le _
    · exact Nat.succ_pos _
    · exact Nat.succ_le_succ (ih hd)
  | join junction left before after right ihl ihr =>
    rw [depths, List.mem_append, List.mem_append] at h
    rcases h with hd | hd | hd
    · exact Nat.le_trans (ihl hd) (Nat.le_max_left _ _)
    · obtain ⟨_, -, rfl⟩ := List.mem_map.mp hd
      exact Nat.zero_le _
    · exact Nat.le_trans (ihr hd) (Nat.le_max_right _ _)

theorem nesting_mem_depths (e : Spelling) : e.nesting ∈ e.depths := by
  induction e with
  | compare left before op after right =>
    obtain ⟨c, more, hsymbol, -⟩ := op.exists_cons_symbol
    exact List.mem_map.mpr ⟨c, by simp [text, hsymbol], rfl⟩
  | group before inner after ih =>
    have hinner := List.mem_map_of_mem (f := (· + 1)) ih
    simp only [depths, List.mem_cons, List.mem_append]
    exact Or.inr (Or.inr (Or.inl hinner))
  | not after inner ih =>
    have hinner := List.mem_map_of_mem (f := (· + 1)) ih
    simp only [depths, List.mem_cons, List.mem_append]
    exact Or.inr (Or.inr hinner)
  | join junction left before after right ihl ihr =>
    rw [depths, List.mem_append, List.mem_append, nesting]
    rcases Nat.le_total left.nesting right.nesting with hle | hle
    · rw [Nat.max_eq_right hle]
      exact Or.inr (Or.inr ihr)
    · rw [Nat.max_eq_left hle]
      exact Or.inl ihl

/-- **The nesting is the largest number of groups and negations around any
point** of the text. -/
theorem max?_depths (e : Spelling) : e.depths.max? = some e.nesting :=
  List.max?_eq_some_iff.mpr ⟨e.nesting_mem_depths, fun _ hd => le_nesting_of_mem_depths hd⟩

end Spelling

/-! ### Reading a spelling -/

/-- **A spelling that nests too deep is not read**, not even in part. What
was read in its place would have the same end, and so be the same spelling
with less nesting. -/
theorem readAt_text_eq_none {e : Spelling} (he : e.IsProper) {allowance level : Nat}
    (hnesting : allowance < e.nesting) (hlevel : e.level ≤ level) (htwo : level ≤ 2)
    {rest : Text} (hends : e.Ends level rest) :
    readAt allowance level (e.text ++ rest) = none := by
  rw [Option.eq_none_iff_forall_ne_some]
  intro found hread
  obtain ⟨c, rest'⟩ := found
  obtain ⟨e', he', hlevel', hnesting', -, htext, hends'⟩ := spelled_of_readAt htwo hread
  obtain ⟨heq, -⟩ := Spelling.rest_unique he he' hlevel hlevel' htwo hends hends' htext
  rw [Spelling.eq_of_text_eq he he' heq] at hnesting
  omega

/-- A spelling that nests no deeper than the limit is read as what it
means. -/
theorem parse_text_of_le {e : Spelling} (he : e.IsProper) (hnesting : e.nesting ≤ nestingLimit) :
    parse e.text = .ok e.value := by
  rw [parse_eq_ok_iff_writtenForm, writtenForm_iff]
  exact ⟨Blank.none, e, Blank.none, he, hnesting, rfl, by simp⟩

/-- One that nests deeper is an error at its first character. -/
theorem parse_text_of_lt {e : Spelling} (he : e.IsProper) (hnesting : nestingLimit < e.nesting) :
    parse e.text = .error (.invalid e.text 0) := by
  have hstop := Spelling.stopsAt_isSpace_text he []
  have hnone := readAt_text_eq_none he hnesting e.level_le_two (Nat.le_refl 2)
    (Spelling.ends_of_boundary he boundary_nil 2)
  rw [List.append_nil] at hstop hnone
  have hskip := Text.skipSpace_of_stopsAt hstop
  have hread : condition? nestingLimit (skipSpace e.text) = none := by rwa [hskip]
  rcases parse_cases e.text with ⟨c, rest, hsome, -⟩ | ⟨c, rest, hsome, -⟩ | ⟨-, hparse⟩
  · exact absurd hsome (by simp [hread])
  · exact absurd hsome (by simp [hread])
  · rw [hparse, hskip, Nat.sub_self]

/-- The names in a condition that was read are identifiers. -/
theorem isLexical_of_parse {s : Text} {c : Condition} (h : parse s = .ok c) :
    c.isLexical = true := by
  obtain ⟨-, e, -, he, -, rfl, -⟩ := writtenForm_iff.mp (parse_eq_ok_iff_writtenForm.mp h)
  exact Spelling.isLexical_value he

/-! ### Reading the canonical form -/

section Print

variable {c : Condition}

theorem parse_print_of_le (h : c.isLexical = true) (hnesting : c.nesting ≤ nestingLimit) :
    parse c.print = .ok c := by
  have hread := parse_text_of_le (isProper_canonical h) (by rwa [nesting_canonical])
  rwa [text_canonical, value_canonical] at hread

theorem parse_print_of_lt (h : c.isLexical = true) (hnesting : nestingLimit < c.nesting) :
    parse c.print = .error (.invalid c.print 0) := by
  have hread := parse_text_of_lt (isProper_canonical h) (by rwa [nesting_canonical])
  rwa [text_canonical] at hread

/-- The canonical form has the canonical spelling and no other. -/
theorem eq_canonical_of_text_eq (h : c.isLexical = true) {e : Spelling} (he : e.IsProper)
    (htext : e.text = c.print) : e = c.canonical :=
  Spelling.eq_of_text_eq he (isProper_canonical h) (htext.trans (text_canonical c).symm)

/-- A condition is told by its canonical form, however deep it nests. -/
theorem print_inj {d : Condition} (h : c.isLexical = true) (hd : d.isLexical = true)
    (hprint : c.print = d.print) : c = d := by
  have htext : c.canonical.text = d.print := (text_canonical c).trans hprint
  have heq := eq_canonical_of_text_eq hd (isProper_canonical h) htext
  calc c = c.canonical.value := (value_canonical c).symm
    _ = d.canonical.value := by rw [heq]
    _ = d := value_canonical d

end Print

/-- **The canonical form is read as the condition if it does not nest too
deep**, and is an error at its first character if it does. How deep it nests
is a fact about the text: the largest number of groups and negations around
any point of it, in the one spelling that it has. -/
theorem parse_print (c : Condition) (h : c.isLexical = true) :
    (∃ e : Spelling, (e.IsProper ∧ e.text = c.print) ∧ e.depths.max? = some c.nesting ∧
      ∀ e' : Spelling, e'.IsProper → e'.text = c.print → e' = e) ∧
    (c.nesting ≤ nestingLimit → parse c.print = .ok c) ∧
    (nestingLimit < c.nesting → parse c.print = .error (.invalid c.print 0)) := by
  refine ⟨⟨c.canonical, ⟨isProper_canonical h, text_canonical c⟩, ?_, ?_⟩,
    parse_print_of_le h, parse_print_of_lt h⟩
  · rw [Spelling.max?_depths, nesting_canonical]
  · intro e he htext
    exact eq_canonical_of_text_eq h he htext

/-- A condition with a double negation of a join is read from its canonical
form. -/
theorem parse_print_not_not_or :
    (Condition.not (.not (.or (.compare ⟨['a'], []⟩ .less ⟨['b'], []⟩)
      (.compare ⟨['c'], []⟩ .equal ⟨['d'], [⟨['e'], true⟩]⟩)))).isLexical = true ∧
    parse ['!', '(', '!', '(', 'a', '<', 'b', ' ', '|', '|', ' ', 'c', '=', '=', 'd', '.', 'e',
        '(', ')', ')', ')'] =
      .ok (.not (.not (.or (.compare ⟨['a'], []⟩ .less ⟨['b'], []⟩)
        (.compare ⟨['c'], []⟩ .equal ⟨['d'], [⟨['e'], true⟩]⟩)))) := by
  have h : (Condition.not (.not (.or (.compare ⟨['a'], []⟩ .less ⟨['b'], []⟩)
      (.compare ⟨['c'], []⟩ .equal ⟨['d'], [⟨['e'], true⟩]⟩)))).isLexical = true := by decide
  exact ⟨h, (parse_print _ h).2.1 (by decide)⟩

/-! ### Writing back what was read -/

/-- **What was read is read again from its canonical form if and only if
that does not nest too deep.** Otherwise the canonical form is an error at
its first character. -/
theorem parse_print_of_parse {s : Text} {c : Condition} (h : parse s = .ok c) :
    (parse c.print = .ok c ↔ c.nesting ≤ nestingLimit) ∧
      (parse c.print ≠ .ok c → parse c.print = .error (.invalid c.print 0)) := by
  have hlexical := isLexical_of_parse h
  by_cases hnesting : c.nesting ≤ nestingLimit
  · have hread := parse_print_of_le hlexical hnesting
    exact ⟨iff_of_true hread hnesting, fun hne => absurd hread hne⟩
  · have herror := parse_print_of_lt hlexical (Nat.not_le.mp hnesting)
    refine ⟨iff_of_false ?_ hnesting, fun _ => herror⟩
    rw [herror]
    exact nofun

/-- A comparison that is negated twice is read again from its canonical form,
which has parentheses where it had none. -/
theorem parse_print_of_parse_not_not :
    parse ['!', '!', 'a', '=', '=', 'b'] =
      .ok (.not (.not (.compare ⟨['a'], []⟩ .equal ⟨['b'], []⟩))) ∧
    parse ['!', '(', '!', 'a', '=', '=', 'b', ')'] =
      .ok (.not (.not (.compare ⟨['a'], []⟩ .equal ⟨['b'], []⟩))) := by
  have hproper : (Spelling.not Blank.none (.not Blank.none (.compare ⟨['a'], []⟩ Blank.none .equal
      Blank.none ⟨['b'], []⟩))).IsProper := ⟨rfl, rfl, by decide, by decide⟩
  have h : parse ['!', '!', 'a', '=', '=', 'b'] =
      .ok (.not (.not (.compare ⟨['a'], []⟩ .equal ⟨['b'], []⟩))) :=
    parse_text_of_le hproper (by decide)
  exact ⟨h, (parse_print_of_parse h).1.mpr (by decide)⟩

namespace Spelling

/-- A spelling behind as many signs of negation, with nothing between
them. -/
def negated (e : Spelling) : Nat → Spelling
  | 0 => e
  | n + 1 => .not Blank.none (e.negated n)

variable {e : Spelling}

theorem text_negated (e : Spelling) (n : Nat) :
    (e.negated n).text = List.replicate n '!' ++ e.text := by
  induction n with
  | zero => rfl
  | succ n ih =>
    rw [negated, text, ih, List.replicate_succ, List.cons_append]
    rfl

theorem value_negated (e : Spelling) (n : Nat) :
    (e.negated n).value = Condition.not^[n] e.value := by
  induction n with
  | zero => rfl
  | succ n ih => rw [negated, value, ih, Function.iterate_succ_apply']

theorem nesting_negated (e : Spelling) (n : Nat) : (e.negated n).nesting = e.nesting + n := by
  induction n with
  | zero => rfl
  | succ n ih => rw [negated, nesting, ih, Nat.add_assoc]

theorem level_negated (h : e.level = 0) (n : Nat) : (e.negated n).level = 0 := by
  cases n with
  | zero => exact h
  | succ n => rfl

theorem isProper_negated (he : e.IsProper) (h : e.level = 0) (n : Nat) :
    (e.negated n).IsProper := by
  induction n with
  | zero => exact he
  | succ n ih => exact ⟨level_negated h n, ih⟩

end Spelling

/-- Each negation but the innermost needs a group in the canonical form. -/
theorem nesting_iterate_not {c : Condition} (h : c.isComparison = true) (n : Nat) :
    (Condition.not^[n + 1] c).nesting = 2 * n + 1 := by
  induction n with
  | zero => simp [nesting, h]
  | succ n ih =>
    have hnot : (Condition.not^[n + 1] c).isComparison = false := by
      rw [Function.iterate_succ_apply']
      rfl
    rw [Function.iterate_succ_apply', nesting, hnot, ih]
    simp only [Bool.false_eq_true, if_false]
    omega

/-- **A comparison behind more than half as many negations as are allowed**
is read, and its canonical form is not. -/
theorem parse_print_negated {e : Spelling} (he : e.IsProper) (hlevel : e.level = 0)
    (hcompare : e.value.isComparison = true) {n : Nat} (hmany : nestingLimit < 2 * n + 1)
    (hfew : e.nesting + (n + 1) ≤ nestingLimit) :
    let c := Condition.not^[n + 1] e.value
    parse (List.replicate (n + 1) '!' ++ e.text) = .ok c ∧
      parse c.print = .error (.invalid c.print 0) := by
  intro c
  have hread := parse_text_of_le (Spelling.isProper_negated he hlevel (n + 1))
    (by rwa [Spelling.nesting_negated])
  rw [Spelling.text_negated, Spelling.value_negated] at hread
  refine ⟨hread, parse_print_of_lt (isLexical_of_parse hread) ?_⟩
  rwa [nesting_iterate_not hcompare]

/-- Thirty-three negations of a comparison are read, and what is written for
them is an error. -/
theorem parse_print_thirtyThree_negations :
    parse (List.replicate 33 '!' ++ ['a', '=', '=', 'b']) =
        .ok (Condition.not^[33] (.compare ⟨['a'], []⟩ .equal ⟨['b'], []⟩)) ∧
      parse (Condition.not^[33] (.compare ⟨['a'], []⟩ .equal ⟨['b'], []⟩)).print =
        .error (.invalid (Condition.not^[33] (.compare ⟨['a'], []⟩ .equal ⟨['b'], []⟩)).print
          0) := by
  have hproper : (Spelling.compare ⟨['a'], []⟩ Blank.none .equal Blank.none
      ⟨['b'], []⟩).IsProper := ⟨by decide, by decide⟩
  exact parse_print_negated hproper rfl rfl (n := 32) (by decide) (by decide)

end Stencil.Condition
