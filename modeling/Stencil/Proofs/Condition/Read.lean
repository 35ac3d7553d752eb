import Stencil.Proofs.Condition.Spelling

/-!
# `Stencil.Proofs.Condition.Read`: the reader of conditions and its grammar

The readers of factors, terms and conditions never go back: once a sign
or a parenthesis is there, what it asks for has to follow. The grammar
knows nothing of that. `readAt_eq_some_iff` says that the two agree. A
reader succeeds if and only if a proper spelling of its level stands at
the front, nested no deeper than its allowance, and what follows could
not belong to it.

One direction, `spelled_of_readAt`, is an induction on the
allowance, which is what the readers recurse on. The other,
`readAt_text`, is an induction on the spelling. In both, the two signs
that join are one case, because the readers of terms and of conditions
are one function of the sign and of the reader below.

`eq_of_text_eq` says that a text has one spelling at most. Readers are
functions, so two spellings of one text cannot end their operands at
different places, and an induction compares them part by part. The
nesting is no hypothesis there: the allowance may be as large as it has
to be. `eq_of_text_append_eq` adds the text that follows.
-/

set_option autoImplicit false

namespace Stencil

open Text (Blank StopsAt isSpace skipSpace word? char?)

/-! ### Signs of comparison -/

namespace Comparator

/-- What follows a sign of comparison could not belong to it. Only `>`
and `<` go on, with `=`. -/
def Ends : Comparator → Text → Prop
  | .greater, rest | .less, rest => StopsAt (· == '=') rest
  | _, _ => True

/-- A sign of comparison is read if and only if it stands at the front
and is over there. -/
theorem comparator?_eq_some_iff {s rest : Text} {op : Comparator} :
    comparator? s = some (op, rest) ↔ s = op.symbol ++ rest ∧ op.Ends rest := by
  constructor
  · intro h
    unfold comparator? at h
    split at h <;> simp only [Option.some.injEq, Prod.mk.injEq, reduceCtorEq] at h
    -- One case for each of the six signs, the longer ones before the shorter.
    all_goals obtain ⟨rfl, rfl⟩ := h
    · exact ⟨rfl, trivial⟩
    · exact ⟨rfl, trivial⟩
    · exact ⟨rfl, trivial⟩
    · -- A lone `>`, because the case with `=` came before.
      rename_i hlone
      exact ⟨rfl, Text.stopsAt_beq_iff.mpr hlone⟩
    · exact ⟨rfl, trivial⟩
    · rename_i hlone
      exact ⟨rfl, Text.stopsAt_beq_iff.mpr hlone⟩
  · intro h
    obtain ⟨rfl, hends⟩ := h
    cases op with
    | greater =>
      -- The case of `>=` is left out because no `=` follows.
      have hlone : ∀ tail, rest ≠ '=' :: tail := Text.stopsAt_beq_iff.mp hends
      show comparator? ('>' :: rest) = some (.greater, rest)
      unfold comparator?
      split <;> simp_all
    | less =>
      have hlone : ∀ tail, rest ≠ '=' :: tail := Text.stopsAt_beq_iff.mp hends
      show comparator? ('<' :: rest) = some (.less, rest)
      unfold comparator?
      split <;> simp_all
    | _ => rfl

/-- A sign of comparison begins with a delimiter, with which no path goes
on. -/
theorem exists_cons_symbol (op : Comparator) :
    ∃ c more, op.symbol = c :: more ∧ c ∈ Text.delimiters ∧ Path.mayContinue c = false := by
  cases op <;> exact ⟨_, _, rfl, by decide⟩

/-- No white space stands before a sign of comparison. -/
theorem stopsAt_isSpace_symbol (op : Comparator) (s : Text) :
    StopsAt isSpace (op.symbol ++ s) := by
  obtain ⟨c, more, hsymbol, hc, -⟩ := op.exists_cons_symbol
  rw [hsymbol, List.cons_append, Text.stopsAt_cons]
  exact Text.isSpace_delimiter hc

/-- A path is over before a sign of comparison. -/
theorem stopsAt_mayContinue_symbol (op : Comparator) (w : Blank) (s : Text) :
    StopsAt Path.mayContinue (w.1 ++ (op.symbol ++ s)) := by
  obtain ⟨c, more, hsymbol, -, hc⟩ := op.exists_cons_symbol
  refine Text.stopsAt_blank_append (fun c hc => Path.mayContinue_eq_false_of_isSpace hc) w ?_
  rw [hsymbol, List.cons_append, Text.stopsAt_cons]
  exact hc

/-- A sign of comparison is over where no `=` follows. -/
theorem Ends.of_stopsAt {op : Comparator} {rest : Text} (h : StopsAt (· == '=') rest) :
    op.Ends rest := by
  cases op <;> first | exact h | trivial

/-- A sign of comparison is over before a path. -/
theorem ends_path (op : Comparator) (w : Blank) {p : Path} (hp : p.isLexical = true)
    (s : Text) : op.Ends (w.1 ++ (p.print ++ s)) := by
  refine Ends.of_stopsAt (Text.stopsAt_blank_append (fun c hc => ?_) w ?_)
  · rw [beq_eq_false_iff_ne]
    rintro rfl
    exact absurd hc (by decide)
  · obtain ⟨c, tail, hprint, hc⟩ := Path.exists_cons_print hp
    rw [hprint, List.cons_append, Text.stopsAt_cons, beq_eq_false_iff_ne]
    rintro rfl
    exact absurd hc (by decide)

/-- A sign of comparison is told by its written form and what stops
there. -/
theorem symbol_append_inj {op op' : Comparator} {s s' : Text} (hs : op.Ends s)
    (hs' : op'.Ends s') (h : op.symbol ++ s = op'.symbol ++ s') : op = op' ∧ s = s' := by
  have hread : comparator? (op.symbol ++ s) = some (op, s) :=
    comparator?_eq_some_iff.mpr ⟨rfl, hs⟩
  have hread' : comparator? (op.symbol ++ s) = some (op', s') :=
    comparator?_eq_some_iff.mpr ⟨h, hs'⟩
  rw [hread] at hread'
  simpa using hread'

end Comparator

namespace Condition

open Spelling

/-! ### Readers by level -/

/-- The reader of the spellings up to a level: factors, terms, whole
conditions. -/
def readAt (allowance : Nat) : Nat → Reader Condition
  | 0 => factor? allowance
  | 1 => term? allowance
  | _ => condition? allowance

/-- On the level of a sign, the reader takes one or two operands of the
level below. -/
theorem readAt_level (allowance : Nat) (j : Junction) :
    readAt allowance j.level =
      oneOrJoined j.sign j.join (readAt allowance (j.level - 1)) := by
  cases j <;> rfl

/-- One operand is read where the sign does not follow, and two with
the sign between them where it does. -/
theorem oneOrJoined_eq_some_iff {j : Junction} {operand : Reader Condition} {s rest : Text}
    {c : Condition} : oneOrJoined j.sign j.join operand s = some (c, rest) ↔
      operand s = some (c, rest) ∧ j.Absent rest ∨
      ∃ left before afterSign after right,
        operand s = some (left, before ++ (j.sign ++ afterSign)) ∧
        (∀ d ∈ before, Text.isSpace d = true) ∧ skipSpace afterSign = after ∧
        operand after = some (right, rest) ∧ j.join left right = c := by
  simp only [oneOrJoined, Option.bind_eq_bind, Option.bind_eq_some_iff, Prod.exists]
  constructor
  · intro h
    obtain ⟨left, afterLeft, hleft, h⟩ := h
    split at h
    · rename_i hsign
      simp only [Option.some.injEq, Prod.mk.injEq] at h
      obtain ⟨rfl, rfl⟩ := h
      exact Or.inl ⟨hleft, Junction.word?_sign_eq_none_iff.mp hsign⟩
    · rename_i afterSign hsign
      simp only [Option.bind_eq_some_iff, Option.some.injEq, Prod.exists, Prod.mk.injEq] at h
      obtain ⟨right, afterRight, hright, rfl, rfl⟩ := h
      obtain ⟨before, rfl⟩ := Junction.word?_sign_eq_some_iff.mp hsign
      exact Or.inr ⟨left, before.1, afterSign, _, right, hleft, before.2, rfl, hright, rfl⟩
  · rintro (⟨hone, habsent⟩ | ⟨left, before, afterSign, after, right, hleft, hbefore, rfl,
      hright, rfl⟩)
    · -- One operand: the sign is looked for and not found.
      refine ⟨c, rest, hone, ?_⟩
      rw [Junction.word?_sign_eq_none_iff.mpr habsent]
    · -- Two operands: the sign is found behind white space.
      refine ⟨left, _, hleft, ?_⟩
      rw [Junction.word?_sign_eq_some_iff.mpr ⟨⟨before, hbefore⟩, rfl⟩]
      simp [hright]

/-! ### Comparisons -/

/-- A comparison is read if and only if a spelling of one stands at the
front and its second path is over there. -/
theorem comparison?_eq_some_iff {s rest : Text} {c : Condition} :
    comparison? s = some (c, rest) ↔ ∃ left before op after right,
      (Spelling.compare left before op after right).IsProper ∧
        .compare left op right = c ∧
        s = (Spelling.compare left before op after right).text ++ rest ∧ right.Ends rest := by
  simp only [comparison?, Option.bind_eq_bind, Option.bind_eq_some_iff, Option.some.injEq,
    Prod.exists, Prod.mk.injEq, path?_eq_some_iff, Comparator.comparator?_eq_some_iff]
  constructor
  · rintro ⟨left, afterLeft, ⟨hleft, rfl, -⟩, op, afterOp, ⟨hop, -⟩, right, afterRight,
      ⟨hright, hrest, hends⟩, rfl, rfl⟩
    obtain ⟨before, hbefore⟩ := Text.exists_blank_append_skipSpace afterLeft
    obtain ⟨after, hafter⟩ := Text.exists_blank_append_skipSpace afterOp
    refine ⟨left, before, op, after, right, ⟨hleft, hright⟩, rfl, ?_, hends⟩
    rw [hbefore, hop, hafter, hrest]
    simp [text]
  · intro h
    obtain ⟨left, before, op, after, right, ⟨hleft, hright⟩, rfl, rfl, hends⟩ := h
    -- Each part is over where the next one begins.
    refine ⟨left, before.1 ++ (op.symbol ++ (after.1 ++ (right.print ++ rest))),
      ⟨hleft, by simp [text], ?_⟩, op, after.1 ++ (right.print ++ rest), ⟨?_, ?_⟩,
      right, rest, ⟨hright, ?_, hends⟩, rfl, rfl⟩
    · exact Path.Ends.of_stopsAt (op.stopsAt_mayContinue_symbol before _)
    · exact Text.skipSpace_blank_append before (op.stopsAt_isSpace_symbol _)
    · exact op.ends_path after hright rest
    · exact Text.skipSpace_blank_append after (Path.stopsAt_isSpace_print hright rest)

/-! ### Factors

One lemma for each way in which a factor may begin. -/

/-- A factor that begins with neither of the signs `(` and `!` is a
comparison. -/
theorem factor?_of_stopsAt {s : Text} (h : StopsAt (fun c => c == '(' || c == '!') s)
    (allowance : Nat) : factor? allowance s = comparison? s := by
  cases allowance with
  | zero => rfl
  | succ allowance =>
    unfold factor?
    split <;> simp_all

theorem factor?_group {allowance : Nat} {s left rest : Text} {c : Condition}
    (hinner : condition? allowance (skipSpace s) = some (c, left))
    (hclose : char? ')' (skipSpace left) = some rest) :
    factor? (allowance + 1) ('(' :: s) = some (c, rest) := by
  have h : conditionOf (factor? allowance) (skipSpace s) = some (c, left) := hinner
  simp [factor?, h, hclose]

theorem factor?_not {allowance : Nat} {s rest : Text} {c : Condition}
    (hinner : factor? allowance (skipSpace s) = some (c, rest)) :
    factor? (allowance + 1) ('!' :: s) = some (.not c, rest) := by
  simp [factor?, hinner]

/-! ### What is read is a spelling -/

/-- A proper spelling of the level stands at the front, is nested no
deeper than allowed, and is over before what is left. -/
def Spelled (allowance level : Nat) (s : Text) (c : Condition) (rest : Text) : Prop :=
  ∃ e : Spelling, e.IsProper ∧ e.level ≤ level ∧ e.nesting ≤ allowance ∧ e.value = c ∧
    s = e.text ++ rest ∧ e.Ends level rest

/-- If the reader below reads spellings, so does the one on the level of
a sign. -/
theorem Spelled.join {allowance : Nat} {j : Junction}
    (hlower : ∀ {s rest c}, readAt allowance (j.level - 1) s = some (c, rest) →
      Spelled allowance (j.level - 1) s c rest)
    {s rest : Text} {c : Condition} (h : readAt allowance j.level s = some (c, rest)) :
    Spelled allowance j.level s c rest := by
  have hpos := j.level_pos
  rw [readAt_level, oneOrJoined_eq_some_iff] at h
  rcases h with ⟨hone, habsent⟩ | ⟨left, before, afterSign, after, right, hleft, hbefore, rfl,
    hright, rfl⟩
  · -- One operand: the sign does not follow, and no lower one did.
    obtain ⟨e, he, hlevel, hnesting, hvalue, htext, hover, hsigns⟩ := hlower hone
    refine ⟨e, he, by omega, hnesting, hvalue, htext, hover, fun k hk hkj => ?_⟩
    by_cases hkj' : k.level ≤ j.level - 1
    · exact hsigns k hk hkj'
    · obtain rfl : k = j := Junction.level_inj (by omega)
      exact habsent
  · -- Two operands: each is spelled on the level below.
    obtain ⟨l, hl, hllevel, hlnesting, rfl, hltext, -⟩ := hlower hleft
    obtain ⟨r, hr, hrlevel, hrnesting, rfl, hrtext, hrends⟩ := hlower hright
    obtain ⟨gap, hgap⟩ := Text.exists_blank_append_skipSpace afterSign
    refine ⟨.join j l ⟨before, hbefore⟩ gap r, ⟨⟨by omega, by omega⟩, hl, hr⟩,
      Nat.le_refl _, Nat.max_le.mpr ⟨hlnesting, hrnesting⟩, rfl, ?_, ?_, ?_⟩
    · rw [hltext, hgap, hrtext]
      simp [text]
    · exact isOver_join.mpr hrends
    · intro k hk hkj
      exact absurd hk (Nat.not_lt.mpr hkj)

/-- A reader of factors that reads spellings makes all three readers do
so. -/
theorem Spelled.ofFactor {allowance : Nat}
    (hfactor : ∀ {s rest c}, factor? allowance s = some (c, rest) →
      Spelled allowance 0 s c rest)
    {level : Nat} (hlevel : level ≤ 2) {s rest : Text} {c : Condition}
    (h : readAt allowance level s = some (c, rest)) : Spelled allowance level s c rest := by
  have hterm : ∀ {s rest c}, readAt allowance 1 s = some (c, rest) →
      Spelled allowance 1 s c rest := fun h => Spelled.join (j := .and) hfactor h
  match level, hlevel with
  | 0, _ => exact hfactor h
  | 1, _ => exact hterm h
  | 2, _ => exact Spelled.join (j := .or) hterm h

/-- What is read as a factor is spelled so. The induction is on the
allowance: a group or a negation takes one off it and reads its inside
with the rest. -/
theorem Spelled.ofFactor? (allowance : Nat) : ∀ {s rest : Text} {c : Condition},
    factor? allowance s = some (c, rest) → Spelled allowance 0 s c rest := by
  have hcompare : ∀ (n : Nat) {s rest : Text} {c : Condition},
      comparison? s = some (c, rest) → Spelled n 0 s c rest := by
    intro n s rest c h
    obtain ⟨left, before, op, after, right, hproper, hvalue, htext, hends⟩ :=
      comparison?_eq_some_iff.mp h
    refine ⟨_, hproper, Nat.le_refl 0, Nat.zero_le n, hvalue, htext, hends, ?_⟩
    intro k hk hk0
    exact absurd hk (Nat.not_lt.mpr hk0)
  induction allowance with
  | zero => exact hcompare 0
  | succ allowance ih =>
    intro s rest c h
    unfold factor? at h
    split at h
    · exact absurd ‹allowance + 1 = 0› (Nat.succ_ne_zero _)
    · -- A group: a whole condition between white space, and the parenthesis.
      rename_i n inner hn
      cases hn
      simp only [Option.bind_eq_bind, Option.bind_eq_some_iff, Option.some.injEq,
        Prod.exists, Prod.mk.injEq] at h
      obtain ⟨c', left, hinner, left', hclose, rfl, rfl⟩ := h
      obtain ⟨e, he, hlevel, hnesting, hvalue, htext, -⟩ :=
        Spelled.ofFactor ih (Nat.le_refl 2) hinner
      obtain ⟨before, hbefore⟩ := Text.exists_blank_append_skipSpace inner
      obtain ⟨after, rfl⟩ := (Text.char?_skipSpace_eq_some_iff (by decide)).mp hclose
      refine ⟨.group before e after, he, Nat.le_refl 0, Nat.succ_le_succ hnesting, hvalue,
        ?_, trivial, fun k hk hk0 => absurd hk (Nat.not_lt.mpr hk0)⟩
      rw [hbefore, htext]
      simp [text]
    · -- A negation: white space and one factor.
      rename_i n inner hn
      cases hn
      simp only [Option.bind_eq_bind, Option.bind_eq_some_iff, Option.some.injEq,
        Prod.exists, Prod.mk.injEq] at h
      obtain ⟨c', left, hinner, rfl, rfl⟩ := h
      obtain ⟨e, he, hlevel, hnesting, rfl, htext, hends⟩ := ih hinner
      obtain ⟨after, hafter⟩ := Text.exists_blank_append_skipSpace inner
      refine ⟨.not after e, ⟨Nat.le_zero.mp hlevel, he⟩, Nat.le_refl 0,
        Nat.succ_le_succ hnesting, rfl, ?_, hends.1,
        fun k hk hk0 => absurd hk (Nat.not_lt.mpr hk0)⟩
      rw [hafter, htext]
      simp [text]
    · exact hcompare _ h

/-- **What is read is a spelling.** -/
theorem spelled_of_readAt {allowance level : Nat} (hlevel : level ≤ 2) {s rest : Text}
    {c : Condition} (h : readAt allowance level s = some (c, rest)) :
    Spelled allowance level s c rest :=
  Spelled.ofFactor (Spelled.ofFactor? allowance) hlevel h

/-! ### A spelling is read -/

/-- What a reader of a lower level reads, a reader of a higher level reads
too, if none of the signs between the levels follows. -/
theorem readAt_of_absent {allowance m n : Nat} {s rest : Text} {c : Condition}
    (h : readAt allowance m s = some (c, rest)) (hmn : m ≤ n) (hn : n ≤ 2)
    (habsent : ∀ k : Junction, m < k.level → k.level ≤ n → k.Absent rest) :
    readAt allowance n s = some (c, rest) := by
  induction n with
  | zero => rwa [Nat.le_zero.mp hmn] at h
  | succ n ih =>
    by_cases hm : m = n + 1
    · rwa [hm] at h
    · have hlower := ih (by omega) (by omega) fun k hk hkn => habsent k hk (by omega)
      have hsign : ∃ j : Junction, j.level = n + 1 := by
        match n, hn with
        | 0, _ => exact ⟨.and, rfl⟩
        | 1, _ => exact ⟨.or, rfl⟩
      obtain ⟨j, hj⟩ := hsign
      rw [← hj, readAt_level, oneOrJoined_eq_some_iff]
      refine Or.inl ⟨?_, habsent j (by omega) (by omega)⟩
      rw [hj]
      exact hlower

/-- A spelling is read by the reader of its own level. The induction is on
the spelling, and the allowance goes down with it. -/
theorem readAt_level_text {e : Spelling} (he : e.IsProper) {allowance : Nat}
    (hnesting : e.nesting ≤ allowance) {rest : Text} (hover : e.IsOver rest) :
    readAt allowance e.level (e.text ++ rest) = some (e.value, rest) := by
  induction e generalizing allowance rest with
  | compare left before op after right =>
    obtain ⟨c, tail, hleft, hc⟩ := Path.exists_cons_print he.1
    -- A path begins with neither `(` nor `!`, so a comparison is looked for.
    show factor? allowance _ = _
    rw [factor?_of_stopsAt, comparison?_eq_some_iff]
    · exact ⟨left, before, op, after, right, he, rfl, rfl, hover⟩
    · rw [text, hleft, List.cons_append, List.cons_append, Text.stopsAt_cons]
      have hmem := Text.not_mem_delimiters_of_isIdentifierStart hc
      rw [Bool.or_eq_false_iff, beq_eq_false_iff_ne, beq_eq_false_iff_ne]
      constructor <;> rintro rfl <;> exact hmem (by decide)
  | group before inner after ih =>
    cases allowance with
    | zero => exact absurd hnesting (Nat.not_succ_le_zero _)
    | succ allowance =>
      have hproper : inner.IsProper := he
      -- The parenthesis is a boundary, so the inside is read as a whole condition.
      have hends : inner.Ends 2 (after.1 ++ ')' :: rest) :=
        ends_of_boundary hproper (boundary_paren after rest) 2
      have hinner := ih hproper (Nat.le_of_succ_le_succ hnesting) hends.1
      have hwhole : condition? allowance (inner.text ++ (after.1 ++ ')' :: rest)) = _ :=
        readAt_of_absent hinner inner.level_le_two (Nat.le_refl 2) hends.2
      have hclose : char? ')' (skipSpace (after.1 ++ ')' :: rest)) = some rest :=
        (Text.char?_skipSpace_eq_some_iff (by decide)).mpr ⟨after, rfl⟩
      have htext : (group before inner after).text ++ rest =
          '(' :: (before.1 ++ (inner.text ++ (after.1 ++ ')' :: rest))) := by simp [text]
      rw [← Text.skipSpace_blank_append before (stopsAt_isSpace_text hproper _)] at hwhole
      show factor? (allowance + 1) _ = _
      rw [htext]
      exact factor?_group hwhole hclose
  | not after inner ih =>
    cases allowance with
    | zero => exact absurd hnesting (Nat.not_succ_le_zero _)
    | succ allowance =>
      -- What is negated is a factor, and is read by the same reader.
      have hinner := ih he.2 (Nat.le_of_succ_le_succ hnesting) hover
      rw [he.1] at hinner
      have htext : (Spelling.not after inner).text ++ rest =
          '!' :: (after.1 ++ (inner.text ++ rest)) := by simp [text]
      show factor? (allowance + 1) _ = _
      rw [htext]
      refine factor?_not ?_
      rw [Text.skipSpace_blank_append after (stopsAt_isSpace_text he.2 _)]
      exact hinner
  | join junction left before after right ihl ihr =>
    obtain ⟨⟨hllevel, hrlevel⟩, hl, hr⟩ := he
    obtain ⟨hlnesting, hrnesting⟩ := Nat.max_le.mp hnesting
    have hpos := junction.level_pos
    have htwo := junction.level_le_two
    -- The left operand is over before the sign, and the right one where the join is.
    have hlends := ends_of_sign hl hllevel before (after.1 ++ (right.text ++ rest))
    have hrends := isOver_join.mp hover
    have hleft := readAt_of_absent (ihl hl hlnesting hlends.1) (by omega) (by omega) hlends.2
    have hright := readAt_of_absent (ihr hr hrnesting hrends.1) (by omega) (by omega) hrends.2
    show readAt allowance junction.level _ = _
    rw [readAt_level, oneOrJoined_eq_some_iff]
    refine Or.inr ⟨left.value, before.1, after.1 ++ (right.text ++ rest), _, right.value, ?_,
      before.2, Text.skipSpace_blank_append after (stopsAt_isSpace_text hr rest), hright, rfl⟩
    rw [← hleft]
    simp [text]

/-- **A spelling is read** by every reader of at least its level, if what
follows could not belong to it. -/
theorem readAt_text {e : Spelling} (he : e.IsProper) {allowance level : Nat}
    (hnesting : e.nesting ≤ allowance) (hlevel : e.level ≤ level) (htwo : level ≤ 2)
    {rest : Text} (hends : e.Ends level rest) :
    readAt allowance level (e.text ++ rest) = some (e.value, rest) :=
  readAt_of_absent (readAt_level_text he hnesting hends.1) hlevel htwo hends.2

/-- **The readers agree with the grammar.** -/
theorem readAt_eq_some_iff {allowance level : Nat} (hlevel : level ≤ 2) {s rest : Text}
    {c : Condition} :
    readAt allowance level s = some (c, rest) ↔ Spelled allowance level s c rest := by
  constructor
  · exact spelled_of_readAt hlevel
  · intro h
    obtain ⟨e, he, helevel, hnesting, rfl, rfl, hends⟩ := h
    exact readAt_text he hnesting helevel hlevel hends

/-! ### A text has one spelling

Both spellings are read by the same reader, with an allowance that is
large enough for either. So the reader leaves the same rest. -/

namespace Spelling

/-- Two spellings at the front of one text, read up to the same level,
leave the same rest. -/
theorem rest_unique {e e' : Spelling} (he : e.IsProper) (he' : e'.IsProper) {level : Nat}
    (hlevel : e.level ≤ level) (hlevel' : e'.level ≤ level) (htwo : level ≤ 2)
    {rest rest' : Text} (hends : e.Ends level rest) (hends' : e'.Ends level rest')
    (h : e.text ++ rest = e'.text ++ rest') : e.text = e'.text ∧ rest = rest' := by
  have hread := readAt_text he (Nat.le_max_left e.nesting e'.nesting) hlevel htwo hends
  have hread' := readAt_text he' (Nat.le_max_right e.nesting e'.nesting) hlevel' htwo hends'
  rw [h, hread'] at hread
  have hrest : rest = rest' := by simpa using (congrArg Prod.snd (Option.some.inj hread)).symm
  rw [hrest] at h
  exact ⟨List.append_cancel_right h, hrest⟩

/-- A spelling of a lower level than a sign is no join by that sign: its
reader would have to stop before the sign and does not. -/
theorem text_ne_join {e l r : Spelling} {j : Junction} {before after : Blank}
    (he : e.IsProper) (hlevel : e.level < j.level)
    (hj : (Spelling.join j l before after r).IsProper) :
    e.text ≠ (Spelling.join j l before after r).text := by
  intro h
  have htwo := j.level_le_two
  have hl := ends_of_sign hj.2.1 hj.1.1 before (after.1 ++ r.text)
  -- Read up to the level below the sign, the one spelling ends at the end of the text
  -- and the other before the sign.
  have hnil : e.text ++ [] = l.text ++ (before.1 ++ (j.sign ++ (after.1 ++ r.text))) := by
    rw [List.append_nil]
    exact h
  have hlevell := hj.1.1
  have hrest := (rest_unique he hj.2.1 (by omega) (by omega) (by omega)
    (ends_of_boundary he boundary_nil (j.level - 1)) hl hnil).2
  exact j.append_sign_ne_nil before.1 _ hrest.symm

/-- A text tells the level of its spelling. -/
theorem level_eq_of_text_eq {e e' : Spelling} (he : e.IsProper) (he' : e'.IsProper)
    (h : e.text = e'.text) : e.level = e'.level := by
  have hle : ∀ {e e' : Spelling}, e.IsProper → e'.IsProper → e.text = e'.text →
      e'.level ≤ e.level := by
    intro e e' he he' h
    cases e' with
    | join j l before after r =>
      by_cases hlevel : e.level < j.level
      · exact absurd h (text_ne_join he hlevel he')
      · exact Nat.not_lt.mp hlevel
    | _ => exact Nat.zero_le _
  exact Nat.le_antisymm (hle he' he h.symm) (hle he he' h)

/-- A comparison begins with no delimiter. -/
theorem compare_text_ne_cons {left right : Path} {before after : Blank} {op : Comparator}
    (h : (Spelling.compare left before op after right).IsProper) {c : Char}
    (hc : c ∈ Text.delimiters) (s : Text) :
    (Spelling.compare left before op after right).text ≠ c :: s := by
  obtain ⟨d, tail, hleft, hd⟩ := Path.exists_cons_print h.1
  rw [text, hleft, List.cons_append]
  intro heq
  rw [(List.cons.inj heq).1] at hd
  exact Text.not_mem_delimiters_of_isIdentifierStart hd hc

/-- **A text has one spelling at most.** The induction is on one of the two.
The other is of the same kind, because its first character or its level
tells the kind. -/
theorem eq_of_text_eq {e e' : Spelling} (he : e.IsProper) (he' : e'.IsProper)
    (h : e.text = e'.text) : e = e' := by
  induction e generalizing e' with
  | compare left before op after right =>
    cases e' with
    | compare left' before' op' after' right' =>
      obtain ⟨hleft, hright⟩ := he
      obtain ⟨hleft', hright'⟩ := he'
      -- Path, white space, sign, white space and path are told one after the other.
      obtain ⟨rfl, hbefore⟩ := Path.print_append_inj hleft hleft'
        (Path.Ends.of_stopsAt (op.stopsAt_mayContinue_symbol before _))
        (Path.Ends.of_stopsAt (op'.stopsAt_mayContinue_symbol before' _)) h
      obtain ⟨rfl, hop⟩ := Text.blank_append_inj (op.stopsAt_isSpace_symbol _)
        (op'.stopsAt_isSpace_symbol _) hbefore
      rw [← List.append_nil right.print, ← List.append_nil right'.print] at hop
      obtain ⟨rfl, hafter⟩ := Comparator.symbol_append_inj (op.ends_path after hright [])
        (op'.ends_path after' hright' []) hop
      obtain ⟨rfl, hprint⟩ := Text.blank_append_inj (Path.stopsAt_isSpace_print hright [])
        (Path.stopsAt_isSpace_print hright' []) hafter
      rw [List.append_nil, List.append_nil] at hprint
      rw [Path.print_inj hright hright' hprint]
    | group before' inner' after' => exact absurd h (compare_text_ne_cons he (by decide) _)
    | not after' inner' => exact absurd h (compare_text_ne_cons he (by decide) _)
    | join j l before' after' r =>
      exact absurd (level_eq_of_text_eq he he' h) (Nat.ne_of_lt j.level_pos)
  | group before inner after ih =>
    cases e' with
    | compare left before' op after' right =>
      exact absurd h.symm (compare_text_ne_cons he' (by decide) _)
    | group before' inner' after' =>
      have hi : inner.IsProper := he
      have hi' : inner'.IsProper := he'
      obtain ⟨rfl, hinner⟩ := Text.blank_append_inj (stopsAt_isSpace_text hi _)
        (stopsAt_isSpace_text hi' _) (List.cons.inj h).2
      -- Inside the parentheses the text has one spelling, and it is over at the same place.
      obtain ⟨htext, hafter⟩ := rest_unique hi hi' inner.level_le_two inner'.level_le_two
        (Nat.le_refl 2) (ends_of_boundary hi (boundary_paren after []) 2)
        (ends_of_boundary hi' (boundary_paren after' []) 2) hinner
      have hparen : StopsAt isSpace [')'] := Text.isSpace_delimiter (by decide)
      obtain ⟨rfl, -⟩ := Text.blank_append_inj hparen hparen hafter
      rw [ih hi hi' htext]
    | not after' inner' => exact absurd (List.cons.inj h).1 (by decide)
    | join j l before' after' r =>
      exact absurd (level_eq_of_text_eq he he' h) (Nat.ne_of_lt j.level_pos)
  | not after inner ih =>
    cases e' with
    | compare left before' op after' right =>
      exact absurd h.symm (compare_text_ne_cons he' (by decide) _)
    | group before' inner' after' => exact absurd (List.cons.inj h).1 (by decide)
    | not after' inner' =>
      have hafter := (List.cons.inj h).2
      rw [← List.append_nil inner.text, ← List.append_nil inner'.text] at hafter
      obtain ⟨rfl, htext⟩ := Text.blank_append_inj (stopsAt_isSpace_text he.2 [])
        (stopsAt_isSpace_text he'.2 []) hafter
      rw [List.append_nil, List.append_nil] at htext
      rw [ih he.2 he'.2 htext]
    | join j l before' after' r =>
      exact absurd (level_eq_of_text_eq he he' h) (Nat.ne_of_lt j.level_pos)
  | join j left before after right ihl ihr =>
    have hlevel := level_eq_of_text_eq he he' h
    cases e' with
    | join k left' before' after' right' =>
      obtain rfl : j = k := Junction.level_inj hlevel
      obtain ⟨⟨hll, hrl⟩, hl, hr⟩ := he
      obtain ⟨⟨hll', hrl'⟩, hl', hr'⟩ := he'
      have htwo := j.level_le_two
      -- Either left operand is over before its sign, so both leave the same rest.
      obtain ⟨hltext, hbefore⟩ := rest_unique hl hl' (Nat.le_sub_one_of_lt hll)
        (Nat.le_sub_one_of_lt hll') (by omega) (ends_of_sign hl hll before _)
        (ends_of_sign hl' hll' before' _) h
      obtain ⟨rfl, hsign⟩ := Text.blank_append_inj (j.stopsAt_isSpace_sign _)
        (j.stopsAt_isSpace_sign _) hbefore
      have hafter := (Junction.sign_append_inj hsign).2
      rw [← List.append_nil right.text, ← List.append_nil right'.text] at hafter
      obtain ⟨rfl, hrtext⟩ := Text.blank_append_inj (stopsAt_isSpace_text hr [])
        (stopsAt_isSpace_text hr' []) hafter
      rw [List.append_nil, List.append_nil] at hrtext
      rw [ihl hl hl' hltext, ihr hr hr' hrtext]
    | _ => exact absurd hlevel (Nat.ne_of_gt j.level_pos)

/-- A spelling is told by its text and a boundary after it. -/
theorem eq_of_text_append_eq {e e' : Spelling} (he : e.IsProper) (he' : e'.IsProper)
    {rest rest' : Text} (hrest : Boundary rest) (hrest' : Boundary rest')
    (h : e.text ++ rest = e'.text ++ rest') : e = e' ∧ rest = rest' := by
  obtain ⟨htext, hr⟩ := rest_unique he he' e.level_le_two e'.level_le_two (Nat.le_refl 2)
    (ends_of_boundary he hrest 2) (ends_of_boundary he' hrest' 2) h
  exact ⟨eq_of_text_eq he he' htext, hr⟩

end Spelling

end Condition

end Stencil
