import Mathlib.Data.List.Forall2
import Stencil.Proofs.Template.RoundTrip
import Stencil.Proofs.Template.Unmarked
import Stencil.Template.Outline

/-!
# `Stencil.Proofs.Template.Outline`: what an outline tells

A template may hold any text, line ends and lines that look like those of an
outline among it. None of this can be mistaken for the outline itself, because
no line of an outline has a line end in it: literal text is quoted, and the
names in paths, conditions and transforms have none. So a text that is an
outline has a line for every node (`Layout.newline_not_mem_outlineLinesAll`).

What the lines tell is the shape of the tree. `Node.Shape` is a tree of which
nothing is left but the kinds of its nodes, and `Shape.rows` lists them in
order, each with the number of nodes above it. A line tells its row
(`Shows.unique`), and the rows tell the shape, since the children of a node are
the rows after it that stand further in (`rows_append_inj`).
-/

set_option autoImplicit false

namespace Stencil

/-! ### Quoted texts have no line ends -/

namespace Text

/-- The digits of a number are digits. -/
theorem exists_digitChar_of_mem_toDigits {n : Nat} {c : Char} (h : c ∈ Nat.toDigits 16 n) :
    ∃ d, c = Nat.digitChar d := by
  induction n using Nat.strong_induction_on with
  | _ n ih =>
    rw [Nat.toDigits_eq_if (by decide)] at h
    split at h
    · exact ⟨n, List.mem_singleton.mp h⟩
    · rename_i hn
      rcases List.mem_append.mp h with h | h
      · exact ih (n / 16) (by omega) h
      · exact ⟨n % 16, List.mem_singleton.mp h⟩

theorem digitChar_ne_newline (d : Nat) : Nat.digitChar d ≠ '\n' := by
  rcases Nat.lt_or_ge d 16 with hd | hd
  · exact (by decide : ∀ d < 16, Nat.digitChar d ≠ '\n') d hd
  · rw [Nat.digitChar_eq_star.mpr hd]
    decide

theorem newline_not_mem_hex (width n : Nat) : '\n' ∉ hex width n := by
  intro h
  rcases List.mem_append.mp h with h | h
  · have := List.eq_of_mem_replicate h
    cases this
  · obtain ⟨d, hd⟩ := exists_digitChar_of_mem_toDigits h
    exact digitChar_ne_newline d hd.symm

/-- A line end is escaped, and no escape has one. -/
theorem newline_not_mem_escape {mark : Char} (hmark : mark ≠ '\n') (c : Char) :
    '\n' ∉ escape mark c := by
  have hhex := newline_not_mem_hex
  by_cases hc : c = '\n'
  · -- It is one of those that have an escape of their own.
    subst hc
    simp [escape, hmark.symm]
  · -- Any other is kept or written with hexadecimal digits.
    unfold escape
    repeat' split
    all_goals simp [hhex, Ne.symm hc]

theorem quoteMark_ne_newline (s : Text) : quoteMark s ≠ '\n' := by
  unfold quoteMark
  split <;> decide

theorem newline_not_mem_quoted (s : Text) : '\n' ∉ quoted s := by
  have hmark := quoteMark_ne_newline s
  intro h
  rcases List.mem_append.mp h with h | h
  · rcases List.mem_cons.mp h with h | h
    · exact hmark h.symm
    · obtain ⟨c, -, hc⟩ := List.mem_flatMap.mp h
      exact newline_not_mem_escape hmark c hc
  · exact hmark (List.mem_singleton.mp h).symm

end Text

/-! ### Paths and conditions have no line ends -/

open Text (isIdentifierPart delimiters)

/-- A path is written with the characters of identifiers and with
delimiters. -/
theorem Path.mem_print {p : Path} (h : p.isLexical = true) {c : Char} (hc : c ∈ p.print) :
    isIdentifierPart c = true ∨ c ∈ delimiters := by
  simp only [isLexical, Bool.and_eq_true, List.all_eq_true] at h
  rcases List.mem_append.mp hc with hc | hc
  · exact Or.inl (Text.isIdentifierPart_of_mem h.1 c hc)
  · obtain ⟨seg, hseg, hc⟩ := List.mem_flatMap.mp hc
    have hname := Text.isIdentifierPart_of_mem (h.2 seg hseg) c
    rcases List.mem_cons.mp hc with rfl | hc
    · exact Or.inr (by decide)
    · unfold Segment.print at hc
      split at hc
      · rcases List.mem_append.mp hc with hc | hc
        · exact Or.inl (hname hc)
        · exact Or.inr ((by decide : ['(', ')'] ⊆ delimiters) hc)
      · exact Or.inl (hname hc)

namespace Condition

theorem mem_symbol {op : Comparator} {c : Char} (hc : c ∈ op.symbol) : c ∈ delimiters := by
  have hsymbol : ∀ op : Comparator, op.symbol ⊆ delimiters := by
    intro op
    cases op <;> decide
  exact hsymbol op hc

/-- The characters that a condition is written with. -/
def Written (c : Char) : Prop :=
  isIdentifierPart c = true ∨ c ∈ delimiters ∨ c = ' '

theorem written_enclose {wanted : Bool} {s : Text} (h : ∀ c ∈ s, Written c) :
    ∀ c ∈ enclose wanted s, Written c := by
  intro c hc
  cases wanted with
  | false => exact h c hc
  | true =>
    rcases List.mem_append.mp hc with hc | hc
    · rcases List.mem_cons.mp hc with rfl | hc
      · exact Or.inr (Or.inl (by decide))
      · exact h c hc
    · rw [List.mem_singleton.mp hc]
      exact Or.inr (Or.inl (by decide))

/-- Both halves of a join and the sign between them. -/
theorem written_join {s t sign : Text} (hs : ∀ c ∈ s, Written c) (ht : ∀ c ∈ t, Written c)
    (hsign : sign ⊆ ' ' :: delimiters) : ∀ c ∈ s ++ sign ++ t, Written c := by
  intro c hc
  rcases List.mem_append.mp hc with hc | hc
  · rcases List.mem_append.mp hc with hc | hc
    · exact hs c hc
    · rcases List.mem_cons.mp (hsign hc) with hblank | hmem
      · exact Or.inr (Or.inr hblank)
      · exact Or.inr (Or.inl hmem)
  · exact ht c hc

theorem written_print {e : Condition} (h : e.isLexical = true) : ∀ c ∈ e.print, Written c := by
  have hpath : ∀ p : Path, p.isLexical = true → ∀ c ∈ p.print, Written c := by
    intro p hp c hc
    exact (Path.mem_print hp hc).imp_right Or.inl
  induction e with
  | compare left op right =>
    simp only [isLexical, Bool.and_eq_true] at h
    exact written_join (hpath left h.1) (hpath right h.2) fun c hc =>
      List.mem_cons_of_mem _ (mem_symbol hc)
  | not inner ih =>
    intro c hc
    rcases List.mem_cons.mp hc with rfl | hc
    · exact Or.inr (Or.inl (by decide))
    · exact written_enclose (ih h) c hc
  | and left right ihleft ihright =>
    simp only [isLexical, Bool.and_eq_true] at h
    exact written_join (written_enclose (ihleft h.1)) (written_enclose (ihright h.2)) (by decide)
  | or left right ihleft ihright =>
    simp only [isLexical, Bool.and_eq_true] at h
    exact written_join (written_enclose (ihleft h.1)) (written_enclose (ihright h.2)) (by decide)

theorem not_written_newline : ¬ Written '\n' := by
  have hpart : isIdentifierPart '\n' = false :=
    Text.isIdentifierPart_eq_false_of_isSpace (by decide)
  rintro (h | h | h)
  · rw [hpart] at h
    cases h
  · exact absurd h (by decide)
  · exact absurd h (by decide)

theorem newline_not_mem_print {e : Condition} (h : e.isLexical = true) : '\n' ∉ e.print :=
  fun hmem => not_written_newline (written_print h _ hmem)

end Condition

theorem Path.newline_not_mem_print {p : Path} (h : p.isLexical = true) : '\n' ∉ p.print :=
  fun hmem => Condition.not_written_newline ((mem_print h hmem).imp_right Or.inl)

theorem Text.newline_not_mem_name {name : Text} (h : isName name = true) : '\n' ∉ name := by
  intro hmem
  have hlower := isLowercase_of_mem h _ hmem
  exact absurd hlower (by decide)

/-! ### The lines of an outline -/

namespace Node

theorem newline_not_mem_indentation (level : Int) : '\n' ∉ indentation level := by
  intro h
  have := List.eq_of_mem_replicate h
  cases this

/-- A text between two others has no line end if none of the three has one. -/
theorem newline_not_mem_enclosed {opening closing t : Text} (hopening : '\n' ∉ opening)
    (ht : '\n' ∉ t) (hclosing : '\n' ∉ closing) : '\n' ∉ opening ++ t ++ closing := by
  rw [List.mem_append, List.mem_append, not_or, not_or]
  exact ⟨⟨hopening, ht⟩, hclosing⟩

theorem newline_not_mem_caption_literal (t : Text) :
    '\n' ∉ caption (.literal t : Node Text) :=
  newline_not_mem_enclosed (by decide) (Text.newline_not_mem_quoted _) (by decide)

/-- The line of an interpolation has no line end, whatever its transform, if
that has a name. -/
theorem newline_not_mem_caption_interpolation {path : Path} {transform : Option Text}
    (hpath : path.isLexical = true) (htransform : ∀ name ∈ transform, Text.isName name = true) :
    '\n' ∉ caption (.interpolation path transform) := by
  have hpath := Path.newline_not_mem_print hpath
  cases transform with
  | none => exact newline_not_mem_enclosed (by decide) hpath (by decide)
  | some name =>
    have hname := Text.newline_not_mem_name (htransform name rfl)
    exact newline_not_mem_enclosed (newline_not_mem_enclosed (by decide) hpath (by decide)) hname
      (by decide)

theorem newline_not_mem_caption_conditional {condition : Condition} (children : List (Node Text))
    (h : condition.isLexical = true) : '\n' ∉ caption (.conditional condition children) :=
  newline_not_mem_enclosed (by decide) (Condition.newline_not_mem_print h) (by decide)

end Node

/-- No line of the outline of a tree that was read has a line end in it. -/
theorem Layout.newline_not_mem_outlineLinesAll {τ : Type} {resolve : Text → Option τ}
    {label : τ → Text} (hlabel : ∀ name t, resolve name = some t → label t = name)
    (layout : Layout) (level : Int) :
    ∀ line ∈ Node.outlineLinesAll level (Node.mapAll label (layout.nodes resolve)),
      '\n' ∉ line := by
  have hline : ∀ (level : Int) (caption : Text), '\n' ∉ caption →
      '\n' ∉ Node.indentation level ++ caption := by
    intro level caption hcaption
    rw [List.mem_append, not_or]
    exact ⟨Node.newline_not_mem_indentation level, hcaption⟩
  induction layout generalizing level with
  | done => exact nofun
  | literal t next ih =>
    rw [nodes, Node.mapAll, Node.map, Node.outlineLinesAll, Node.outlineLines]
    refine List.forall_mem_cons.mpr ⟨?_, ih level⟩
    exact hline level _ (Node.newline_not_mem_caption_literal t)
  | interpolation l next ih =>
    rw [nodes, Node.mapAll, Node.map, Node.outlineLinesAll, Node.outlineLines]
    refine List.forall_mem_cons.mpr ⟨?_, ih level⟩
    refine hline level _ (Node.newline_not_mem_caption_interpolation l.isLexical ?_)
    -- The transform has the name that stands in the lexeme.
    intro name hname
    rw [map_bind_resolve hlabel] at hname
    obtain ⟨r, -, rfl⟩ := Option.map_eq_some_iff.mp (Option.eq_some_of_filter_eq_some hname)
    exact r.isName
  | conditional opener body closer next ihbody ihnext =>
    rw [nodes, Node.mapAll, Node.map, Node.outlineLinesAll, Node.outlineLines, List.cons_append]
    refine List.forall_mem_cons.mpr ⟨?_, List.forall_mem_append.mpr ⟨ihbody _, ihnext level⟩⟩
    exact hline level _ (Node.newline_not_mem_caption_conditional _
      (Condition.Spelling.isLexical_value opener.isProper))

/-! ### The shape of a tree -/

namespace Node

/-- What kind of node a node is. -/
inductive Kind where
  | literal
  | interpolation
  | conditional
  | root
  | bare
  deriving DecidableEq, Repr

/-- The name of a kind, with which a line of an outline begins. -/
def Kind.label : Kind → Text
  | .literal => "LiteralNode".toList
  | .interpolation => "InterpolationNode".toList
  | .conditional => "ConditionalNode".toList
  | .root => "RootNode".toList
  | .bare => "TemplateNode".toList

/-- A tree of which nothing is left but the kinds of its nodes. -/
inductive Shape where
  | node (kind : Kind) (children : List Shape)

section

variable {τ σ : Type}

/-- The kind of a node. -/
def kind : Node τ → Kind
  | .literal _ => .literal
  | .interpolation .. => .interpolation
  | .conditional .. => .conditional
  | .root _ => .root
  | .bare => .bare

mutual

/-- The shape of a tree. -/
def shape : Node τ → Shape
  | .literal _ => .node .literal []
  | .interpolation .. => .node .interpolation []
  | .conditional _ children => .node .conditional (shapes children)
  | .root children => .node .root (shapes children)
  | .bare => .node .bare []

/-- The shapes of several trees. -/
def shapes : List (Node τ) → List Shape
  | [] => []
  | node :: rest => node.shape :: shapes rest

end

mutual

/-- A change of the transforms keeps the shape. -/
theorem shape_map (f : τ → σ) (node : Node τ) : (node.map f).shape = node.shape := by
  cases node with
  | conditional condition children => rw [map, shape, shape, shapes_mapAll f children]
  | root children => rw [map, shape, shape, shapes_mapAll f children]
  | _ => rfl

theorem shapes_mapAll (f : τ → σ) (nodes : List (Node τ)) :
    shapes (mapAll f nodes) = shapes nodes := by
  cases nodes with
  | nil => rfl
  | cons node rest => rw [mapAll, shapes, shapes, shape_map f node, shapes_mapAll f rest]

end

end

namespace Shape

mutual

/-- The nodes in the order of the template, each with the number of nodes above
it and its kind. -/
def rows (depth : Nat) : Shape → List (Nat × Kind)
  | .node kind children => (depth, kind) :: allRows (depth + 1) children

/-- The nodes of several trees at one depth, in order. -/
def allRows (depth : Nat) : List Shape → List (Nat × Kind)
  | [] => []
  | shape :: rest => shape.rows depth ++ allRows depth rest

end

/-- The rows of a tree begin with that of its topmost node. -/
theorem head?_rows_append (depth : Nat) (shape : Shape) (after : List (Nat × Kind)) :
    ∃ kind, (shape.rows depth ++ after).head? = some (depth, kind) := by
  obtain ⟨kind, children⟩ := shape
  exact ⟨kind, rfl⟩

/-- What comes after a tree in a list of trees stands no further in. -/
theorem le_of_mem_head?_allRows_append {depth : Nat} {shapes : List Shape}
    {after : List (Nat × Kind)} (hafter : ∀ row ∈ after.head?, row.1 < depth) :
    ∀ row ∈ (allRows depth shapes ++ after).head?, row.1 ≤ depth := by
  cases shapes with
  | nil => exact fun row hrow => Nat.le_of_lt (hafter row hrow)
  | cons shape rest =>
    rw [allRows, List.append_assoc]
    obtain ⟨kind, hhead⟩ := shape.head?_rows_append depth (allRows depth rest ++ after)
    intro row hrow
    rw [hhead] at hrow
    cases hrow
    exact Nat.le_refl depth

/-- Trees at a depth do not begin like rows that stand less far in. -/
theorem allRows_cons_append_ne {depth : Nat} (shape : Shape) (rest : List Shape)
    (after : List (Nat × Kind)) {rows : List (Nat × Kind)}
    (hrows : ∀ row ∈ rows.head?, row.1 < depth) :
    allRows depth (shape :: rest) ++ after ≠ rows := by
  rintro rfl
  rw [allRows, List.append_assoc] at hrows
  obtain ⟨kind, hhead⟩ := shape.head?_rows_append depth (allRows depth rest ++ after)
  exact absurd (hrows _ hhead) (Nat.lt_irrefl depth)

mutual

/-- A tree is told by its rows, if what comes after them stands no further in
than its topmost node. -/
theorem rows_append_inj {depth : Nat} (shape shape' : Shape) {after after' : List (Nat × Kind)}
    (hafter : ∀ row ∈ after.head?, row.1 ≤ depth)
    (hafter' : ∀ row ∈ after'.head?, row.1 ≤ depth)
    (h : shape.rows depth ++ after = shape'.rows depth ++ after') :
    shape = shape' ∧ after = after' := by
  cases shape with
  | node kind children =>
    cases shape' with
    | node kind' children' =>
      rw [rows, rows, List.cons_append, List.cons_append] at h
      obtain ⟨hrow, hrest⟩ := List.cons.inj h
      obtain ⟨rfl, rfl⟩ := allRows_append_inj children children'
        (fun row hrow => Nat.lt_succ_of_le (hafter row hrow))
        (fun row hrow => Nat.lt_succ_of_le (hafter' row hrow)) hrest
      obtain rfl : kind = kind' := (Prod.mk.inj hrow).2
      exact ⟨rfl, rfl⟩

/-- Several trees are told by their rows, if what comes after them stands less
far in. -/
theorem allRows_append_inj {depth : Nat} (shapes shapes' : List Shape)
    {after after' : List (Nat × Kind)} (hafter : ∀ row ∈ after.head?, row.1 < depth)
    (hafter' : ∀ row ∈ after'.head?, row.1 < depth)
    (h : allRows depth shapes ++ after = allRows depth shapes' ++ after') :
    shapes = shapes' ∧ after = after' := by
  cases shapes with
  | nil =>
    cases shapes' with
    | nil => exact ⟨rfl, h⟩
    | cons shape' rest' =>
      -- A tree on one side only would begin too far in.
      exact absurd h.symm (allRows_cons_append_ne shape' rest' after' hafter)
  | cons shape rest =>
    cases shapes' with
    | nil => exact absurd h (allRows_cons_append_ne shape rest after hafter')
    | cons shape' rest' =>
      rw [allRows, allRows, List.append_assoc, List.append_assoc] at h
      obtain ⟨rfl, hrest⟩ := rows_append_inj shape shape'
        (le_of_mem_head?_allRows_append hafter) (le_of_mem_head?_allRows_append hafter') h
      obtain ⟨rfl, rfl⟩ := allRows_append_inj rest rest' hafter hafter' hrest
      exact ⟨rfl, rfl⟩

end

/-- **A shape is told by its rows.** -/
theorem rows_inj {depth : Nat} {shape shape' : Shape} (h : shape.rows depth = shape'.rows depth) :
    shape = shape' := by
  have happend : shape.rows depth ++ [] = shape'.rows depth ++ [] := by rw [h]
  exact (rows_append_inj shape shape' (by simp) (by simp) happend).1

end Shape

/-! ### What a line tells -/

/-- What may follow the name of a kind in a line: nothing, or something in
parentheses. -/
def IsDetail (own : Text) : Prop :=
  own = [] ∨ ∃ inner, own = '(' :: inner ++ [')']

/-- The line has two blanks for every level, then the name of the kind, and after
it nothing but what belongs to this one node. -/
def Shows (indent : Nat) (line : Text) (row : Nat × Kind) : Prop :=
  ∃ own, IsDetail own ∧
    line = List.replicate (2 * (indent + row.1)) ' ' ++ (row.2.label ++ own)

/-- The first letter of the name of a kind. -/
def Kind.initial : Kind → Char
  | .literal => 'L'
  | .interpolation => 'I'
  | .conditional => 'C'
  | .root => 'R'
  | .bare => 'T'

theorem Kind.head?_label_append (kind : Kind) (rest : Text) :
    (kind.label ++ rest).head? = some kind.initial := by
  cases kind <;> rfl

theorem Kind.initial_inj {kind kind' : Kind} (h : kind.initial = kind'.initial) :
    kind = kind' := by
  cases kind <;> cases kind' <;> first | rfl | exact absurd h (by decide)

theorem Kind.stopsAt_label (kind : Kind) (rest : Text) :
    Text.StopsAt (· == ' ') (kind.label ++ rest) := by
  cases kind <;> exact Text.stopsAt_cons.mpr (by decide)

/-- A line tells how far in it stands, and the kind of its node. -/
theorem Shows.unique {indent indent' : Nat} {line : Text} {row row' : Nat × Kind}
    (h : Shows indent line row) (h' : Shows indent' line row') :
    indent + row.1 = indent' + row'.1 ∧ row.2 = row'.2 := by
  obtain ⟨own, -, rfl⟩ := h
  obtain ⟨own', -, heq⟩ := h'
  have hblank : ∀ n, ∀ c ∈ List.replicate n ' ', (c == ' ') = true := by
    intro n c hc
    rw [List.eq_of_mem_replicate hc]
    rfl
  -- No name begins with a blank, so the blanks end at the same place.
  obtain ⟨hblanks, hname⟩ := Text.run_append_inj (hblank _) (hblank _)
    (Kind.stopsAt_label _ _) (Kind.stopsAt_label _ _) heq
  constructor
  · have hlength := congrArg List.length hblanks
    rw [List.length_replicate, List.length_replicate] at hlength
    omega
  · have hhead := congrArg List.head? hname
    rw [Kind.head?_label_append, Kind.head?_label_append] at hhead
    exact Kind.initial_inj (Option.some.inj hhead)

/-- What follows a name in its caption stands in parentheses. -/
theorem exists_own (name opening t closing : Text) :
    ∃ own, IsDetail own ∧ (name ++ '(' :: opening) ++ t ++ (closing ++ [')']) = name ++ own :=
  ⟨'(' :: (opening ++ t ++ closing) ++ [')'], Or.inr ⟨_, rfl⟩, by simp⟩

/-- A caption begins with the name of the kind. -/
theorem caption_eq (node : Node Text) :
    ∃ own, IsDetail own ∧ caption node = node.kind.label ++ own := by
  cases node with
  | literal t => exact exists_own Kind.literal.label [] (preview t) []
  | interpolation path transform =>
    cases transform with
    | none => exact exists_own Kind.interpolation.label "path='".toList path.print ['\'']
    | some name =>
      exact exists_own Kind.interpolation.label
        ("path='".toList ++ path.print ++ "', transform='".toList) name ['\'']
  | conditional condition children =>
    exact exists_own Kind.conditional.label "condition='".toList condition.print ['\'']
  | root children => exact ⟨[], Or.inl rfl, rfl⟩
  | bare => exact ⟨[], Or.inl rfl, rfl⟩

/-- The line of a node shows its kind and how far in it stands. -/
theorem shows_caption (indent depth : Nat) (node : Node Text) :
    Shows indent (indentation ((indent + depth : Nat) : Int) ++ caption node)
      (depth, node.kind) := by
  obtain ⟨own, hown, hcaption⟩ := caption_eq node
  refine ⟨own, hown, ?_⟩
  rw [hcaption, indentation, Int.toNat_natCast]

mutual

/-- The lines of an outline show the rows of the tree. -/
theorem shows_outlineLines (indent depth : Nat) (node : Node Text) :
    List.Forall₂ (Shows indent) (node.outlineLines ((indent + depth : Nat) : Int))
      (node.shape.rows depth) := by
  -- The children stand one level further in, and have one more node above them.
  have hnext : ((indent + depth : Nat) : Int) + 1 = ((indent + (depth + 1) : Nat) : Int) := by
    omega
  have hcaption := shows_caption indent depth node
  cases node with
  | conditional condition children =>
    rw [outlineLines, shape, Shape.rows, hnext]
    exact .cons hcaption (shows_outlineLinesAll indent (depth + 1) children)
  | root children =>
    rw [outlineLines, shape, Shape.rows, hnext]
    exact .cons hcaption (shows_outlineLinesAll indent (depth + 1) children)
  | literal t => exact .cons hcaption .nil
  | interpolation path transform => exact .cons hcaption .nil
  | bare => exact .cons hcaption .nil

/-- The lines of several outlines show the rows of the trees. -/
theorem shows_outlineLinesAll (indent depth : Nat) (nodes : List (Node Text)) :
    List.Forall₂ (Shows indent) (outlineLinesAll ((indent + depth : Nat) : Int) nodes)
      (Shape.allRows depth (shapes nodes)) := by
  cases nodes with
  | nil => exact .nil
  | cons node rest =>
    rw [outlineLinesAll, shapes, Shape.allRows]
    exact List.rel_append (shows_outlineLines indent depth node)
      (shows_outlineLinesAll indent depth rest)

end

/-- Lines that stand equally far in and show two lists of rows show one. -/
theorem rows_eq_of_shows {indent : Nat} {lines : List Text} {rows rows' : List (Nat × Kind)}
    (h : List.Forall₂ (Shows indent) lines rows)
    (h' : List.Forall₂ (Shows indent) lines rows') : rows = rows' := by
  induction h generalizing rows' with
  | nil =>
    cases h'
    rfl
  | @cons line row lines rows hrow hrest ih =>
    cases h' with
    | @cons _ row' _ rows' hrow' hrest' =>
      obtain ⟨hdepth, hkind⟩ := hrow.unique hrow'
      obtain rfl : row = row' := Prod.ext (Nat.add_left_cancel hdepth) hkind
      rw [ih hrest']

/-- Lines that show the rows of two trees tell that they stand equally far in
and have one shape. -/
theorem eq_of_shows {indent indent' : Nat} {lines : List Text} {shape shape' : Shape}
    (h : List.Forall₂ (Shows indent) lines (shape.rows 0))
    (h' : List.Forall₂ (Shows indent') lines (shape'.rows 0)) :
    indent = indent' ∧ shape = shape' := by
  -- The first line is that of the topmost node, which has none above it.
  have hindent : indent = indent' := by
    obtain ⟨kind, children⟩ := shape
    obtain ⟨kind', children'⟩ := shape'
    cases h with
    | cons hrow _ =>
      cases h' with
      | cons hrow' _ => exact (hrow.unique hrow').1
  subst hindent
  exact ⟨rfl, Shape.rows_inj (rows_eq_of_shows h h')⟩

/-- An outline is split into its lines, if none of them has a line end. -/
theorem splitOn_outline {node : Node Text} {level : Int}
    (h : ∀ line ∈ node.outlineLines level, '\n' ∉ line) :
    (node.outline level).splitOn '\n' = node.outlineLines level := by
  have hne : node.outlineLines level ≠ [] := by
    cases node <;> exact List.cons_ne_nil _ _
  exact List.splitOn_intercalate '\n' h hne

end Node

/-! ### Whole templates -/

namespace Template

open Text (Blank)

variable {α β : Type}

/-- The lines of the outline of a tree that was read are those between its line
ends, and they show its rows. -/
theorem shows_of_parse {settings : Settings} {registry : Option (Registry α)} {s : Text}
    {nodes : List (Node (Transform α))}
    (h : (parse settings (Registry.lookup registry) s).outcome = .ok nodes) (indent : Nat) :
    List.Forall₂ (Node.Shows indent) (((Node.root nodes).names.outline indent).splitOn '\n')
      ((Node.root nodes).shape.rows 0) := by
  have hnewline : ∀ line ∈ (Node.root nodes).names.outlineLines indent, '\n' ∉ line := by
    obtain ⟨layout, -, -, rfl⟩ := parse_outcome_eq_ok_iff.mp h
    refine List.forall_mem_cons.mpr ⟨?_, ?_⟩
    · -- The root is not part of the layout.
      rw [List.mem_append, not_or]
      exact ⟨Node.newline_not_mem_indentation _, (by decide : '\n' ∉ "RootNode".toList)⟩
    · exact layout.newline_not_mem_outlineLinesAll (fun _ _ => Registry.name_of_lookup) _
  rw [Node.splitOn_outline hnewline, ← Node.shape_map Transform.name]
  exact Node.shows_outlineLines indent 0 (Node.root nodes).names

/-- **An outline tells the shape of its tree.** Whatever a template holds, the
outline of its tree is made of lines that show the nodes in the order of the
template, one line for each node, and each line as far in as its node has nodes
above it. So two trees that were read, from any templates, have one outline only
if they have one shape. -/
theorem outline_tells_shape (settings settings' : Settings) (registry : Option (Registry α))
    (registry' : Option (Registry β)) (s s' : Text) (nodes : List (Node (Transform α)))
    (nodes' : List (Node (Transform β)))
    (h : (parse settings (Registry.lookup registry) s).outcome = .ok nodes)
    (h' : (parse settings' (Registry.lookup registry') s').outcome = .ok nodes')
    (indent indent' : Nat) :
    List.Forall₂ (Node.Shows indent) (((Node.root nodes).names.outline indent).splitOn '\n')
        ((Node.root nodes).shape.rows 0) ∧
      ((Node.root nodes).names.outline indent = (Node.root nodes').names.outline indent' →
        indent = indent' ∧ (Node.root nodes).shape = (Node.root nodes').shape) := by
  have hshows := shows_of_parse h indent
  refine ⟨hshows, ?_⟩
  intro houtline
  -- The same lines show the rows of either tree.
  rw [houtline] at hshows
  exact Node.eq_of_shows hshows (shows_of_parse h' indent')

/-- Two templates with line ends, the second with one more. This one is cut off, so
the trees have one outline, and they do have one shape. -/
theorem outline_tells_shape_cut :
    let lines : Nat → Text := fun n => List.replicate n '\n'
    let s : Nat → Text := fun n => ['<', '#', 'i', 'f', '(', 'a', '<', 'b', ')', '>'] ++
      (lines n ++ ['<', '/', '#', 'i', 'f', '>'])
    let nodes : Nat → List (Node (Transform Unit)) := fun n =>
      [.conditional (.compare ⟨['a'], []⟩ .less ⟨['b'], []⟩) [.literal (lines n)]]
    (∀ n ∈ [51, 52], (parse Settings.defaults.strictly
        (Registry.lookup (none : Option (Registry Unit))) (s n)).outcome = .ok (nodes n)) ∧
      List.Forall₂ (Node.Shows 3) (((Node.root (nodes 51)).names.outline 3).splitOn '\n')
        [(0, .root), (1, .conditional), (2, .literal)] ∧
      (Node.root (nodes 51)).names.outline 3 = (Node.root (nodes 52)).names.outline 3 ∧
      (Node.root (nodes 51)).shape = (Node.root (nodes 52)).shape := by
  intro lines s nodes
  have hcondition : (Condition.Spelling.compare ⟨['a'], []⟩ Blank.none .less Blank.none
      ⟨['b'], []⟩).IsProper := ⟨by decide, by decide⟩
  have hread : ∀ n, 0 < n → Inert true 0 (lines n) → (parse Settings.defaults.strictly
      (Registry.lookup (none : Option (Registry Unit))) (s n)).outcome = .ok (nodes n) := by
    intro n hn hinert
    refine parse_outcome_eq_ok_iff.mpr ⟨.conditional
      ⟨Blank.none, Blank.none, Blank.none, _, Blank.none, Blank.none, hcondition⟩
      (.literal (lines n) .done) .canonical .done, ?_, ?_, rfl⟩
    · refine ⟨⟨by decide, Nat.zero_le _, rfl⟩, ⟨⟨?_, hinert, rfl⟩, trivial⟩, trivial⟩
      exact List.ne_nil_of_length_pos (by rwa [List.length_replicate])
    · show _ ++ ((lines n ++ []) ++ _) = _
      rw [List.append_nil]
      rfl
  have hshort := hread 51 (by decide) (inert_true_of_front (by decide))
  have hlong := hread 52 (by decide) (inert_true_of_front (by decide))
  have houtline : (Node.root (nodes 51)).names.outline 3 = (Node.root (nodes 52)).names.outline 3 :=
    rfl
  obtain ⟨hshows, hshape⟩ := outline_tells_shape _ _ none none _ _ _ _ hshort hlong 3 3
  refine ⟨?_, hshows, houtline, (hshape houtline).2⟩
  exact List.forall_mem_cons.mpr ⟨hshort, List.forall_mem_cons.mpr ⟨hlong, nofun⟩⟩

end Template

end Stencil
