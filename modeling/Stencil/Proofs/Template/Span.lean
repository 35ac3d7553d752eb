import Stencil.Proofs.Template.Unmarked
import Stencil.Proofs.Template.RoundTrip

/-!
# `Stencil.Proofs.Template.Span`: where the nodes of a tree stand in the text

A template is a row of spans, each the text of a literal or a whole lexeme.
`Span.Cover spans nodes` says which spans make up which nodes. A literal is
its own span. An interpolation is one lexeme with the path of the node. A
conditional is an opening tag with the condition of the node, then the spans
of its children, then a closing tag. There is nothing between two spans, so
a text that is the row of such spans (`Span.Split`) has nothing that the tree
leaves out, takes twice or has in another order.

`Template.split_of_parse` says that every template that is read is split so,
in one way. `text_eq_kept` says what the literal text of the tree is: the
template without its lexemes. That no literal is empty, and that no two stand
side by side in a list of children, is `Node.Tidy`.

A cover says nothing about transforms, which depend on more than the text. So
the bridge to layouts, `exists_layout_of_cover`, is about trees without their
transforms (`Node.plain`).
-/

set_option autoImplicit false

namespace Stencil

open Text (Blank)
open Condition (nestingLimit)

/-! ### Trees without transforms -/

namespace Node

variable {τ : Type}

mutual

/-- The tree without its transforms. -/
def plain : Node τ → Node Empty
  | .literal text => .literal text
  | .interpolation path _ => .interpolation path none
  | .conditional condition children => .conditional condition (plainAll children)
  | .root children => .root (plainAll children)
  | .bare => .bare

/-- The trees without their transforms. -/
def plainAll : List (Node τ) → List (Node Empty)
  | [] => []
  | node :: rest => node.plain :: plainAll rest

end

theorem plainAll_append (xs ys : List (Node τ)) :
    plainAll (xs ++ ys) = plainAll xs ++ plainAll ys := by
  induction xs with
  | nil => rfl
  | cons x xs ih =>
    show x.plain :: plainAll (xs ++ ys) = _
    rw [ih]
    rfl

/-! ### The lists of children in a tree -/

mutual

/-- The lists of children in a tree, at any depth. -/
def bodies : Node τ → List (List (Node τ))
  | .conditional _ children | .root children => children :: allBodies children
  | .literal _ | .interpolation .. | .bare => []

/-- The lists of children in several trees. -/
def allBodies : List (Node τ) → List (List (Node τ))
  | [] => []
  | node :: rest => node.bodies ++ allBodies rest

end

/-- No literal is empty, and no two of them stand side by side. -/
structure Tidy (children : List (Node τ)) : Prop where
  nonempty : .literal [] ∉ children
  apart : ∀ t t' : Text, ¬ [.literal t, .literal t'] <:+: children

theorem tidy_nil : Tidy ([] : List (Node τ)) := by
  constructor
  · simp
  · intro t t' h
    simpa using h.length_le

/-- A node that is no literal may stand before anything. -/
theorem Tidy.cons {node : Node τ} {children : List (Node τ)} (hnode : node.isLiteral = false)
    (h : Tidy children) : Tidy (node :: children) := by
  constructor
  · intro hmem
    rcases List.mem_cons.mp hmem with heq | hmem
    · rw [← heq] at hnode
      cases hnode
    · exact h.nonempty hmem
  · intro t t' hpair
    rcases List.infix_cons_iff.mp hpair with hstart | hinner
    · rw [← (List.cons_prefix_cons.mp hstart).1] at hnode
      cases hnode
    · exact h.apart t t' hinner

/-- A literal that is not empty may stand before what does not begin with
one. -/
theorem Tidy.literal_cons {t : Text} {children : List (Node τ)} (ht : t ≠ [])
    (hhead : ∀ t' rest, children ≠ .literal t' :: rest) (h : Tidy children) :
    Tidy (.literal t :: children) := by
  constructor
  · intro hmem
    rcases List.mem_cons.mp hmem with heq | hmem
    · exact ht (Node.literal.inj heq).symm
    · exact h.nonempty hmem
  · intro u u' hpair
    rcases List.infix_cons_iff.mp hpair with hstart | hinner
    · have hnext := (List.cons_prefix_cons.mp hstart).2
      obtain ⟨rest, hrest⟩ := hnext
      exact hhead u' rest hrest.symm
    · exact h.apart u u' hinner

end Node

/-! ### Spans -/

/-- A span of a template: the text of a literal, or a whole lexeme. -/
inductive Span where
  | literal (text : Text)
  | lexeme (l : Lexeme)

namespace Span

variable {τ : Type}

/-- The text of a span. -/
def text : Span → Text
  | .literal t => t
  | .lexeme l => l.text

/-- What is left of a span when lexemes are deleted. -/
def kept : Span → Text
  | .literal t => t
  | .lexeme _ => []

/-- The spans make up the nodes, one node after the other. -/
inductive Cover : List Span → List (Node τ) → Prop
  | nil : Cover [] []
  | literal (t : Text) {spans : List Span} {nodes : List (Node τ)} (next : Cover spans nodes) :
      Cover (.literal t :: spans) (.literal t :: nodes)
  | interpolation (l : Lexeme.Interpolation) (transform : Option τ) {spans : List Span}
      {nodes : List (Node τ)} (next : Cover spans nodes) :
      Cover (.lexeme (.interpolation l) :: spans) (.interpolation l.path transform :: nodes)
  | conditional (opener : Lexeme.Opener) (closer : Lexeme.Closer) {inner spans : List Span}
      {children nodes : List (Node τ)} (nesting : opener.condition.nesting ≤ nestingLimit)
      (name : closer.name = ifName) (body : Cover inner children) (next : Cover spans nodes) :
      Cover (.lexeme (.opener opener) :: (inner ++ .lexeme (.closer closer) :: spans))
        (.conditional opener.condition.value children :: nodes)

/-- The text is the row of the spans, and they make up the nodes. -/
structure Split (s : Text) (nodes : List (Node τ)) (spans : List Span) : Prop where
  cover : Cover spans nodes
  text : spans.flatMap Span.text = s

/-- The literal text of a tree is what is left when the lexemes are
deleted. -/
theorem Cover.text_eq_kept {spans : List Span} {nodes : List (Node τ)} (h : Cover spans nodes) :
    Node.texts nodes = spans.flatMap kept := by
  induction h with
  | nil => rfl
  | literal t next ih => simp [Node.texts, Node.text, kept, ih]
  | interpolation l transform next ih => simp [Node.texts, Node.text, kept, ih]
  | conditional opener closer nesting name body next ihbody ihnext =>
    simp [Node.texts, Node.text, kept, ihbody, ihnext]

end Span

/-! ### Spans and layouts -/

namespace Layout

variable {τ : Type} {settings : Settings} {resolve : Text → Option τ} {depth : Nat}

/-- The spans of a layout. -/
def spans : Layout → List Span
  | .done => []
  | .literal t next => .literal t :: next.spans
  | .interpolation l next => .lexeme (.interpolation l) :: next.spans
  | .conditional opener body closer next =>
    .lexeme (.opener opener) :: (body.spans ++ .lexeme (.closer closer) :: next.spans)

theorem text_spans (layout : Layout) : layout.spans.flatMap Span.text = layout.text := by
  induction layout with
  | done => rfl
  | literal t next ih => simp [spans, text, Span.text, ih]
  | interpolation l next ih => simp [spans, text, Span.text, Lexeme.text, ih]
  | conditional opener body closer next ihbody ihnext =>
    simp [spans, text, Span.text, Lexeme.text, ihbody, ihnext]

/-- The spans of a layout that fits cover its nodes. -/
theorem cover_spans {layout : Layout} (hfits : layout.Fits settings resolve depth) :
    Span.Cover layout.spans (layout.nodes resolve) := by
  induction layout generalizing depth with
  | done => exact .nil
  | literal t next ih => exact .literal t (ih hfits.2)
  | interpolation l next ih => exact .interpolation l _ (ih hfits.2)
  | conditional opener body closer next ihbody ihnext =>
    obtain ⟨⟨-, hnesting, hname⟩, hbody, hnext⟩ := hfits
    exact .conditional opener closer hnesting hname (ihbody hbody) (ihnext hnext)

/-- Spans that cover a tree are the spans of a layout, which has the same
tree up to transforms. -/
theorem exists_layout_of_cover {spans : List Span} {nodes : List (Node τ)}
    (h : Span.Cover spans nodes) :
    ∃ layout : Layout, layout.spans = spans ∧
      layout.nodes (fun _ => none) = Node.plainAll nodes := by
  induction h with
  | nil => exact ⟨.done, rfl, rfl⟩
  | literal t next ih =>
    obtain ⟨layout, rfl, hnodes⟩ := ih
    refine ⟨.literal t layout, rfl, ?_⟩
    rw [Layout.nodes, hnodes, Node.plainAll, Node.plain]
  | interpolation l transform next ih =>
    obtain ⟨layout, rfl, hnodes⟩ := ih
    refine ⟨.interpolation l layout, rfl, ?_⟩
    rw [Layout.nodes, hnodes, Node.plainAll, Node.plain, Option.bind_fun_none]
  | conditional opener closer nesting name body next ihbody ihnext =>
    obtain ⟨inner, rfl, hinner⟩ := ihbody
    obtain ⟨layout, rfl, hnodes⟩ := ihnext
    refine ⟨.conditional opener inner closer layout, rfl, ?_⟩
    rw [Layout.nodes, hinner, hnodes, Node.plainAll, Node.plain]

/-- Two layouts of one text with the same tree, transforms apart, are the
same. -/
theorem eq_of_plain_eq {layout layout' : Layout}
    (hnodes : layout.nodes (fun _ => (none : Option Empty)) = layout'.nodes fun _ => none)
    (htext : layout.text = layout'.text) : layout = layout' := by
  have hnames := congrArg (Node.mapAll (Empty.elim : Empty → Text)) hnodes
  exact (eq_of_names_eq hnames (congrArg (· ++ []) htext)).1

/-- The children of a tree that fits are tidy, at any depth. -/
theorem tidy_nodes {layout : Layout} (hfits : layout.Fits settings resolve depth) :
    Node.Tidy (layout.nodes resolve) ∧
      ∀ children ∈ Node.allBodies (layout.nodes resolve), Node.Tidy children := by
  induction layout generalizing depth with
  | done => exact ⟨Node.tidy_nil, by simp [nodes, Node.allBodies]⟩
  | literal t next ih =>
    obtain ⟨⟨ht, -, hliteral⟩, hnext⟩ := hfits
    obtain ⟨htidy, hall⟩ := ih hnext
    refine ⟨htidy.literal_cons ht ?_, hall⟩
    intro t' rest heq
    -- What comes after a literal is not a literal.
    cases next with
    | literal t'' next => cases hliteral
    | _ => cases heq
  | interpolation l next ih =>
    obtain ⟨htidy, hall⟩ := ih hfits.2
    exact ⟨htidy.cons rfl, hall⟩
  | conditional opener body closer next ihbody ihnext =>
    obtain ⟨htidy, hall⟩ := ihnext hfits.2.2
    obtain ⟨hbody, hinner⟩ := ihbody hfits.2.1
    refine ⟨htidy.cons rfl, ?_⟩
    intro children hmem
    rw [nodes, Node.allBodies, Node.bodies, List.cons_append, List.mem_cons,
      List.mem_append] at hmem
    rcases hmem with rfl | hmem | hmem
    · exact hbody
    · exact hinner children hmem
    · exact hall children hmem

end Layout

/-- A text is split for a tree in one way. -/
theorem Span.Split.unique {τ : Type} {s : Text} {nodes : List (Node τ)} {spans spans' : List Span}
    (h : Split s nodes spans) (h' : Split s nodes spans') : spans = spans' := by
  -- A cover knows of no settings, so nothing says that the two layouts fit. That they
  -- have the same text and the same tree without transforms is enough.
  obtain ⟨layout, rfl, hnodes⟩ := Layout.exists_layout_of_cover h.cover
  obtain ⟨layout', rfl, hnodes'⟩ := Layout.exists_layout_of_cover h'.cover
  have htext : layout.text = layout'.text := by
    rw [← layout.text_spans, ← layout'.text_spans, h.text, h'.text]
  rw [Layout.eq_of_plain_eq (hnodes.trans hnodes'.symm) htext]

/-- The spans of a layout that fits split its text. -/
theorem Layout.split_spans {τ : Type} {settings : Settings} {resolve : Text → Option τ}
    {layout : Layout} {depth : Nat} (hfits : layout.Fits settings resolve depth) :
    Span.Split layout.text (layout.nodes resolve) layout.spans :=
  ⟨cover_spans hfits, layout.text_spans⟩

/-! ### Whole templates -/

namespace Template

variable {τ : Type}

/-- **Nothing of a template is lost, taken twice or taken in another
order.** If a template is read, it is a row of spans that make up its tree,
in one way. The literal text of the tree is what is left of the template
without the lexemes among them. No list of children has an empty literal or
two literals side by side. -/
theorem split_of_parse (settings : Settings) (resolve : Text → Option τ) (s : Text)
    (nodes : List (Node τ)) (h : (parse settings resolve s).outcome = .ok nodes) :
    (∃ spans : List Span, Span.Split s nodes spans ∧
      (∀ spans' : List Span, Span.Split s nodes spans' → spans' = spans) ∧
        (Node.root nodes).text = spans.flatMap Span.kept) ∧
      ∀ children ∈ (Node.root nodes).bodies, Node.Tidy children := by
  obtain ⟨layout, hfits, rfl, rfl⟩ := parse_outcome_eq_ok_iff.mp h
  have hsplit := Layout.split_spans hfits
  constructor
  · refine ⟨layout.spans, hsplit, ?_, hsplit.cover.text_eq_kept⟩
    intro spans' hsplit'
    exact hsplit'.unique hsplit
  · intro children hmem
    obtain ⟨htidy, hall⟩ := Layout.tidy_nodes hfits
    rcases List.mem_cons.mp hmem with rfl | hmem
    · exact htidy
    · exact hall children hmem

/-- A conditional between two literals, with an interpolation in it. -/
theorem split_of_parse_conditional :
    let s : Text := ['1', '<', '#', 'i', 'f', '(', 'a', ' ', '<', ' ', 'b', ')', '>', '%', '\x7b',
      'a', ' ', 'u', '\x7d', '<', '/', '#', 'i', 'f', '>', '%', '2']
    let nodes : List (Node Unit) := [.literal ['1'],
      .conditional (.compare ⟨['a'], []⟩ .less ⟨['b'], []⟩)
        [.interpolation ⟨['a'], []⟩ (some ())],
      .literal ['%', '2']]
    (parse Settings.defaults.strictly (fun _ => some ()) s).outcome = .ok nodes ∧
      (∃ spans : List Span, Span.Split s nodes spans ∧
        spans.flatMap Span.kept = ['1', '%', '2']) ∧
      ∀ children ∈ (Node.root nodes).bodies, Node.Tidy children := by
  intro s nodes
  have hcondition : (Condition.Spelling.compare ⟨['a'], []⟩ Blank.single .less Blank.single
      ⟨['b'], []⟩).IsProper := ⟨by decide, by decide⟩
  have hfirst : Inert true 0 ['1'] := inert_true_of_front (by decide)
  have hlast : Inert true 0 ['%', '2'] := inert_true_of_front (by decide)
  have h : (parse Settings.defaults.strictly (fun _ => some ()) s).outcome = .ok nodes := by
    refine parse_outcome_eq_ok_iff.mpr ⟨.literal ['1'] (.conditional
      ⟨Blank.none, Blank.none, Blank.none, _, Blank.none, Blank.none, hcondition⟩
      (.interpolation ⟨Blank.none, ⟨['a'], []⟩,
        some ⟨Blank.single, ['u'], List.cons_ne_nil _ _, by decide⟩, Blank.none, by decide⟩ .done)
      .canonical (.literal ['%', '2'] .done)), ?_, rfl, rfl⟩
    refine ⟨⟨List.cons_ne_nil _ _, hfirst, rfl⟩, ⟨by decide, Nat.zero_le _, rfl⟩, ?_, ?_⟩
    · exact ⟨fun _ _ _ => rfl, trivial⟩
    · exact ⟨⟨List.cons_ne_nil _ _, hlast, rfl⟩, trivial⟩
  obtain ⟨⟨spans, hsplit, -, hkept⟩, htidy⟩ := split_of_parse _ _ s nodes h
  exact ⟨h, ⟨spans, hsplit, hkept.symm⟩, htidy⟩

end Template

end Stencil
