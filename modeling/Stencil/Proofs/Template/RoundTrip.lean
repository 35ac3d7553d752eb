import Stencil.Proofs.Condition.Canonical
import Stencil.Proofs.Template.Grammar
import Stencil.Proofs.Transform.Registry
import Stencil.Template.Source

/-!
# `Stencil.Proofs.Template.RoundTrip`: reading what is written

`Node.source` writes a tree as a template. The tree of a template that was
read has a layout, and what is written is the canonical layout: the same
literals, and every construct without the white space that nobody needs.

The canonical layout has the same tree, and fits as the first one did, as
what a literal may contain does not depend on what follows it. There is
one exception. The canonical form of a condition has parentheses that
nobody wrote, and they may nest too deep (`fits_canonical_iff`). Where
they do, no other layout of that text has the same tree, because the
constructs of a tree are told by the text (`eq_of_names_eq`). So a tree is
read again if and only if its conditions are not nested too deep.
-/

set_option autoImplicit false

namespace Stencil

open Text (Blank)
open Condition (nestingLimit)

/-! ### The conditions of a tree -/

namespace Node

variable {τ : Type}

mutual

/-- The conditions of a tree, at any depth. -/
def conditions : Node τ → List Condition
  | .conditional condition children => condition :: allConditions children
  | .root children => allConditions children
  | .literal _ | .interpolation .. | .bare => []

/-- The conditions of several trees. -/
def allConditions : List (Node τ) → List Condition
  | [] => []
  | node :: rest => node.conditions ++ allConditions rest

end

end Node

/-! ### The canonical form of a construct -/

namespace Lexeme

/-- The closing tag of a conditional, without white space. -/
def Closer.canonical : Closer :=
  ⟨Blank.none, Blank.none, ifName, Blank.none, by decide⟩

/-- The opening tag of a conditional, with its condition in canonical
form. -/
def Opener.canonical (c : Condition) (h : c.isLexical = true) : Opener :=
  ⟨Blank.none, Blank.none, Blank.none, c.canonical, Blank.none, Blank.none,
    Condition.isProper_canonical h⟩

/-- The name of a transform, with one blank before it. -/
def Request.canonical (r : Request) : Request :=
  ⟨Blank.single, r.name, List.cons_ne_nil _ _, r.isName⟩

/-- The request that is left when names without a transform are left
out. -/
def Request.kept (known : Text → Bool) : Option Request → Option Request
  | none => none
  | some r => if known r.name then some r.canonical else none

/-- An interpolation without white space. -/
def Interpolation.canonical (known : Text → Bool) (l : Interpolation) : Interpolation :=
  ⟨Blank.none, l.path, Request.kept known l.request, Blank.none, l.isLexical⟩

theorem Closer.text_canonical : Closer.canonical.text = ['<', '/', '#', 'i', 'f', '>'] := rfl

theorem Opener.text_canonical (c : Condition) (h : c.isLexical = true) :
    (Opener.canonical c h).text = ['<', '#', 'i', 'f', '('] ++ c.print ++ [')', '>'] := by
  simp [Opener.canonical, Opener.text, Condition.text_canonical, ifName]

theorem Interpolation.name_canonical (known : Text → Bool) (l : Interpolation) :
    (l.canonical known).name = l.name.filter known := by
  obtain ⟨w, path, request, w', hpath⟩ := l
  show (Request.kept known request).map Request.name = (request.map Request.name).filter known
  cases request with
  | none => rfl
  | some r =>
    by_cases hknown : known r.name = true
    · rw [Request.kept, if_pos hknown, Option.map_some, Option.map_some,
        Option.filter_some_pos hknown]
      rfl
    · rw [Request.kept, if_neg hknown, Option.map_none, Option.map_some, Option.filter_some,
        if_neg hknown]

/-- The text of an interpolation without white space is the written form of
its node. -/
theorem Interpolation.text_canonical (known : Text → Bool) (l : Interpolation) :
    (l.canonical known).text = (Node.interpolation l.path (l.name.filter known)).source := by
  rw [← name_canonical]
  show '%' :: '\x7b' :: ([] ++ (l.path.print ++ (requestText (Request.kept known l.request) ++
    ([] ++ ['\x7d'])))) =
      (Node.interpolation l.path ((Request.kept known l.request).map Request.name)).source
  cases hkept : Request.kept known l.request with
  | none =>
    rw [Option.map_none, Node.source]
    simp [requestText]
  | some r =>
    -- A name that was kept has one blank before it.
    have hgap : r.gap.1 = [' '] := by
      cases hrequest : l.request with
      | none =>
        rw [hrequest] at hkept
        cases hkept
      | some r' =>
        rw [hrequest, Request.kept, Option.ite_none_right_eq_some] at hkept
        obtain ⟨-, hr⟩ := hkept
        cases hr
        rfl
    rw [Option.map_some, Node.source, requestText, hgap]
    simp

end Lexeme

/-! ### The canonical layout -/

namespace Layout

variable {τ : Type} {settings : Settings} {resolve : Text → Option τ} {depth : Nat}

/-- The layout that is written for the tree of a layout. -/
def canonical (resolve : Text → Option τ) : Layout → Layout
  | .done => .done
  | .literal t next => .literal t (next.canonical resolve)
  | .interpolation l next =>
    .interpolation (l.canonical fun name => (resolve name).isSome) (next.canonical resolve)
  | .conditional opener body _ next =>
    .conditional
      (.canonical opener.condition.value (Condition.Spelling.isLexical_value opener.isProper))
      (body.canonical resolve) .canonical (next.canonical resolve)

theorem opensLiteral_canonical (layout : Layout) :
    (layout.canonical resolve).opensLiteral = layout.opensLiteral := by
  cases layout <;> rfl

/-- A name that no transform has is as good as none. -/
theorem filter_bind_resolve (name : Option Text) :
    (name.filter fun n => (resolve n).isSome).bind resolve = name.bind resolve := by
  cases name with
  | none => rfl
  | some n => cases hn : resolve n <;> simp [Option.filter_some, hn]

/-- The canonical layout has the same tree. -/
theorem nodes_canonical (layout : Layout) :
    (layout.canonical resolve).nodes resolve = layout.nodes resolve := by
  induction layout with
  | done => rfl
  | literal t next ih => rw [canonical, nodes, nodes, ih]
  | interpolation l next ih =>
    rw [canonical, nodes, nodes, ih, Lexeme.Interpolation.name_canonical, filter_bind_resolve]
    rfl
  | conditional opener body closer next ihbody ihnext =>
    rw [canonical, nodes, nodes, ihbody, ihnext]
    show Node.conditional opener.condition.value.canonical.value _ :: _ = _
    rw [Condition.value_canonical]

/-- The names of the transforms of a tree are the names that were asked
for, without those that no transform has. -/
theorem map_bind_resolve {label : τ → Text}
    (hlabel : ∀ name t, resolve name = some t → label t = name) (name : Option Text) :
    (name.bind resolve).map label = name.filter fun n => (resolve n).isSome := by
  cases name with
  | none => rfl
  | some n =>
    cases hn : resolve n with
    | none => simp [Option.filter_some, hn]
    | some t => simp [Option.filter_some, hn, hlabel n t hn]

/-- **The canonical layout is what is written** for a tree whose transforms
have the names that were asked for. -/
theorem sources_nodes {label : τ → Text}
    (hlabel : ∀ name t, resolve name = some t → label t = name) (layout : Layout) :
    Node.sources (Node.mapAll label (layout.nodes resolve)) = (layout.canonical resolve).text := by
  induction layout with
  | done => rfl
  | literal t next ih =>
    rw [nodes, Node.mapAll, Node.map, Node.sources, Node.source, ih, canonical, text]
  | interpolation l next ih =>
    rw [nodes, Node.mapAll, Node.map, Node.sources, ih, map_bind_resolve hlabel, canonical, text,
      Lexeme.Interpolation.text_canonical]
  | conditional opener body closer next ihbody ihnext =>
    rw [nodes, Node.mapAll, Node.map, Node.sources, Node.source, ihbody, ihnext, canonical, text,
      Lexeme.Opener.text_canonical, Lexeme.Closer.text_canonical]
    simp only [List.append_assoc]

/-- All of a tree that was read has a written form. -/
theorem areComplete_nodes {label : τ → Text} (layout : Layout) :
    Node.areComplete (Node.mapAll label (layout.nodes resolve)) = true := by
  induction layout with
  | done => rfl
  | literal t next ih => exact ih
  | interpolation l next ih => exact ih
  | conditional opener body closer next ihbody ihnext =>
    rw [nodes, Node.mapAll, Node.map, Node.areComplete, Node.isComplete, ihbody, ihnext]
    rfl

/-- A name that is still asked for is known. -/
theorem known_canonical (l : Lexeme.Interpolation) :
    Known resolve (l.canonical fun name => (resolve name).isSome) := by
  intro name hname
  rw [Lexeme.Interpolation.name_canonical] at hname
  exact (Option.mem_filter_iff.mp hname).2

/-- **Only conditions that nest too deep** keep the canonical layout from
fitting. -/
theorem fits_canonical_iff {layout : Layout} (hfits : layout.Fits settings resolve depth) :
    (layout.canonical resolve).Fits settings resolve depth ↔
      ∀ c ∈ Node.allConditions (layout.nodes resolve), c.nesting ≤ nestingLimit := by
  induction layout generalizing depth with
  | done => simp [canonical, Fits, nodes, Node.allConditions]
  | literal t next ih =>
    obtain ⟨⟨ht, hinert, hliteral⟩, hnext⟩ := hfits
    have hliteral' : (next.canonical resolve).opensLiteral = false :=
      (opensLiteral_canonical next).trans hliteral
    constructor
    · intro h
      exact (ih hnext).mp h.2
    · intro h
      exact ⟨⟨ht, hinert, hliteral'⟩, (ih hnext).mpr h⟩
  | interpolation l next ih =>
    constructor
    · intro h
      exact (ih hfits.2).mp h.2
    · intro h
      exact ⟨fun _ => known_canonical l, (ih hfits.2).mpr h⟩
  | conditional opener body closer next ihbody ihnext =>
    obtain ⟨⟨hdepth, -, -⟩, hbody, hnext⟩ := hfits
    have hnesting : opener.condition.value.canonical.nesting = opener.condition.value.nesting :=
      Condition.nesting_canonical _
    -- The one requirement that changes is the nesting of the condition.
    rw [nodes, Node.allConditions, Node.conditions, List.forall_mem_append,
      List.forall_mem_cons, ← ihbody hbody, ← ihnext hnext, ← hnesting]
    constructor
    · intro h
      exact ⟨⟨h.1.2.1, h.2.1⟩, h.2.2⟩
    · intro h
      exact ⟨⟨hdepth, h.1.1, rfl⟩, h.1.2, h.2⟩

/-- **Two layouts of one text with trees that look the same are the
same**, whether they fit or not. -/
theorem eq_of_names_eq {label : τ → Text} {layout layout' : Layout} {rest rest' : Text}
    (hnodes : Node.mapAll label (layout.nodes resolve) =
      Node.mapAll label (layout'.nodes resolve))
    (h : layout.text ++ rest = layout'.text ++ rest') : layout = layout' ∧ rest = rest' := by
  induction layout generalizing layout' rest rest' with
  | done =>
    cases layout' with
    | done => exact ⟨rfl, h⟩
    | _ => cases hnodes
  | literal t next ih =>
    cases layout' with
    | literal t' next' =>
      simp only [nodes, Node.mapAll, Node.map, List.cons.injEq, Node.literal.injEq] at hnodes
      obtain ⟨rfl, hnext⟩ := hnodes
      rw [text, text, List.append_assoc, List.append_assoc] at h
      obtain ⟨rfl, hrest⟩ := ih hnext (List.append_cancel_left h)
      exact ⟨rfl, hrest⟩
    | _ => cases hnodes
  | interpolation l next ih =>
    cases layout' with
    | interpolation l' next' =>
      simp only [nodes, Node.mapAll, Node.map, List.cons.injEq] at hnodes
      rw [text, text, List.append_assoc, List.append_assoc] at h
      obtain ⟨rfl, hnext⟩ := Lexeme.Interpolation.text_append_inj h
      obtain ⟨rfl, hrest⟩ := ih hnodes.2 hnext
      exact ⟨rfl, hrest⟩
    | _ => cases hnodes
  | conditional opener body closer next ihbody ihnext =>
    cases layout' with
    | conditional opener' body' closer' next' =>
      simp only [nodes, Node.mapAll, Node.map, List.cons.injEq, Node.conditional.injEq] at hnodes
      simp only [text, List.append_assoc] at h
      -- The opening tags have the same text, so they are the same lexeme.
      obtain ⟨rfl, hbody⟩ := Lexeme.Opener.text_append_inj h
      obtain ⟨rfl, hcloser⟩ := ihbody hnodes.1.2 hbody
      obtain ⟨rfl, hnext⟩ := Lexeme.Closer.text_append_inj hcloser
      obtain ⟨rfl, hrest⟩ := ihnext hnodes.2 hnext
      exact ⟨rfl, hrest⟩
    | _ => cases hnodes

end Layout

/-! ### Reading again -/

namespace Template

variable {τ : Type} {settings : Settings} {resolve : Text → Option τ} {s : Text}
  {nodes : List (Node τ)} {label : τ → Text}

/-- A tree that was read is read again, up to the functions of its
transforms, if and only if its conditions are not nested too deep. -/
theorem reads_again_iff (hlabel : ∀ name t, resolve name = some t → label t = name)
    (h : (parse settings resolve s).outcome = .ok nodes) :
    (∃ again, (parse settings resolve (Node.sources (Node.mapAll label nodes))).outcome =
        .ok again ∧ Node.mapAll label again = Node.mapAll label nodes) ↔
      ∀ c ∈ Node.allConditions nodes, c.nesting ≤ nestingLimit := by
  obtain ⟨layout, hfits, -, rfl⟩ := parse_outcome_eq_ok_iff.mp h
  rw [Layout.sources_nodes hlabel, ← Layout.fits_canonical_iff hfits]
  constructor
  · intro hagain
    obtain ⟨again, hparse, hnames⟩ := hagain
    obtain ⟨layout', hfits', htext, rfl⟩ := parse_outcome_eq_ok_iff.mp hparse
    -- Any layout that is read is the canonical one, so the canonical one fits.
    rw [← layout.nodes_canonical] at hnames
    have htext' : layout'.text ++ [] = (layout.canonical resolve).text ++ [] := by rw [htext]
    rw [← (Layout.eq_of_names_eq hnames htext').1]
    exact hfits'
  · intro hcanonical
    exact ⟨_, parse_outcome_eq_ok_iff.mpr
      ⟨layout.canonical resolve, hcanonical, rfl, layout.nodes_canonical⟩, rfl⟩

end Template

section Registry

variable {α : Type}

/-- The transform that is known under a name. Without a registry none is. -/
def Registry.lookup (registry : Option (Registry α)) (name : Text) : Option (Transform α) :=
  registry.bind fun r => r.resolve name

/-- A registry gives a transform under its own name. -/
theorem Registry.name_of_lookup {registry : Option (Registry α)} {name : Text} {t : Transform α}
    (h : Registry.lookup registry name = some t) : t.name = name := by
  cases registry with
  | none => cases h
  | some registry => exact Registry.name_of_resolve h

/-- A tree is written as a template that is read as an equal tree. -/
def Template.ReadsBack (settings : Settings) (registry : Option (Registry α))
    (nodes : List (Node (Transform α))) : Prop :=
  ∃ source, (Node.root nodes).names.source? = .ok source ∧ ∃ again,
    (Template.parse settings (Registry.lookup registry) source).outcome = .ok again ∧
      (Node.root again).names = (Node.root nodes).names

/-- **Round trip.** The tree of a template that was read, with any registry
or none, has a written form, and this is read as an equal tree if and only
if no condition in the tree is nested too deep in its canonical form. -/
theorem Template.source_round_trip (registry : Option (Registry α)) (settings : Settings)
    (s : Text) (nodes : List (Node (Transform α)))
    (h : (parse settings (Registry.lookup registry) s).outcome = .ok nodes) :
    (∃ source, (Node.root nodes).names.source? = .ok source) ∧
      (ReadsBack settings registry nodes ↔
        ∀ c ∈ (Node.root nodes).conditions, c.nesting ≤ nestingLimit) := by
  have hcomplete : (Node.root nodes).names.isComplete = true := by
    obtain ⟨layout, -, -, rfl⟩ := parse_outcome_eq_ok_iff.mp h
    exact layout.areComplete_nodes
  have hsource : (Node.root nodes).names.source? =
      .ok (Node.sources (Node.mapAll Transform.name nodes)) := by
    rw [Node.source?, if_pos hcomplete]
    rfl
  have hroot : ∀ again : List (Node (Transform α)),
      (Node.root again).names = (Node.root nodes).names ↔
        Node.mapAll Transform.name again = Node.mapAll Transform.name nodes := by
    intro again
    show Node.root _ = Node.root _ ↔ _
    rw [Node.root.injEq]
  refine ⟨⟨_, hsource⟩, ?_⟩
  show _ ↔ ∀ c ∈ Node.allConditions nodes, c.nesting ≤ nestingLimit
  rw [← reads_again_iff (fun _ _ => Registry.name_of_lookup) h]
  simp only [ReadsBack, hsource, hroot, Except.ok.injEq, exists_eq_left']

/-- The tree of a conditional around an interpolation. -/
theorem Template.source_round_trip_conditional :
    (parse Settings.defaults (Registry.lookup none)
      ['<', '#', 'i', 'f', '(', 'a', ' ', '<', ' ', 'b', ')', '>', '%', '\x7b', 'a', '\x7d',
        '<', '/', '#', 'i', 'f', '>']).outcome =
      .ok ([.conditional (.compare ⟨['a'], []⟩ .less ⟨['b'], []⟩)
        [.interpolation ⟨['a'], []⟩ none]] : List (Node (Transform Text))) ∧
    ReadsBack Settings.defaults none
      ([.conditional (.compare ⟨['a'], []⟩ .less ⟨['b'], []⟩)
        [.interpolation ⟨['a'], []⟩ none]] : List (Node (Transform Text))) := by
  have h : (parse Settings.defaults (Registry.lookup none)
      ['<', '#', 'i', 'f', '(', 'a', ' ', '<', ' ', 'b', ')', '>', '%', '\x7b', 'a', '\x7d',
        '<', '/', '#', 'i', 'f', '>']).outcome =
      .ok ([.conditional (.compare ⟨['a'], []⟩ .less ⟨['b'], []⟩)
        [.interpolation ⟨['a'], []⟩ none]] : List (Node (Transform Text))) := by
    have hcondition : (Condition.Spelling.compare ⟨['a'], []⟩ Blank.single .less Blank.single
        ⟨['b'], []⟩).IsProper := ⟨by decide, by decide⟩
    refine parse_outcome_eq_ok_iff.mpr ⟨.conditional
      ⟨Blank.none, Blank.none, Blank.none, _, Blank.none, Blank.none, hcondition⟩
      (.interpolation ⟨Blank.none, ⟨['a'], []⟩, none, Blank.none, by decide⟩ .done)
      .canonical .done, ?_, rfl, rfl⟩
    exact ⟨⟨by decide, Nat.zero_le _, rfl⟩, ⟨nofun, trivial⟩, trivial⟩
  exact ⟨h, (source_round_trip none Settings.defaults _ _ h).2.mpr (by decide)⟩

end Registry

end Stencil
