import Mathlib.Data.List.Forall2
import Stencil.Proofs.Template.Span
import Stencil.Proofs.Transform.Registry

/-!
# `Stencil.Proofs.Template.Transform`: what the known transforms decide

Reading looks a name up while it reads an interpolation. What it finds goes
into the node, and in lenient reading nowhere else: the same places are
text, the same constructs are taken, and the same error ends the reading.
`parse_plain` says so of all templates. It compares reading with any
transforms to reading with none, place by place (`step_plain`) and then for
a whole run (`run_plain`), on states without their transforms
(`State.plain`).

What goes into a node is what the name in its lexeme stands for
(`interpolations_nodes`). With `Span.Split` this is a statement about the
text: a lexeme of the text belongs to each interpolation of the tree.

Strict reading does depend on what is known, because an unknown name is an
error. More names make it accept more templates, and never another tree.
-/

set_option autoImplicit false

namespace Stencil

open Text (Blank)

/-! ### Two runs that come to the same -/

/-- Two runs that come to the same up to two functions, if what follows them
does. -/
theorem Run.bind_outcome_map {α α' β β' : Type} {f : α → α'} {g : β → β'} {r : Run α}
    {r' : Run α'} {next : α → Run β} {next' : α' → Run β'}
    (h : r.outcome.map f = r'.outcome)
    (hnext : ∀ a, r.outcome = .ok a → (next a).outcome.map g = (next' (f a)).outcome) :
    (r >>= next).outcome.map g = (r' >>= next').outcome := by
  cases hr : r.outcome with
  | error e =>
    rw [hr] at h
    rw [Run.bind_of_error next hr, Run.bind_of_error next' h.symm]
    rfl
  | ok a =>
    rw [hr] at h
    rw [Run.bind_of_ok next hr, Run.bind_of_ok next' h.symm]
    exact hnext a hr

/-- In lenient reading a name always comes to something. -/
theorem Template.resolved_leniently {τ : Type} (settings : Settings) (resolve : Text → Option τ)
    (position : Nat) (name : Option Text) :
    (resolved settings.leniently resolve position name).outcome = .ok (name.bind resolve) :=
  resolved_outcome_eq_ok_iff.mpr ⟨nofun, rfl⟩

namespace Machine

variable {τ : Type}

/-! ### States without transforms -/

/-- An open conditional, without the transforms of what comes before it. -/
def Frame.plain (frame : Frame τ) : Frame Empty :=
  ⟨frame.position, frame.condition, Node.plainAll frame.before⟩

/-- A state without the transforms of its nodes. -/
def State.plain (st : State τ) : State Empty :=
  ⟨st.stack.map Frame.plain, Node.plainAll st.nodes, st.pending, st.position, st.rest⟩

variable (st : State τ)

theorem plain_stack : st.plain.stack = st.stack.map Frame.plain := rfl

theorem plain_rest : st.plain.rest = st.rest := rfl

theorem plainAll_literal (pending : Text) :
    Node.plainAll (Body.literal pending : List (Node τ)) = Body.literal pending := by
  cases pending <;> rfl

theorem flushed_plain : st.plain.flushed = Node.plainAll st.flushed := by
  show Node.plainAll st.nodes ++ Body.literal st.pending = Node.plainAll (st.nodes ++ _)
  rw [Node.plainAll_append, plainAll_literal]

theorem skip_plain : st.plain.skip = st.skip.plain := by
  unfold State.skip
  rw [plain_rest]
  cases st.rest <;> rfl

theorem add_plain (path : Path) (transform : Option τ) (rest : Text) :
    st.plain.add (.interpolation path none) rest =
      (st.add (.interpolation path transform) rest).plain := by
  show State.mk _ (st.plain.flushed ++ _) _ _ _ = State.mk _ (Node.plainAll (_ ++ _)) _ _ _
  rw [flushed_plain, Node.plainAll_append]
  rfl

/-! ### One step -/

theorem reject_plain (defect : Defect) :
    (st.reject false defect).outcome.map State.plain = (st.plain.reject false defect).outcome := by
  show Except.ok st.skip.plain = Except.ok st.plain.skip
  rw [skip_plain]

theorem leave_plain (name rest : Text) :
    (st.leave false name rest).outcome.map State.plain =
      (st.plain.leave false name rest).outcome := by
  have hreject := reject_plain st (.strayCloser name)
  have hflushed := flushed_plain st
  unfold State.leave
  rw [plain_stack]
  cases st.stack with
  | nil => exact hreject
  | cons frame stack =>
    by_cases hname : name = ifName
    · -- The conditional that is closed has no transforms besides those of its children.
      simp only [List.map_cons, if_pos hname, hflushed]
      show Except.ok (State.mk _ (Node.plainAll (frame.before ++ _)) _ _ _) = _
      rw [Node.plainAll_append]
      rfl
    · simp only [List.map_cons, if_neg hname]
      exact hreject

theorem enter_plain (maxDepth : Int) (condition : Condition) (rest : Text) :
    (st.enter maxDepth condition rest).outcome.map State.plain =
      (st.plain.enter maxDepth condition rest).outcome := by
  unfold State.enter
  rw [plain_stack, List.length_map, flushed_plain]
  by_cases hfull : maxDepth ≤ st.stack.length
  · rw [if_pos hfull, if_pos hfull]
    rfl
  · rw [if_neg hfull, if_neg hfull]
    rfl

variable {settings : Settings} {resolve : Text → Option τ}

/-- **One step**: what lenient reading does at a place does not depend on what
is known. -/
theorem step_plain :
    (step settings.leniently resolve st).outcome.map State.plain =
      (step settings.leniently (fun _ => none) st.plain).outcome := by
  rw [step_eq, step_eq, plain_rest]
  cases front st.rest with
  | plain =>
    show Except.ok st.skip.plain = Except.ok st.plain.skip
    rw [skip_plain]
  | broken defect => exact reject_plain st defect
  | construct construct rest =>
    cases construct with
    | closer name => exact leave_plain st name rest
    | opener condition => exact enter_plain st settings.maxDepth condition rest
    | interpolation path name =>
      -- Only here is a name looked up. What is found is left out again.
      refine Run.bind_outcome_map (f := fun _ => none) ?_ ?_
      · rw [Template.resolved_leniently, Template.resolved_leniently, Option.bind_fun_none]
        rfl
      · intro transform _
        show Except.ok _ = Except.ok _
        rw [add_plain]

/-! ### A whole run -/

theorem finish_plain : st.finish.outcome.map Node.plainAll = st.plain.finish.outcome := by
  have hflushed := flushed_plain st
  unfold State.finish
  rw [plain_stack]
  cases st.stack with
  | nil =>
    show Except.ok _ = Except.ok _
    rw [hflushed]
  | cons frame stack => rfl

/-- **A whole run**, by induction on the text that is left. -/
theorem run_plain :
    (run settings.leniently resolve st).outcome.map Node.plainAll =
      (run settings.leniently (fun _ => none) st.plain).outcome := by
  induction hlength : st.rest.length using Nat.strong_induction_on generalizing st with
  | _ n ih =>
    subst hlength
    by_cases hrest : st.rest = []
    · have hrest' : st.plain.rest = [] := hrest
      rw [run_of_nil hrest, run_of_nil hrest', finish_plain]
    · -- The two runs have the same text left, so one measure is enough for both.
      have hrest' : st.plain.rest ≠ [] := hrest
      rw [run_of_ne_nil hrest, run_of_ne_nil hrest']
      refine Run.bind_outcome_map (step_plain st) ?_
      intro st' hstep
      exact ih st'.rest.length (length_of_step hrest hstep) st' rfl

end Machine

/-- Lenient reading comes to the same as it does where nothing is known, up to
transforms. -/
theorem Template.parse_plain {τ : Type} (settings : Settings) (resolve : Text → Option τ)
    (s : Text) :
    (parse settings.leniently resolve s).outcome.map Node.plainAll =
      (parse settings.leniently (fun _ => none) s).outcome := by
  rw [Machine.parse_eq, Machine.parse_eq, Machine.run_plain]
  rfl

/-! ### The transform of an interpolation -/

namespace Node

variable {τ : Type}

mutual

/-- The paths and transforms of the interpolations of a tree, in order. -/
def interpolations : Node τ → List (Path × Option τ)
  | .interpolation path transform => [(path, transform)]
  | .conditional _ children | .root children => allInterpolations children
  | .literal _ | .bare => []

/-- The paths and transforms of the interpolations of several trees. -/
def allInterpolations : List (Node τ) → List (Path × Option τ)
  | [] => []
  | node :: rest => node.interpolations ++ allInterpolations rest

end

end Node

/-- The interpolation that the span is the lexeme of. -/
def Span.interpolation? : Span → Option Lexeme.Interpolation
  | .lexeme (.interpolation l) => some l
  | _ => none

/-- The transforms of a tree are what the names in its lexemes stand for. -/
theorem Layout.interpolations_nodes {τ : Type} (resolve : Text → Option τ) (layout : Layout) :
    Node.allInterpolations (layout.nodes resolve) =
      (layout.spans.filterMap Span.interpolation?).map fun l => (l.path, l.name.bind resolve) := by
  induction layout with
  | done => rfl
  | literal t next ih =>
    simp [nodes, spans, Node.allInterpolations, Node.interpolations, Span.interpolation?,
      List.filterMap_cons, ih]
  | interpolation l next ih =>
    simp [nodes, spans, Node.allInterpolations, Node.interpolations, Span.interpolation?, ih]
  | conditional opener body closer next ihbody ihnext =>
    simp [nodes, spans, Node.allInterpolations, Node.interpolations, Span.interpolation?,
      List.filterMap_cons, ihbody, ihnext]

section Registry

variable {α : Type}

/-- The names that are known, none without a registry. -/
def Registry.known : Option (Registry α) → List Text
  | none => []
  | some registry => registry.names

theorem Registry.mem_known_iff {registry : Option (Registry α)} {name : Text} :
    name ∈ known registry ↔ (lookup registry name).isSome = true := by
  cases registry with
  | none => simp [known, lookup]
  | some registry => exact mem_names_iff

/-- The interpolation carries a transform if and only if a known name was
written, and it is the one that is known under that name. -/
structure Registry.Serves (registry : Option (Registry α)) (l : Lexeme.Interpolation)
    (node : Path × Option (Transform α)) : Prop where
  path : node.1 = l.path
  carries_iff : node.2.isSome = true ↔ ∃ name ∈ l.name, name ∈ known registry
  transform : ∀ t ∈ node.2, ∃ name ∈ l.name, lookup registry name = some t

theorem Registry.serves_bind (registry : Option (Registry α)) (l : Lexeme.Interpolation) :
    Serves registry l (l.path, l.name.bind (lookup registry)) := by
  refine ⟨rfl, ?_, ?_⟩
  · cases l.name with
    | none => simp
    | some name => simp [mem_known_iff]
  · intro t ht
    exact Option.bind_eq_some_iff.mp ht

/-- The names of a tree that was read strictly are all that were asked for, so
they do not depend on what is known. -/
theorem Layout.names_nodes_of_strict {settings : Settings} {registry : Option (Registry α)}
    {layout : Layout} {depth : Nat}
    (hfits : layout.Fits settings.strictly (Registry.lookup registry) depth) :
    Node.mapAll Transform.name (layout.nodes (Registry.lookup registry)) =
      layout.nodes some := by
  induction layout generalizing depth with
  | done => rfl
  | literal t next ih =>
    rw [nodes, nodes, Node.mapAll, Node.map, ih hfits.2]
  | interpolation l next ih =>
    -- In strict reading every name that is asked for is known.
    have hknown : Known (Registry.lookup registry) l := hfits.1 rfl
    have hname : (l.name.bind (Registry.lookup registry)).map Transform.name = l.name.bind some := by
      rw [map_bind_resolve fun _ _ => Registry.name_of_lookup]
      cases hn : l.name with
      | none => rfl
      | some name =>
        have hsome := hknown name hn
        simp [Option.filter_some, hsome]
    rw [nodes, nodes, Node.mapAll, Node.map, ih hfits.2, hname]
  | conditional opener body closer next ihbody ihnext =>
    rw [nodes, nodes, Node.mapAll, Node.map, ihbody hfits.2.1, ihnext hfits.2.2]

/-- In strict reading a layout fits as well where more names are known. -/
theorem Layout.fits_of_subset {settings : Settings} {r r' : Option (Registry α)}
    {layout : Layout} {depth : Nat} (hnames : ∀ name ∈ Registry.known r, name ∈ Registry.known r')
    (hfits : layout.Fits settings (Registry.lookup r) depth) :
    layout.Fits settings (Registry.lookup r') depth := by
  induction layout generalizing depth with
  | done => trivial
  | literal t next ih => exact ⟨hfits.1, ih hfits.2⟩
  | interpolation l next ih =>
    refine ⟨?_, ih hfits.2⟩
    intro hstrict name hname
    have hknown := hfits.1 hstrict name hname
    exact Registry.mem_known_iff.mp (hnames name (Registry.mem_known_iff.mpr hknown))
  | conditional opener body closer next ihbody ihnext =>
    exact ⟨hfits.1, ihbody hfits.2.1, ihnext hfits.2.2⟩

namespace Template

variable {settings : Settings} {s : Text}

/-- Lenient reading with either of two registries comes to the same error, or
to trees that are the same up to transforms. -/
theorem parse_leniently_cases (settings : Settings) (s : Text) (r r' : Option (Registry α)) :
    (∃ e, (parse settings.leniently (Registry.lookup r) s).outcome = .error e ∧
        (parse settings.leniently (Registry.lookup r') s).outcome = .error e) ∨
      ∃ nodes nodes', (parse settings.leniently (Registry.lookup r) s).outcome = .ok nodes ∧
        (parse settings.leniently (Registry.lookup r') s).outcome = .ok nodes' ∧
          (Node.root nodes).plain = (Node.root nodes').plain := by
  -- Both are compared to reading where nothing is known.
  have hsame := (parse_plain settings (Registry.lookup r) s).trans
    (parse_plain settings (Registry.lookup r') s).symm
  cases hr : (parse settings.leniently (Registry.lookup r) s).outcome with
  | error e =>
    cases hr' : (parse settings.leniently (Registry.lookup r') s).outcome with
    | error e' =>
      rw [hr, hr'] at hsame
      obtain rfl : e = e' := Except.error.inj hsame
      exact Or.inl ⟨e, rfl, rfl⟩
    | ok nodes' =>
      rw [hr, hr'] at hsame
      cases hsame
  | ok nodes =>
    cases hr' : (parse settings.leniently (Registry.lookup r') s).outcome with
    | error e' =>
      rw [hr, hr'] at hsame
      cases hsame
    | ok nodes' =>
      rw [hr, hr'] at hsame
      have hplain : Node.plainAll nodes = Node.plainAll nodes' := Except.ok.inj hsame
      exact Or.inr ⟨nodes, nodes', rfl, rfl, congrArg Node.root hplain⟩

/-- The interpolations of a tree that was read belong to lexemes of the text,
and carry what the names in these stand for. -/
theorem serves_of_parse {r : Option (Registry α)} {nodes : List (Node (Transform α))}
    (h : (parse settings (Registry.lookup r) s).outcome = .ok nodes) :
    ∃ spans : List Span, Span.Split s nodes spans ∧
      List.Forall₂ (Registry.Serves r) (spans.filterMap Span.interpolation?)
        (Node.root nodes).interpolations := by
  obtain ⟨layout, hfits, rfl, rfl⟩ := parse_outcome_eq_ok_iff.mp h
  refine ⟨layout.spans, Layout.split_spans hfits, ?_⟩
  show List.Forall₂ _ _ (Node.allInterpolations _)
  rw [layout.interpolations_nodes, List.forall₂_map_right_iff, List.forall₂_same]
  intro l _
  exact Registry.serves_bind r l

/-- What is read strictly is read as an equal tree where more names are
known. -/
theorem parse_strictly_of_subset {r r' : Option (Registry α)}
    {nodes : List (Node (Transform α))}
    (hnames : ∀ name ∈ Registry.known r, name ∈ Registry.known r')
    (h : (parse settings.strictly (Registry.lookup r) s).outcome = .ok nodes) :
    ∃ nodes', (parse settings.strictly (Registry.lookup r') s).outcome = .ok nodes' ∧
      (Node.root nodes').names = (Node.root nodes).names := by
  obtain ⟨layout, hfits, rfl, rfl⟩ := parse_outcome_eq_ok_iff.mp h
  have hfits' := Layout.fits_of_subset hnames hfits
  refine ⟨_, parse_outcome_eq_ok_iff.mpr ⟨layout, hfits', rfl, rfl⟩, ?_⟩
  show Node.root (Node.mapAll _ _) = Node.root (Node.mapAll _ _)
  rw [Layout.names_nodes_of_strict hfits, Layout.names_nodes_of_strict hfits']

/-- **Nothing but transforms depends on the registry.** Lenient reading with
two registries comes to the same error, or to trees that are the same up to
transforms. An interpolation carries a transform if and only if its lexeme in
the text has a known name, and then the transform of that name. What is read
strictly is read as an equal tree where no name is missing. -/
theorem registry_decides_transforms (settings : Settings) (s : Text)
    (r r' : Option (Registry α)) :
    ((∃ e, (parse settings.leniently (Registry.lookup r) s).outcome = .error e ∧
        (parse settings.leniently (Registry.lookup r') s).outcome = .error e) ∨
      ∃ nodes nodes', (parse settings.leniently (Registry.lookup r) s).outcome = .ok nodes ∧
        (parse settings.leniently (Registry.lookup r') s).outcome = .ok nodes' ∧
          (Node.root nodes).plain = (Node.root nodes').plain) ∧
    (∀ nodes, (parse settings (Registry.lookup r) s).outcome = .ok nodes →
      ∃ spans : List Span, Span.Split s nodes spans ∧
        (∀ spans' : List Span, Span.Split s nodes spans' → spans' = spans) ∧
          List.Forall₂ (Registry.Serves r) (spans.filterMap Span.interpolation?)
            (Node.root nodes).interpolations) ∧
    ∀ nodes, (∀ name ∈ Registry.known r, name ∈ Registry.known r') →
      (parse settings.strictly (Registry.lookup r) s).outcome = .ok nodes →
        ∃ nodes', (parse settings.strictly (Registry.lookup r') s).outcome = .ok nodes' ∧
          (Node.root nodes').names = (Node.root nodes).names := by
  refine ⟨parse_leniently_cases settings s r r', ?_, fun _ => parse_strictly_of_subset⟩
  intro nodes h
  obtain ⟨spans, hsplit, hserves⟩ := serves_of_parse h
  refine ⟨spans, hsplit, ?_, hserves⟩
  intro spans' hsplit'
  exact hsplit'.unique hsplit

end Template

end Registry

end Stencil
