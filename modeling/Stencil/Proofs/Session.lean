import Stencil.Proofs.Template.Transform
import Stencil.Session

/-!
# `Stencil.Proofs.Session`: a session tells what was done in it

A session is the result of its steps, and here each part of it is read off
the list of steps. The registry has the names that were registered and gives
under each the function that came last (`lastRegistered`). The kept trees
are those that the steps read, each with the functions that its names had
when it was read. A failed step leaves no trace, and a transform that is
replaced is worth one warning, when it is replaced.

`step_effect` says all that a step can do. From it there is a lemma on one
step for each part of the session, and from that one on a whole run. A run
may begin with any session in these, so that the induction goes along the
list of steps from its front.
-/

set_option autoImplicit false

namespace Stencil

namespace Session

variable {α : Type}

/-- A session in which nothing was done yet. -/
def start (settings : Settings) : Session α :=
  ⟨Registry.empty, settings, []⟩

theorem run_cons (session : Session α) (next : Step α) (later : List (Step α)) :
    session.run (next :: later) = (session.step next).session.run later := rfl

/-! ### What the steps say -/

/-- The function that a step registers under a name. Nothing is registered
under a name that is not allowed. -/
def Step.registered? (name : Text) : Step α → Option (α → α)
  | .register n run => if n = name ∧ Text.isName n = true then some run else none
  | _ => none

/-- The function that was registered last under a name. -/
def lastRegistered (name : Text) : List (Step α) → Option (α → α)
  | [] => none
  | next :: later => (lastRegistered name later).or (next.registered? name)

theorem registered?_isSome_iff {name : Text} {next : Step α} :
    (next.registered? name).isSome = true ↔
      Text.isName name = true ∧ ∃ run, next = .register name run := by
  cases next with
  | register n run =>
    simp only [Step.registered?, Option.isSome_ite, Step.register.injEq]
    constructor
    · rintro ⟨rfl, hname⟩
      exact ⟨hname, run, rfl, rfl⟩
    · rintro ⟨hname, _, rfl, -⟩
      exact ⟨rfl, hname⟩
  | _ => simp [Step.registered?]

/-- There is a function for the names that are allowed and were
registered. -/
theorem lastRegistered_isSome_iff {name : Text} {steps : List (Step α)} :
    (lastRegistered name steps).isSome = true ↔
      Text.isName name = true ∧ ∃ run, .register name run ∈ steps := by
  induction steps with
  | nil => simp [lastRegistered]
  | cons next later ih =>
    rw [lastRegistered, Option.isSome_or, Bool.or_eq_true, ih, registered?_isSome_iff]
    constructor
    · rintro (⟨hname, run, hmem⟩ | ⟨hname, run, rfl⟩)
      · exact ⟨hname, run, List.mem_cons_of_mem next hmem⟩
      · exact ⟨hname, run, List.mem_cons_self⟩
    · rintro ⟨hname, run, hmem⟩
      rcases List.mem_cons.mp hmem with heq | hmem
      · exact Or.inr ⟨hname, run, heq.symm⟩
      · exact Or.inl ⟨hname, run, hmem⟩

/-! ### The records about transforms -/

/-- The warning that a transform is replaced. -/
def replaceWarning (name : Text) : LogRecord :=
  ⟨.warning, .transforms,
    "Transform '" ++ String.ofList name ++ "' overwrites existing transform"⟩

/-- The warnings about transforms in a log. -/
def transformWarnings (log : List LogRecord) : List LogRecord :=
  log.filter fun record => record.level = .warning ∧ record.channel = .transforms

/-- The records of reading a template come from the reader. -/
theorem channel_of_mem_log {β : Type} {settings : Settings} {s : Text} {run : Run (List β)}
    {record : LogRecord} (h : record ∈ Template.log settings s run) :
    record.channel = .templates := by
  simp only [Template.log, List.mem_append, List.mem_cons, List.mem_map] at h
  rcases h with (rfl | ⟨n, -, rfl⟩) | h
  · rfl
  · obtain ⟨problem, position⟩ := n
    cases problem <;> rfl
  · -- The last record is there only if there is a tree.
    cases houtcome : run.outcome with
    | error e => simp [houtcome] at h
    | ok nodes =>
      simp only [houtcome, List.mem_singleton] at h
      rw [h]

/-- Reading a template warns of nothing that has to do with the registry. -/
theorem transformWarnings_parse {β : Type} (settings : Settings) (s : Text) (run : Run (List β)) :
    transformWarnings (Template.log settings s run) = [] := by
  rw [transformWarnings, List.filter_eq_nil_iff]
  intro record hrecord
  simp [channel_of_mem_log hrecord]

/-- A registration warns if and only if it replaces a transform. -/
theorem transformWarnings_registration (done : Registration α) :
    transformWarnings done.log =
      if done.replaced then [replaceWarning done.transform.name] else [] := by
  cases hreplaced : done.replaced <;>
    simp [transformWarnings, Registration.log, hreplaced, replaceWarning]

/-! ### What a step can do -/

/-- All that a step can do to a session, and what it then answers. -/
inductive Effect (session : Session α) (next : Step α) : Prop
  /-- A transform is made known. -/
  | registers (name : Text) (run : α → α) (done : Registration α)
      (step : next = .register name run) (registers : session.registry.Registers name run done)
      (outcome : session.step next = ⟨.ok (.registered done.transform), done.log,
        { session with registry := done.registry }⟩)
  /-- The settings are changed. -/
  | configures (strict : Bool) (maxDepth : Int) (settings : Settings)
      (step : next = .configure strict maxDepth)
      (outcome : session.step next = ⟨.ok (.configured settings), [],
        { session with settings }⟩)
  /-- A tree is read, and kept if there is a key. -/
  | parses (text : Text) (key : Option Text) (nodes : List (Node (Transform α)))
      (log : List LogRecord) (step : next = .parse text key)
      (read : (Template.parse session.settings session.registry.resolve text).outcome =
        .ok nodes)
      (warnings : transformWarnings log = [])
      (outcome : session.step next = ⟨.ok (.parsed nodes), log,
        { session with kept := (key.toList.map fun k => (k, nodes)) ++ session.kept }⟩)
  /-- Nothing is changed: the step failed, or it only asked for something. -/
  | idle (registered : ∀ name, next.registered? name = none)
      (warnings : transformWarnings (session.step next).log = [])
      (parsed : ∀ nodes, (session.step next).answer ≠ .ok (.parsed nodes))
      (unchanged : (session.step next).session = session)

theorem step_effect (session : Session α) (next : Step α) : session.Effect next := by
  cases next with
  | register name run =>
    rcases session.registry.register_cases name run with
      ⟨hname, hregister⟩ | ⟨done, hregister, hdone⟩
    · have hstep : session.step (.register name run) =
          ⟨.error (.name ⟨name⟩), [], session⟩ := by simp only [step, hregister]
      refine .idle ?_ ?_ ?_ ?_
      · intro n
        simp [Step.registered?, hname]
      · rw [hstep]
        rfl
      · simp [hstep]
      · rw [hstep]
    · exact .registers name run done rfl hdone (by simp only [step, hregister])
  | configure strict maxDepth =>
    cases hmake : Settings.make strict maxDepth with
    | ok settings => exact .configures strict maxDepth settings rfl (by simp only [step, hmake])
    | error e =>
      have hstep : session.step (.configure strict maxDepth) =
          ⟨.error (.settings e), [], session⟩ := by simp only [step, hmake]
      refine .idle (fun _ => rfl) ?_ ?_ ?_
      · rw [hstep]
        rfl
      · simp [hstep]
      · rw [hstep]
  | parse text key =>
    have hwarnings := transformWarnings_parse session.settings text
      (Template.parse session.settings session.registry.resolve text)
    cases hparse : (Template.parse session.settings session.registry.resolve text).outcome with
    | ok nodes =>
      refine .parses text key nodes _ rfl hparse hwarnings ?_
      simp only [step, hparse]
      cases key <;> rfl
    | error e =>
      have hstep : session.step (.parse text key) = ⟨.error (.template e),
          Template.log session.settings text
            (Template.parse session.settings session.registry.resolve text), session⟩ := by
        simp only [step, hparse]
      refine .idle (fun _ => rfl) ?_ ?_ ?_
      · rw [hstep]
        exact hwarnings
      · simp [hstep]
      · rw [hstep]
  -- The other steps only ask.
  | resolve name => exact .idle (fun _ => rfl) rfl nofun rfl
  | contains name => exact .idle (fun _ => rfl) rfl nofun rfl
  | apply key value =>
    refine .idle (fun _ => rfl) rfl ?_ rfl
    intro nodes
    simp only [step]
    cases session.tree? key <;> exact nofun
  | compare left right =>
    refine .idle (fun _ => rfl) rfl ?_ rfl
    intro nodes
    simp only [step]
    cases session.tree? left with
    | error e => exact nofun
    | ok a => cases session.tree? right <;> exact nofun

/-- A step that fails leaves the session as it was. -/
theorem session_of_error {session : Session α} {next : Step α} {e : Failure}
    (h : (session.step next).answer = .error e) : (session.step next).session = session := by
  cases session.step_effect next with
  | registers name run done _ _ outcome =>
    rw [outcome] at h
    cases h
  | configures strict maxDepth settings _ outcome =>
    rw [outcome] at h
    cases h
  | parses text key nodes log _ _ _ outcome =>
    rw [outcome] at h
    cases h
  | idle _ _ _ unchanged => exact unchanged

/-! ### The registry -/

/-- A step changes what is known under a name only by registering it. -/
theorem resolve_step (session : Session α) (next : Step α) (name : Text) :
    (session.step next).session.registry.resolve name =
      ((next.registered? name).map (Transform.mk name)).or (session.registry.resolve name) := by
  cases session.step_effect next with
  | registers n run done step registers outcome =>
    subst step
    rw [outcome]
    show done.registry.resolve name = _
    rw [registers.resolve]
    -- The step says something about its own name only.
    by_cases heq : n = name
    · simp [Step.registered?, registers.isName, ← heq]
    · simp [Step.registered?, heq]
  | configures strict maxDepth settings step outcome =>
    subst step
    rw [outcome]
    rfl
  | parses text key nodes log step _ _ outcome =>
    subst step
    rw [outcome]
    rfl
  | idle registered _ _ unchanged =>
    rw [unchanged, registered]
    rfl

/-- What is known at the end under a name is the function that came last, or
what was known at the beginning. -/
theorem resolve_run (session : Session α) (steps : List (Step α)) (name : Text) :
    (session.run steps).registry.resolve name =
      ((lastRegistered name steps).map (Transform.mk name)).or
        (session.registry.resolve name) := by
  induction steps generalizing session with
  | nil => rfl
  | cons next later ih =>
    -- The later steps come first in both, and then this step.
    rw [run_cons, ih, resolve_step, lastRegistered]
    cases lastRegistered name later <;> rfl

/-- If nothing is known at the beginning, it is the function that came last. -/
theorem resolve_run_start (settings : Settings) (steps : List (Step α)) (name : Text) :
    ((start settings).run steps).registry.resolve name =
      (lastRegistered name steps).map (Transform.mk name) := by
  rw [resolve_run]
  exact Option.or_none

theorem mem_names_run_start (settings : Settings) (steps : List (Step α)) (name : Text) :
    name ∈ ((start settings).run steps).registry.names ↔
      Text.isName name = true ∧ ∃ run, .register name run ∈ steps := by
  rw [Registry.mem_names_iff, resolve_run_start, Option.isSome_map, lastRegistered_isSome_iff]

/-! ### The warnings -/

/-- The step registers a name that is there already. -/
def Step.Replaces (names : List Text) (next : Step α) (name : Text) : Prop :=
  name ∈ names ∧ (next.registered? name).isSome = true

/-- A step gives one warning if it replaces a transform, and none
otherwise. -/
theorem transformWarnings_step (session : Session α) (next : Step α) :
    (∃ name, next.Replaces session.registry.names name ∧
        transformWarnings (session.step next).log = [replaceWarning name]) ∨
      ((∀ name, ¬ next.Replaces session.registry.names name) ∧
        transformWarnings (session.step next).log = []) := by
  cases session.step_effect next with
  | registers name run done step registers outcome =>
    subst step
    have hwarnings : transformWarnings (session.step (.register name run)).log =
        if name ∈ session.registry.names then [replaceWarning name] else [] := by
      rw [outcome, transformWarnings_registration, registers.replaced, registers.transform]
      simp only [Registry.contains_iff]
    rw [hwarnings]
    by_cases hknown : name ∈ session.registry.names
    · refine Or.inl ⟨name, ⟨hknown, ?_⟩, if_pos hknown⟩
      exact registered?_isSome_iff.mpr ⟨registers.isName, run, rfl⟩
    · refine Or.inr ⟨?_, if_neg hknown⟩
      intro n hn
      obtain ⟨-, _, heq⟩ := registered?_isSome_iff.mp hn.2
      cases heq
      exact hknown hn.1
  | configures strict maxDepth settings step outcome =>
    subst step
    rw [outcome]
    exact Or.inr ⟨fun _ h => Bool.noConfusion h.2, rfl⟩
  | parses text key nodes log step _ warnings outcome =>
    subst step
    rw [outcome]
    exact Or.inr ⟨fun _ h => Bool.noConfusion h.2, warnings⟩
  | idle registered warnings _ _ =>
    refine Or.inr ⟨?_, warnings⟩
    intro name h
    rw [Step.Replaces, registered] at h
    exact Bool.noConfusion h.2

/-! ### The kept trees -/

/-- A step keeps what was kept, and the tree that it read if there is a
key. -/
theorem mem_kept_step (session : Session α) (next : Step α) (key : Text)
    (nodes : List (Node (Transform α))) :
    (key, nodes) ∈ (session.step next).session.kept ↔
      (key, nodes) ∈ session.kept ∨ ∃ text, next = .parse text (some key) ∧
        (session.step next).answer = .ok (.parsed nodes) := by
  cases session.step_effect next with
  | registers name run done step _ outcome =>
    subst step
    rw [outcome]
    simp
  | configures strict maxDepth settings step outcome =>
    subst step
    rw [outcome]
    simp
  | parses text k read log step _ _ outcome =>
    subst step
    rw [outcome]
    show (key, nodes) ∈ (k.toList.map fun k => (k, read)) ++ session.kept ↔ _
    rw [List.mem_append, or_comm]
    cases k <;> simp [eq_comm]
  | idle _ _ parsed unchanged =>
    rw [unchanged]
    simp [parsed]

/-- The kept trees at the end are those that were kept at the beginning and
those that a step read and kept. -/
theorem mem_kept_run (session : Session α) (steps : List (Step α)) (key : Text)
    (nodes : List (Node (Transform α))) :
    (key, nodes) ∈ (session.run steps).kept ↔
      (key, nodes) ∈ session.kept ∨ ∃ earlier text later,
        steps = earlier ++ .parse text (some key) :: later ∧
          ((session.run earlier).step (.parse text (some key))).answer = .ok (.parsed nodes) := by
  induction steps generalizing session with
  | nil => simp [run]
  | cons next rest ih =>
    rw [run_cons, ih, mem_kept_step, or_assoc]
    refine or_congr_right ?_
    -- The step that read the tree is the first one, or it is among the others.
    constructor
    · rintro (⟨text, rfl, hanswer⟩ | ⟨earlier, text, later, rfl, hanswer⟩)
      · exact ⟨[], text, rest, rfl, hanswer⟩
      · exact ⟨next :: earlier, text, later, rfl, hanswer⟩
    · rintro ⟨earlier, text, later, hsteps, hanswer⟩
      cases earlier with
      | nil =>
        obtain ⟨rfl, rfl⟩ := List.cons.inj hsteps
        exact Or.inl ⟨text, rfl, hanswer⟩
      | cons first earlier =>
        obtain ⟨rfl, rfl⟩ := List.cons.inj hsteps
        exact Or.inr ⟨earlier, text, later, rfl, hanswer⟩

/-- A tree that a step read has the transforms that were known then. -/
theorem resolve_of_parsed {session : Session α} {next : Step α}
    {nodes : List (Node (Transform α))}
    (h : (session.step next).answer = .ok (.parsed nodes)) {path : Path} {t : Transform α}
    (ht : (path, some t) ∈ (Node.root nodes).interpolations) :
    session.registry.resolve t.name = some t := by
  cases session.step_effect next with
  | registers name run done _ _ outcome =>
    rw [outcome] at h
    cases h
  | configures strict maxDepth settings _ outcome =>
    rw [outcome] at h
    cases h
  | idle _ _ parsed _ => exact absurd h (parsed nodes)
  | parses text key read log _ hread _ outcome =>
    rw [outcome] at h
    cases h
    obtain ⟨layout, -, -, rfl⟩ := Template.parse_outcome_eq_ok_iff.mp hread
    replace ht : (path, some t) ∈ Node.allInterpolations _ := ht
    rw [layout.interpolations_nodes, List.mem_map] at ht
    -- The transform was found under the name in its lexeme, which is its own.
    obtain ⟨l, -, hl⟩ := ht
    obtain ⟨name, -, hname⟩ := Option.bind_eq_some_iff.mp (Prod.mk.inj hl).2
    rwa [Registry.name_of_resolve hname]

/-- **A session tells what was done in it**, whatever the steps and their
order. The names of the registry ascend and are those that are allowed and
were registered, and each stands for the function that came last. Each step
gives one warning if it replaces a transform and no such warning otherwise,
and if it fails it changes nothing. The kept trees are those that were read
to be kept. Their transforms have the functions that were registered last
before the tree was read. -/
theorem run_tells_steps (settings : Settings) (steps : List (Step α)) :
    let session := (start settings).run steps
    (session.registry.names.Pairwise (· < ·) ∧ ∀ name, name ∈ session.registry.names ↔
        Text.isName name = true ∧ ∃ run, .register name run ∈ steps) ∧
    (∀ name, session.registry.resolve name =
        (lastRegistered name steps).map (Transform.mk name)) ∧
    (∀ earlier next later, steps = earlier ++ next :: later →
      let before := (start settings).run earlier
      ((∃ name, next.Replaces before.registry.names name ∧
          transformWarnings (before.step next).log = [replaceWarning name]) ∨
        ((∀ name, ¬ next.Replaces before.registry.names name) ∧
          transformWarnings (before.step next).log = [])) ∧
      ∀ e, (before.step next).answer = .error e → (before.step next).session = before) ∧
    ∀ key nodes, (key, nodes) ∈ session.kept ↔ ∃ earlier text later,
      steps = earlier ++ .parse text (some key) :: later ∧
        (((start settings).run earlier).step (.parse text (some key))).answer =
          .ok (.parsed nodes) ∧
        ∀ path t, (path, some t) ∈ (Node.root nodes).interpolations →
          lastRegistered t.name earlier = some t.run := by
  refine ⟨⟨Registry.names_ascending _, mem_names_run_start settings steps⟩,
    resolve_run_start settings steps, ?_, ?_⟩
  · intro earlier next later _
    exact ⟨transformWarnings_step _ next, fun _ => session_of_error⟩
  · intro key nodes
    rw [mem_kept_run]
    constructor
    · rintro (hkept | ⟨earlier, text, later, hsteps, hanswer⟩)
      · cases hkept
      · refine ⟨earlier, text, later, hsteps, hanswer, ?_⟩
        intro path t ht
        have hresolve := resolve_of_parsed hanswer ht
        rw [resolve_run_start, Option.map_eq_some_iff] at hresolve
        obtain ⟨run, hlast, ht⟩ := hresolve
        rw [hlast, ← ht]
    · rintro ⟨earlier, text, later, hsteps, hanswer, -⟩
      exact Or.inr ⟨earlier, text, later, hsteps, hanswer⟩

end Session

end Stencil
