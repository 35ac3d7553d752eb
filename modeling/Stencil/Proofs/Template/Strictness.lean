import Stencil.Proofs.Template.Machine

/-!
# `Stencil.Proofs.Template.Strictness`: strict and lenient reading

Strict and lenient reading of one template go the same way up to the
first problem. Strict reading ends there, with an error; lenient reading
leaves a notice and goes on, and whatever it meets later, an error
included, does not matter to strict reading any more.

`Run.Mirrors` says this of a strict and a lenient run. It holds where a
problem is met, and it holds of two runs that follow one another if it
holds of each. So it holds of one step of the machine
(`step_mirrors`) and of a whole run (`run_mirrors`).
-/

set_option autoImplicit false

namespace Stencil

namespace Run

variable {α β : Type}

/-- The strict run gives no notice and comes to what the lenient run comes
to, if that gave no notice either, or else to the error of its first
notice. -/
structure Mirrors (strict lenient : Run α) : Prop where
  silent : strict.notices = []
  outcome : strict.outcome =
    match lenient.notices with
    | [] => lenient.outcome
    | first :: _ => .error first.error

/-- A run without notices mirrors itself. -/
theorem Mirrors.refl {r : Run α} (h : r.notices = []) : r.Mirrors r :=
  ⟨h, by rw [h]⟩

theorem Mirrors.pure (a : α) : (pure a : Run α).Mirrors (pure a) := refl rfl

theorem Mirrors.fail (cause : Cause) (position : Nat) :
    (fail cause position : Run α).Mirrors (fail cause position) := refl rfl

/-- Where lenient reading gives no notice, the two runs are one. -/
theorem Mirrors.eq_of_silent {strict lenient : Run α} (h : strict.Mirrors lenient)
    (hlenient : lenient.notices = []) : strict = lenient := by
  have hnotices := h.silent.trans hlenient.symm
  have houtcome := h.outcome
  rw [hlenient] at houtcome
  cases strict
  cases lenient
  exact congrArg₂ Run.mk hnotices houtcome

/-- Strict reading makes an error of a problem, and lenient reading a
notice. -/
theorem Mirrors.meet (problem : Problem) (position : Nat) :
    (Run.meet true problem position).Mirrors (Run.meet false problem position) :=
  ⟨rfl, rfl⟩

/-- Where two runs mirror each other and what follows them does, so do the
runs that they make together. -/
theorem Mirrors.bind {r r' : Run α} {next next' : α → Run β} (h : r.Mirrors r')
    (hnext : ∀ a, r'.outcome = .ok a → (next a).Mirrors (next' a)) :
    (r >>= next).Mirrors (r' >>= next') := by
  cases hnotices : r'.notices with
  | cons first later =>
    -- Strict reading has ended, however lenient reading goes on.
    have herror : r.outcome = .error first.error := by rw [h.outcome, hnotices]
    rw [bind_of_error next herror]
    refine ⟨h.silent, ?_⟩
    cases hr' : r'.outcome with
    | error e => rw [bind_of_error next' hr', hnotices]
    | ok a => rw [bind_of_ok next' hr', hnotices, List.cons_append]
  | nil =>
    -- No notice yet, so both runs have come to the same so far.
    have hsame : r.outcome = r'.outcome := by rw [h.outcome, hnotices]
    cases hr' : r'.outcome with
    | error e =>
      rw [hr'] at hsame
      rw [bind_of_error next hsame, bind_of_error next' hr', h.silent, hnotices]
      exact refl rfl
    | ok a =>
      rw [hr'] at hsame
      have ha := hnext a hr'
      rw [bind_of_ok next hsame, bind_of_ok next' hr', h.silent, hnotices]
      exact ⟨ha.silent, ha.outcome⟩

end Run

namespace Settings

/-- The same limit, and broken constructs are errors. -/
def strictly (settings : Settings) : Settings := { settings with strict := true }

/-- The same limit, and broken constructs are text. -/
def leniently (settings : Settings) : Settings := { settings with strict := false }

end Settings

/-- A name that is not known is a problem for both. -/
theorem Template.resolved_mirrors {τ : Type} (settings : Settings) (resolve : Text → Option τ)
    (position : Nat) (name : Option Text) :
    (Template.resolved settings.strictly resolve position name).Mirrors
      (Template.resolved settings.leniently resolve position name) := by
  cases name with
  | none => exact Run.Mirrors.pure _
  | some name =>
    cases hname : resolve name with
    | some transform =>
      simp only [Template.resolved, hname]
      exact Run.Mirrors.pure _
    | none =>
      simp only [Template.resolved, hname]
      exact (Run.Mirrors.meet _ _).bind fun _ _ => Run.Mirrors.pure _

namespace Machine

variable {τ : Type} {settings : Settings} {resolve : Text → Option τ}

theorem reject_mirrors (st : State τ) (defect : Defect) :
    (st.reject true defect).Mirrors (st.reject false defect) :=
  (Run.Mirrors.meet _ _).bind fun _ _ => Run.Mirrors.pure _

/-- **One step**: what the machine does at a place is the same for both, up
to the problem that it may meet there. -/
theorem step_mirrors (st : State τ) :
    (step settings.strictly resolve st).Mirrors (step settings.leniently resolve st) := by
  rw [step_eq, step_eq]
  cases front st.rest with
  | plain => exact Run.Mirrors.pure _
  | broken defect => exact reject_mirrors st defect
  | construct construct rest =>
    cases construct with
    | closer name =>
      -- Whether a tag closes a conditional has nothing to do with strictness.
      show (st.leave true name rest).Mirrors (st.leave false name rest)
      unfold State.leave
      cases st.stack with
      | nil => exact reject_mirrors st _
      | cons frame stack =>
        by_cases hname : name = ifName
        · simp only [if_pos hname]
          exact Run.Mirrors.pure _
        · simp only [if_neg hname]
          exact reject_mirrors st _
    | opener condition =>
      -- The limit on the nesting is an error in either case.
      show (st.enter settings.maxDepth condition rest).Mirrors
        (st.enter settings.maxDepth condition rest)
      unfold State.enter
      by_cases hdepth : settings.maxDepth ≤ st.stack.length
      · rw [if_pos hdepth]
        exact Run.Mirrors.fail _ _
      · rw [if_neg hdepth]
        exact Run.Mirrors.pure _
    | interpolation path name =>
      exact (Template.resolved_mirrors settings resolve st.position name).bind
        fun _ _ => Run.Mirrors.pure _

/-- **A whole run**, by induction on the text that is left. -/
theorem run_mirrors (st : State τ) :
    (run settings.strictly resolve st).Mirrors (run settings.leniently resolve st) := by
  induction hlength : st.rest.length using Nat.strong_induction_on generalizing st with
  | _ n ih =>
    subst hlength
    by_cases hrest : st.rest = []
    · -- An open conditional at the end is an error in either case.
      rw [run_of_nil hrest, run_of_nil hrest]
      unfold State.finish
      cases st.stack with
      | nil => exact Run.Mirrors.pure _
      | cons frame stack => exact Run.Mirrors.fail _ _
    · rw [run_of_ne_nil hrest, run_of_ne_nil hrest]
      refine (step_mirrors st).bind fun st' hst' => ?_
      exact ih st'.rest.length (length_of_step hrest hst') st' rfl

end Machine

/-- The record of a notice says what the error says that strict reading
makes of it: what is wrong, and where. A broken construct is a matter of
debugging and an unknown transform is worth a warning. -/
def LogRecord.Tells (record : LogRecord) (e : TemplateError) : Prop :=
  ∃ detail, e.cause.detail? = some detail ∧
    let place := detail ++ " at position " ++ toString e.position
    (∃ defect, e.cause = .problem (.broken defect) ∧
        record = ⟨.debug, .templates, place ++ ", treating as text"⟩) ∨
      ∃ name, e.cause = .problem (.unknownTransform name) ∧
        record = ⟨.warning, .templates, place ++ ", interpolation left without transform"⟩

theorem Notice.tells (n : Notice) : n.record.Tells n.error := by
  obtain ⟨problem, position⟩ := n
  refine ⟨problem.message, rfl, ?_⟩
  cases problem with
  | broken defect => exact Or.inl ⟨defect, rfl, rfl⟩
  | unknownTransform name => exact Or.inr ⟨name, rfl, rfl⟩

/-- Two strings that end in different characters are different. -/
theorem append_ne_of_getLast? {start start' tail tail' : String} {c d : Char}
    (hc : tail.toList.getLast? = some c) (hd : tail'.toList.getLast? = some d) (hne : c ≠ d) :
    start ++ tail ≠ start' ++ tail' := by
  intro h
  have hlast := congrArg (fun s => s.toList.getLast?) h
  simp only [String.toList_append, List.getLast?_append, hc, hd, Option.some_or] at hlast
  exact hne (Option.some.inj hlast)

/-- A record for debugging that ends in another character than the records
of broken constructs tells of no error. -/
theorem LogRecord.not_tells {start tail : String} {c : Char}
    (hc : tail.toList.getLast? = some c) (hne : c ≠ 't') (e : TemplateError) :
    ¬ (⟨.debug, .templates, start ++ tail⟩ : LogRecord).Tells e := by
  have hlast : (", treating as text" : String).toList.getLast? = some 't' := by decide
  intro h
  obtain ⟨_, -, ⟨_, -, hrecord⟩ | ⟨_, -, hrecord⟩⟩ := h
  · exact append_ne_of_getLast? hc hlast hne (LogRecord.mk.inj hrecord).2.2
  · cases (LogRecord.mk.inj hrecord).1

/-- The records of a log that tell of an error are those of the notices, in
order: the first record does not, and neither does one after them. -/
theorem Template.exists_log_eq {α : Type} (settings : Settings) (s : Text)
    (run : Run (List α)) : ∃ first last,
      log settings s run = first :: (run.notices.map Notice.record ++ last) ∧
        ∀ record ∈ first :: last, ∀ e, ¬ record.Tells e := by
  have hfirst : (")" : String).toList.getLast? = some ')' := by decide
  have hlast : (" top-level nodes" : String).toList.getLast? = some 's' := by decide
  cases houtcome : run.outcome with
  | error e =>
    refine ⟨_, [], by simp only [log, houtcome]; rfl, ?_⟩
    intro record hrecord
    rw [List.mem_singleton.mp hrecord]
    exact LogRecord.not_tells hfirst (by decide)
  | ok nodes =>
    refine ⟨_, [_], by simp only [log, houtcome]; rfl, ?_⟩
    intro record hrecord
    rcases List.mem_cons.mp hrecord with hrecord | hrecord
    · rw [hrecord]
      exact LogRecord.not_tells hfirst (by decide)
    · rw [List.mem_singleton.mp hrecord]
      exact LogRecord.not_tells hlast (by decide)

/-- **Strict reading agrees with lenient reading up to the first notice.**
Without notices the two come to the same, error or tree. With notices
strict reading comes to the error of the first of them, however lenient
reading goes on. The notices are the records of the lenient log that tell
of an error, and the record of a notice tells what its error says. -/
theorem Template.parse_strictly {τ : Type} (settings : Settings) (resolve : Text → Option τ)
    (s : Text) :
    let strict := parse settings.strictly resolve s
    let lenient := parse settings.leniently resolve s
    (lenient.notices = [] → strict = lenient) ∧
      (∀ first later, lenient.notices = first :: later → strict.outcome = .error first.error) ∧
      (∀ n ∈ lenient.notices, n.record.Tells n.error) ∧
      ∃ first last, log settings.leniently s lenient =
          first :: (lenient.notices.map Notice.record ++ last) ∧
        ∀ record ∈ first :: last, ∀ e, ¬ record.Tells e := by
  have h : (parse settings.strictly resolve s).Mirrors (parse settings.leniently resolve s) := by
    rw [Machine.parse_eq, Machine.parse_eq]
    exact Machine.run_mirrors _
  refine ⟨h.eq_of_silent, ?_, fun n _ => n.tells, exists_log_eq _ s _⟩
  intro first later hnotices
  have houtcome := h.outcome
  rw [hnotices] at houtcome
  exact houtcome

end Stencil
