import Formwork.Proofs.Run.Endings

/-!
Runs one after the other. The progress lives on from one run to the next, and no run looks at it: a
run does what it would do with nothing noted, and notes it onto what was noted before. So after a
history of runs the progress has a success if one of them has completed its stages, and a failure if
one of them was aborted; it reports the last run by itself only where no earlier one has left
anything to be mistaken for it.
-/

namespace Formwork

/-- What has been noted before, with what a later run has noted by itself. -/
def Progress.followedBy (p q : Progress) : Progress where
  stages := p.stages ++ q.stages
  warnings := if .validate ∈ q.stages then q.warnings else p.warnings
  success := p.success || q.success
  project := q.project <|> p.project
  artifacts := q.artifacts <|> p.artifacts
  invocations := q.invocations <|> p.invocations
  projectRoot := q.projectRoot <|> p.projectRoot
  error := q.error <|> p.error

theorem Progress.followedBy_none (p : Progress) : p.followedBy {} = p := by
  simp [followedBy]

/-- A session in which something was noted before what is noted now. -/
def Session.behind (s : Session) (p : Progress) : Session :=
  { s with progress := p.followedBy s.progress }

end Formwork

namespace Formwork.Run

variable {α β : Type}

/-! ### Steps that do not look at the progress -/

/-- Steps that do the same, and note the same, whatever was noted before. -/
def Appends (m : RunM α) : Prop :=
  ∀ s p, runIn m (s.behind p) = ((runIn m s).1, (runIn m s).2.behind p)

theorem Appends.bind {m : RunM α} {f : α → RunM β} (hm : Appends m) (hf : ∀ a, Appends (f a)) :
    Appends (m >>= f) := by
  intro s p
  rw [runIn_bind, runIn_bind, hm s p]
  cases runIn m s with
  | mk outcome s' =>
      cases outcome with
      | ok a => exact hf a s' p
      | error e => rfl

theorem Appends.tryCatch {m : RunM α} {handle : RunError → RunM α} (hm : Appends m)
    (hhandle : ∀ e, Appends (handle e)) : Appends (tryCatch m handle) := by
  intro s p
  rw [runIn_tryCatch, runIn_tryCatch, hm s p]
  cases runIn m s with
  | mk outcome s' =>
      cases outcome with
      | ok a => rfl
      | error e => exact hhandle e s' p

theorem appends_pure (a : α) : Appends (pure a) := fun _ _ => rfl

theorem appends_throw (e : RunError) : Appends (throw e : RunM α) := fun _ _ => rfl

theorem appends_get {f : Session → RunM α} (h : ∀ s p, f (s.behind p) = f s)
    (hf : ∀ s, Appends (f s)) : Appends (get >>= f) := by
  intro s p
  show runIn (f (s.behind p)) (s.behind p) = _
  rw [h s p]
  exact hf s s p

theorem appends_note {change : Progress → Progress}
    (h : ∀ p q, change (Progress.followedBy p q) = p.followedBy (change q)) :
    Appends (note change) := by
  intro s p
  simp only [runIn_note, Session.behind, h]

theorem appends_say (site : Site) (item : Console.Item) : Appends (say site item) := by
  intro s p
  rw [say]
  cases item.output site.width <;> rfl

theorem appends_sayAll (site : Site) (items : List Console.Item) :
    Appends (sayAll site items) := by
  induction items with
  | nil => exact appends_pure ()
  | cons item items ih => exact (appends_say site item).bind fun _ => ih

theorem appends_complete {stage : Stage} (h : stage ≠ .validate) : Appends (complete stage) :=
  appends_note fun p q => by
    simp [Progress.followedBy, List.append_assoc, h.symm]

theorem appends_warnings (warnings : List String) :
    Appends (note (fun p => { p with warnings }) >>= fun _ => complete .validate) := by
  intro s p
  show (Except.ok (), _) = (Except.ok (), _)
  simp [Session.behind, Progress.followedBy, List.append_assoc, runIn_bind, complete]

theorem appends_pathOf (path : Value) : Appends (pathOf path) := by
  rw [pathOf]
  cases path.asPath with
  | ok text => exact appends_pure _
  | error m => exact appends_throw _

theorem appends_layoutOf (settings : LooseSettings) : Appends (layoutOf settings) := by
  rw [layoutOf]
  cases settings.layout with
  | value layout => exact appends_pure layout
  | faulty faults => exact appends_throw _

theorem appends_ensureDirectory (site : Site) (path : Path) :
    Appends (ensureDirectory site path) := by
  intro s p
  rw [runIn_ensureDirectory_eq, runIn_ensureDirectory_eq]
  have htree : (s.behind p).tree = s.tree := rfl
  rw [htree]
  cases (s.tree.ensureDirectories site.current path).2 <;> rfl

theorem appends_issueAll (site : Site) (settings : LooseSettings) (output : Path)
    (invocations : List Invocation) : Appends (issueAll site settings output invocations) := by
  induction invocations with
  | nil => exact appends_pure ()
  | cons i rest ih =>
      intro s p
      have hreplies : (s.behind p).replies = s.replies := rfl
      rw [runIn_issueAll_cons, runIn_issueAll_cons, hreplies]
      split
      case h_1 => rfl
      case h_2 text _ =>
        split
        case isTrue => exact ih (called s text (callOf settings output i)) p
        case isFalse => rfl

theorem appends_writeArtifacts (site : Site) (root : Path) (artifacts : List Artifact) :
    Appends (writeArtifacts site root artifacts) := by
  show Appends (writeArtifactsWith Writer.writeAll site root artifacts)
  intro s p
  have htree : (s.behind p).tree = s.tree := rfl
  rw [runIn_writeArtifactsWith_eq, runIn_writeArtifactsWith_eq, htree]
  cases (Writer.writeAll s.tree site.current root artifacts).2 <;> rfl

/-! ### The stages -/

theorem appends_load (site : Site) (path : Value) : Appends (load site path) := by
  refine (appends_sayAll site _).bind fun _ => (appends_pathOf path).bind fun path =>
    appends_get (fun _ _ => rfl) fun s => ?_
  cases SpecificationFile.load site.account s.tree site.current path with
  | error e => exact appends_throw _
  | ok spec =>
      exact (appends_say site _).bind fun _ => (appends_note (by intro p q; rfl)).bind fun _ =>
        (appends_complete (by decide)).bind fun _ => appends_pure spec

theorem appends_validate (site : Site) (settings : LooseSettings) (spec : Specification) :
    Appends (validate site settings spec) := by
  refine (appends_sayAll site _).bind fun _ => (appends_layoutOf settings).bind fun layout => ?_
  cases checkSpecification spec (some layout) settings.isStrict with
  | error e => exact appends_throw _
  | ok issues =>
      refine (appends_sayAll site _).bind fun _ => ?_
      show Appends (if issues.isEmpty then _ else _)
      split
      · exact (appends_say site _).bind fun _ => appends_warnings _
      · exact (appends_pure ()).bind fun _ => appends_warnings _

theorem appends_generate (site : Site) (settings : LooseSettings) (spec : Specification) :
    Appends (generate site settings spec) := by
  refine (appends_sayAll site _).bind fun _ => (appends_layoutOf settings).bind fun layout => ?_
  cases spec.generate layout settings.workspace with
  | error e => exact appends_throw _
  | ok result =>
      exact (appends_say site _).bind fun _ => (appends_note (by intro p q; rfl)).bind fun _ =>
        (appends_complete (by decide)).bind fun _ => appends_pure result

theorem appends_reportPlan (site : Site) (result : GenerationResult) :
    Appends (reportPlan site result) :=
  (appends_say site _).bind fun _ => appends_sayAll site _

theorem appends_execute (site : Site) (settings : LooseSettings) (invocations : List Invocation) :
    Appends (execute site settings invocations) := by
  refine (appends_sayAll site _).bind fun _ => (appends_ensureDirectory site _).bind fun _ =>
    (appends_issueAll site settings _ invocations).bind fun _ => ?_
  show Appends (if invocations.isEmpty then _ else _)
  split
  · exact (appends_say site _).bind fun _ => appends_complete (by decide)
  · exact (appends_pure ()).bind fun _ => appends_complete (by decide)

theorem appends_write (site : Site) (settings : LooseSettings) (result : GenerationResult) :
    Appends (write site settings result) :=
  (appends_sayAll site _).bind fun _ => (appends_writeArtifacts site _ _).bind fun _ =>
    (appends_say site _).bind fun _ => (appends_note (by intro p q; rfl)).bind fun _ =>
      appends_complete (by decide)

theorem appends_passStages (site : Site) (settings : LooseSettings) (path : Value) (dry : Bool) :
    Appends (passStages site settings path dry) := by
  have hsuccess : Appends (note fun p => { p with success := true }) :=
    appends_note fun p q => by simp [Progress.followedBy]
  refine (appends_load site path).bind fun spec => (appends_validate site settings spec).bind
    fun _ => (appends_generate site settings spec).bind fun result => ?_
  cases dry with
  | true => exact (appends_reportPlan site result).bind fun _ => hsuccess
  | false =>
      exact (appends_execute site settings result.invocations).bind fun _ =>
        (appends_write site settings result).bind fun _ => hsuccess

theorem appends_recover (site : Site) (e : RunError) : Appends (recover site e) := by
  rw [recover]
  cases e.expected? with
  | none => exact appends_throw e
  | some reason =>
      exact (appends_note (by intro p q; rfl)).bind fun _ => appends_say site _

theorem appends_run (site : Site) (settings : LooseSettings) (path : Value) (dry : Bool) :
    Appends (run site settings path dry) :=
  (appends_say site _).bind fun _ =>
    (appends_passStages site settings path dry).tryCatch (appends_recover site)

end Formwork.Run

namespace Formwork

open Run

/-! ### Histories -/

/-- A call of a run: what it is given, and the session as the call finds it. Everything in a
session may be other than the call before has left it, but for the progress. -/
structure Turn where
  site : Site
  settings : LooseSettings
  path : Value
  dry : Bool
  found : Session

namespace Turn

/-- The call, with the progress that the calls before have left. -/
def take (t : Turn) (p : Progress) : Except RunError Unit × Session :=
  { t.found with progress := p }.run t.site t.settings t.path t.dry

def alone (t : Turn) : Except RunError Unit × Session := t.take {}

def stages (t : Turn) : List Stage := t.alone.2.progress.stages

/-- The call comes back and has completed all of its stages. -/
def Completes (t : Turn) : Prop := t.alone.1 = .ok () ∧ t.stages = Stage.due t.dry

/-- The call comes back and has not completed all of its stages. -/
def Aborts (t : Turn) : Prop := t.alone.1 = .ok () ∧ t.stages ≠ Stage.due t.dry

def reason? (t : Turn) : Option String := t.alone.2.progress.error

theorem take_eq (t : Turn) (p : Progress) : t.take p = (t.alone.1, t.alone.2.behind p) := by
  have hfound : ({ t.found with progress := p } : Session) =
      ({ t.found with progress := {} } : Session).behind p := by
    rw [Session.behind, Progress.followedBy_none]
  rw [take, hfound]
  exact appends_run t.site t.settings t.path t.dry { t.found with progress := {} } p

theorem ending (t : Turn) : Ending t.dry t.alone.1 t.alone.2.progress :=
  run_ending t.site t.settings t.path t.dry rfl

theorem success_iff (t : Turn) : t.alone.2.progress.success = true ↔ t.Completes :=
  t.ending.success_iff

theorem isSome_reason?_iff (t : Turn) : t.reason?.isSome = true ↔ t.Aborts :=
  t.ending.isSome_error_iff

end Turn

def progressAfter (p : Progress) : List Turn → Progress
  | [] => p
  | t :: turns => progressAfter (t.take p).2.progress turns

theorem progressAfter_success (p : Progress) (turns : List Turn) :
    (progressAfter p turns).success = true ↔ p.success = true ∨ ∃ t ∈ turns, t.Completes := by
  induction turns generalizing p with
  | nil => simp [progressAfter]
  | cons t turns ih =>
      have hsuccess : (t.take p).2.progress.success = true ↔ p.success = true ∨ t.Completes := by
        rw [t.take_eq, ← t.success_iff]
        exact Bool.or_eq_true_iff
      rw [progressAfter, ih, hsuccess]
      simp only [List.mem_cons, exists_eq_or_imp, or_assoc]

theorem progressAfter_error (p : Progress) (turns : List Turn) :
    (progressAfter p turns).error = (turns.filterMap Turn.reason?).getLast?.or p.error := by
  induction turns generalizing p with
  | nil => rfl
  | cons t turns ih =>
      have herror : (t.take p).2.progress.error = t.reason?.or p.error := by
        rw [t.take_eq]
        exact Option.orElse_eq_or
      rw [progressAfter, ih, herror, ← Option.or_assoc]
      congr 1
      cases hreason : t.reason? with
      | none => rw [List.filterMap_cons_none hreason, Option.or_none]
      | some reason =>
          rw [List.filterMap_cons_some hreason, List.getLast?_cons]
          cases (turns.filterMap Turn.reason?).getLast? <;> rfl

theorem progressAfter_isSome_error (turns : List Turn) :
    (progressAfter {} turns).error.isSome = true ↔ ∃ t ∈ turns, t.Aborts := by
  have hsome : (progressAfter {} turns).error.isSome = true ↔
      turns.filterMap Turn.reason? ≠ [] := by
    rw [progressAfter_error, Option.or_none, List.getLast?_isSome]
  rw [hsome, ne_eq, List.filterMap_eq_nil_iff]
  simp only [← Turn.isSome_reason?_iff, Option.isSome_iff_ne_none, not_forall, exists_prop]

theorem progressAfter_concat (p : Progress) (earlier : List Turn) (t : Turn) :
    progressAfter p (earlier ++ [t]) = (t.take (progressAfter p earlier)).2.progress := by
  induction earlier generalizing p with
  | nil => rfl
  | cons e earlier ih => exact ih _

/-- The progress tells of a call by itself: there is a success if the call has completed its stages,
and a failure if it was aborted. -/
structure Turn.Reports (t : Turn) (p : Progress) : Prop where
  success : p.success = true ↔ t.Completes
  failure : p.error.isSome = true ↔ t.Aborts

/-- What some call of a history has left is told of the last one, rightly if the last one has left
it as well, or if no call has. -/
theorem told_iff {told : Prop} {left : Turn → Prop} {earlier : List Turn} {t : Turn}
    (h : told ↔ ∃ e ∈ earlier ++ [t], left e) :
    (told ↔ left t) ↔ left t ∨ ∀ e ∈ earlier, ¬ left e := by
  by_cases hleft : left t
  · have htold : told := h.mpr ⟨t, by simp, hleft⟩
    simp [htold, hleft]
  · have htold : told ↔ ∃ e ∈ earlier, left e := by
      rw [h]
      simp [or_and_right, exists_or, hleft]
    simp [htold, hleft]

/-- When the progress after a call reports that call. A success that an earlier call has left is
mistaken for one of this call, unless this call completes its stages as well; and so is a failure.
The first call is always reported. -/
theorem Turn.reports_iff (earlier : List Turn) (t : Turn) :
    t.Reports (t.take (progressAfter {} earlier)).2.progress ↔
      (t.Completes ∨ ∀ e ∈ earlier, ¬ e.Completes) ∧ (t.Aborts ∨ ∀ e ∈ earlier, ¬ e.Aborts) := by
  have hsuccess := progressAfter_success {} (earlier ++ [t])
  have hfailure := progressAfter_isSome_error (earlier ++ [t])
  rw [progressAfter_concat] at hsuccess hfailure
  have hnone : ({} : Progress).success ≠ true := by decide
  rw [or_iff_right hnone] at hsuccess
  rw [← told_iff hsuccess, ← told_iff hfailure]
  exact ⟨fun h => ⟨h.success, h.failure⟩, fun h => ⟨h.1, h.2⟩⟩

end Formwork
