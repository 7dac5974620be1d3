import Formwork.Proofs.Check.Verdict
import Formwork.Proofs.Run.Commands

/-!
What the stages of a run note. A stage notes what it has come to when it is complete, and nothing
before; and no other step notes anything but success and failure. So what a run has noted is what
the completions of its stages make of what was noted before it, one after the other.
-/

namespace Formwork.Run

variable {α β : Type}

/-! ### Steps that note nothing -/

/-- Steps that note nothing, wherever they fail. -/
def Silent (m : RunM α) : Prop := ∀ s, (runIn m s).2.progress = s.progress

theorem Silent.bind {m : RunM α} {f : α → RunM β} (hm : Silent m) (hf : ∀ a, Silent (f a)) :
    Silent (m >>= f) :=
  runIn_bind_rel (R := fun s s' => s'.progress = s.progress) (fun h h' => h'.trans h) hm hf

theorem silent_pure (a : α) : Silent (pure a) := fun _ => rfl

theorem silent_throw (e : RunError) : Silent (throw e : RunM α) := fun _ => rfl

theorem silent_get : Silent (get : RunM Session) := fun _ => rfl

theorem silent_say (site : Site) (item : Console.Item) : Silent (say site item) := by
  intro s
  rw [say]
  cases item.output site.width <;> rfl

theorem silent_sayAll (site : Site) (items : List Console.Item) : Silent (sayAll site items) := by
  induction items with
  | nil => exact silent_pure ()
  | cons item items ih => exact (silent_say site item).bind fun _ => ih

theorem silent_pathOf (path : Value) : Silent (pathOf path) := by
  rw [pathOf]
  cases path.asPath with
  | ok text => exact silent_pure _
  | error m => exact silent_throw _

theorem silent_layoutOf (settings : LooseSettings) : Silent (layoutOf settings) := by
  rw [layoutOf]
  cases settings.layout with
  | value layout => exact silent_pure layout
  | faulty faults => exact silent_throw _

theorem silent_reportPlan (site : Site) (result : GenerationResult) :
    Silent (reportPlan site result) :=
  (silent_say site _).bind fun _ => silent_sayAll site _

theorem silent_issueAll (site : Site) (settings : LooseSettings) (output : Path)
    (invocations : List Invocation) : Silent (issueAll site settings output invocations) := by
  intro s
  obtain ⟨-, -, -, hprogress⟩ := issueAll_issued site settings output invocations s
  exact hprogress

theorem silent_ensureDirectory (site : Site) (path : Path) :
    Silent (ensureDirectory site path) := by
  intro s
  obtain ⟨tree, hok | ⟨e, -, herror⟩⟩ := runIn_ensureDirectory site path s
  · rw [hok]
  · rw [herror]

theorem silent_writeArtifacts (site : Site) (root : Path) (artifacts : List Artifact) :
    Silent (writeArtifacts site root artifacts) := by
  show Silent (writeArtifactsWith Writer.writeAll site root artifacts)
  intro s
  obtain ⟨tree, ⟨n, hok⟩ | ⟨e, -, herror⟩⟩ :=
    runIn_writeArtifactsWith Writer.writeAll site root artifacts s
  · rw [hok]
  · rw [herror]

/-! ### Completions -/

inductive Completion
  | loaded (spec : Specification)
  | validated (warnings : List String)
  | generated (result : GenerationResult)
  | executed
  | written (root : Path)

namespace Completion

def stage : Completion → Stage
  | .loaded _ => .load
  | .validated _ => .validate
  | .generated _ => .generate
  | .executed => .execute
  | .written _ => .write

def found : Completion → Progress → Progress
  | .loaded spec, p => { p with project := some spec.projectName }
  | .validated warnings, p => { p with warnings }
  | .generated result, p =>
    { p with
      artifacts := some (result.artifacts.map (·.path))
      invocations := some (result.invocations.map (·.commandLine)) }
  | .executed, p => p
  | .written root, p => { p with projectRoot := some root }

def note (c : Completion) (p : Progress) : Progress :=
  { c.found p with stages := p.stages ++ [c.stage] }

def noteAll (cs : List Completion) (p : Progress) : Progress := cs.foldl (fun p c => c.note p) p

theorem stages_noteAll (cs : List Completion) (p : Progress) :
    (noteAll cs p).stages = p.stages ++ cs.map stage := by
  induction cs generalizing p with
  | nil => exact (List.append_nil p.stages).symm
  | cons c cs ih =>
      have hnote : (c.note p).stages = p.stages ++ [c.stage] := rfl
      show (noteAll cs (c.note p)).stages = _
      rw [ih, hnote, List.append_assoc, List.singleton_append, List.map_cons]

theorem outcome_noteAll (cs : List Completion) (p : Progress) :
    (noteAll cs p).success = p.success ∧ (noteAll cs p).error = p.error := by
  induction cs generalizing p with
  | nil => exact ⟨rfl, rfl⟩
  | cons c cs ih =>
      have hnote : (c.note p).success = p.success ∧ (c.note p).error = p.error := by
        cases c <;> exact ⟨rfl, rfl⟩
      obtain ⟨hsuccess, herror⟩ := ih (c.note p)
      exact ⟨hsuccess.trans hnote.1, herror.trans hnote.2⟩

end Completion

/-- Steps that end with a completion and have noted it, or fail and have noted nothing. -/
def Completes (m : RunM α) (c : α → Completion) : Prop :=
  ∀ s, (∃ a s', runIn m s = (.ok a, s') ∧ s'.progress = (c a).note s.progress) ∨
    ∃ e s', runIn m s = (.error e, s') ∧ s'.progress = s.progress

theorem Silent.completes {m : RunM α} {f : α → RunM β} {c : β → Completion} (hm : Silent m)
    (hf : ∀ a, Completes (f a) c) : Completes (m >>= f) c := by
  intro s
  have hfirst := hm s
  cases hrun : runIn m s with
  | mk outcome s₁ =>
      rw [hrun] at hfirst
      cases outcome with
      | error e => exact .inr ⟨e, s₁, runIn_bind_error hrun, hfirst⟩
      | ok a =>
          rw [runIn_bind_ok hrun, ← hfirst]
          exact hf a s₁

theorem completes_throw (c : α → Completion) (e : RunError) :
    Completes (throw e : RunM α) c :=
  fun s => .inr ⟨e, s, rfl, rfl⟩

/-! ### The stages -/

theorem completes_load (site : Site) (path : Value) :
    Completes (load site path) Completion.loaded := by
  refine (silent_sayAll site _).completes fun _ => (silent_pathOf path).completes fun path =>
    silent_get.completes fun s => ?_
  cases SpecificationFile.load site.account s.tree site.current path with
  | error e => exact completes_throw _ _
  | ok spec => exact (silent_say site _).completes fun _ _ => .inl ⟨spec, _, rfl, rfl⟩

def warningsOf (settings : LooseSettings) (spec : Specification) : List String :=
  ((layout? settings).map fun layout =>
    (Check.issuesOf spec (some layout)).map Issue.text).getD []

theorem completes_validate (site : Site) (settings : LooseSettings) (spec : Specification) :
    Completes (validate site settings spec) fun _ => .validated (warningsOf settings spec) := by
  refine (silent_sayAll site _).completes fun _ => ?_
  rw [layoutOf]
  cases hlayout : settings.layout with
  | faulty faults => exact fun s => .inr ⟨_, s, rfl, rfl⟩
  | value layout =>
      rw [pure_bind]
      cases hcheck : checkSpecification spec (some layout) settings.isStrict with
      | error e => exact completes_throw _ _
      | ok issues =>
          have hwarnings : warningsOf settings spec = issues.map Issue.text := by
            obtain ⟨-, hissues⟩ := Check.findIssues_eq_ok.mp (Check.issues_of_ok hcheck)
            rw [warningsOf, layout?, hlayout, ← hissues]
            rfl
          have hnotes : Completes (note (fun p => { p with warnings := issues.map Issue.text })
              >>= fun _ => complete .validate) fun _ => .validated (warningsOf settings spec) :=
            fun s => .inl ⟨(), _, rfl, by rw [hwarnings]; rfl⟩
          refine (silent_sayAll site _).completes fun _ => ?_
          show Completes (if issues.isEmpty then _ else _) _
          split
          · exact (silent_say site _).completes fun _ => hnotes
          · exact (silent_pure ()).completes fun _ => hnotes

theorem completes_generate (site : Site) (settings : LooseSettings) (spec : Specification) :
    Completes (generate site settings spec) Completion.generated := by
  refine (silent_sayAll site _).completes fun _ => (silent_layoutOf settings).completes
    fun layout => ?_
  cases spec.generate layout settings.workspace with
  | error e => exact completes_throw _ _
  | ok result => exact (silent_say site _).completes fun _ _ => .inl ⟨result, _, rfl, rfl⟩

theorem completes_execute (site : Site) (settings : LooseSettings)
    (invocations : List Invocation) :
    Completes (execute site settings invocations) fun _ => .executed := by
  have hnotes : Completes (complete .execute) fun _ => .executed :=
    fun _ => .inl ⟨(), _, rfl, rfl⟩
  refine (silent_sayAll site _).completes fun _ => (silent_ensureDirectory site _).completes
    fun _ => (silent_issueAll site settings _ invocations).completes fun _ => ?_
  show Completes (if invocations.isEmpty then _ else _) _
  split
  · exact (silent_say site _).completes fun _ => hnotes
  · exact (silent_pure ()).completes fun _ => hnotes

theorem completes_write (site : Site) (settings : LooseSettings) (result : GenerationResult) :
    Completes (write site settings result) fun _ =>
      .written (settings.projectPath result.projectName) :=
  (silent_sayAll site _).completes fun _ => (silent_writeArtifacts site _ _).completes fun _ =>
    (silent_say site _).completes fun _ _ => .inl ⟨(), _, rfl, rfl⟩

end Formwork.Run
