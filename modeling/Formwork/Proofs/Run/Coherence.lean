import Formwork.Proofs.Run.Endings

/-!
What a run that has come back tells of itself. Everything that is noted belongs to a stage and is
there exactly if that stage is complete; so what the progress says about the stages, it says about
everything in it. And between the checks and the generation no run comes back: what the checks let
pass is generated, or the run fails in a way that it does not expect.
-/

namespace Formwork.Run

/-! ### What belongs to a stage -/

/-- What a stage finds is there exactly if the stage is complete. -/
structure Recorded (p : Progress) : Prop where
  project : p.project.isSome = true ↔ .load ∈ p.stages
  artifacts : p.artifacts.isSome = true ↔ .generate ∈ p.stages
  invocations : p.invocations.isSome = true ↔ .generate ∈ p.stages
  projectRoot : p.projectRoot.isSome = true ↔ .write ∈ p.stages

theorem recorded_nothing : Recorded {} := by constructor <;> simp

theorem Recorded.note {p : Progress} (h : Recorded p) (c : Completion) : Recorded (c.note p) := by
  obtain ⟨hproject, hartifacts, hinvocations, hroot⟩ := h
  cases c <;> constructor <;>
    simp [Completion.note, Completion.found, Completion.stage, hproject, hartifacts, hinvocations,
      hroot]

theorem Recorded.noteAll {p : Progress} (h : Recorded p) (cs : List Completion) :
    Recorded (Completion.noteAll cs p) := by
  induction cs generalizing p with
  | nil => exact h
  | cons c cs ih => exact ih (h.note c)

section

variable {site : Site} {settings : LooseSettings} {path : Value} {t : FileTree} {dry : Bool}
  {outcome outcome' : Except RunError Unit} {p q : Progress}

theorem Standing.recorded (h : Standing site settings path t dry {} outcome q) : Recorded q := by
  cases h with
  | halted hhalts =>
      cases hhalts with
      | loading => exact recorded_nothing
      | validating => exact recorded_nothing.noteAll _
      | generating => exact recorded_nothing.noteAll _
  | untold => exact recorded_nothing.noteAll _
  | told =>
      obtain ⟨hproject, hartifacts, hinvocations, hroot⟩ := recorded_nothing.noteAll _
      exact ⟨hproject, hartifacts, hinvocations, hroot⟩
  | unexecuted => exact recorded_nothing.noteAll _
  | unwritten => exact recorded_nothing.noteAll _
  | done =>
      obtain ⟨hproject, hartifacts, hinvocations, hroot⟩ := recorded_nothing.noteAll _
      exact ⟨hproject, hartifacts, hinvocations, hroot⟩

theorem Ends.recorded (h : Ends outcome q outcome' p) (hq : Recorded q) : Recorded p := by
  cases h with
  | passed => exact hq
  | noted => exact ⟨hq.project, hq.artifacts, hq.invocations, hq.projectRoot⟩
  | raised => exact hq

/-! ### Stages and warnings -/

/-- The warnings are the texts of all issues of the specification, in their order. -/
def Warned (site : Site) (settings : LooseSettings) (path : Value) (t : FileTree)
    (p : Progress) : Prop :=
  ∃ spec layout issues, loaded? site path t = some spec ∧ settings.layout = .value layout ∧
    findIssues spec (some layout) = .ok issues ∧ p.warnings = issues.map Issue.text

theorem layout_of_layout? {layout : Layout} (h : layout? settings = some layout) :
    settings.layout = .value layout := by
  rw [layout?] at h
  cases hread : settings.layout with
  | value layout' =>
      rw [hread] at h
      rw [Option.some.inj h]
  | faulty faults =>
      rw [hread] at h
      exact absurd h (by simp [Schema.Reading.toExcept, Except.toOption])

theorem warningsOf_eq {spec : Specification} (h : validated? settings spec = some ()) :
    ∃ layout issues, settings.layout = .value layout ∧
      findIssues spec (some layout) = .ok issues ∧
      warningsOf settings spec = issues.map Issue.text := by
  obtain ⟨layout, hlayout, hchecked⟩ := Option.bind_eq_some_iff.mp h
  have hwarnings : warningsOf settings spec =
      (Check.issuesOf spec (some layout)).map Issue.text := by
    rw [warningsOf, hlayout]
    rfl
  cases hcheck : checkSpecification spec (some layout) settings.isStrict with
  | error e =>
      rw [hcheck] at hchecked
      exact absurd hchecked (by simp [Except.toOption])
  | ok issues =>
      have hissues := Check.issues_of_ok hcheck
      obtain ⟨-, rfl⟩ := Check.findIssues_eq_ok.mp hissues
      exact ⟨layout, _, layout_of_layout? hlayout, hissues, hwarnings⟩

theorem warned_of_validated {spec : Specification} (hspec : loaded? site path t = some spec)
    (hvalid : validated? settings spec = some ())
    (hwarnings : p.warnings = warningsOf settings spec) : Warned site settings path t p := by
  obtain ⟨layout, issues, hlayout, hissues, htexts⟩ := warningsOf_eq hvalid
  exact ⟨spec, layout, issues, hspec, hlayout, hissues, hwarnings.trans htexts⟩

theorem Standing.warned (h : Standing site settings path t dry {} outcome q)
    (hmem : .validate ∈ q.stages) : Warned site settings path t q := by
  cases h with
  | halted hhalts =>
      cases hhalts with
      | loading => exact absurd hmem (by simp)
      | validating => exact absurd hmem (by simp [Completion.stages_noteAll, Completion.stage])
      | generating hspec hvalid => exact warned_of_validated hspec hvalid rfl
  | untold f _ hprepared => exact warned_of_validated hprepared.loaded hprepared.validated rfl
  | told _ hprepared => exact warned_of_validated hprepared.loaded hprepared.validated rfl
  | unexecuted e _ hprepared => exact warned_of_validated hprepared.loaded hprepared.validated rfl
  | unwritten e _ _ hprepared =>
      exact warned_of_validated hprepared.loaded hprepared.validated rfl
  | done _ hprepared => exact warned_of_validated hprepared.loaded hprepared.validated rfl

/-- Stages whose failure is noted, or that have passed, have not stopped behind the checks or
between the commands and the files. -/
theorem Standing.stages_of_returned (h : Standing site settings path t dry {} outcome q)
    (hreturns : Returns outcome) :
    q.stages ∈ [[], [.load], [.load, .validate, .generate], Stage.all] := by
  cases h with
  | halted hhalts =>
      cases hhalts with
      | loading => simp
      | validating => simp [Completion.stages_noteAll, Completion.stage]
      | generating _ _ hungenerated => exact absurd hungenerated.expected? (hreturns _ rfl)
  | untold => exact absurd rfl (hreturns _ rfl)
  | told => simp [Completion.stages_noteAll, Completion.stage, preparations]
  | unexecuted => simp [Completion.stages_noteAll, Completion.stage, preparations]
  | unwritten e _ hunexpected => exact absurd hunexpected (hreturns e rfl)
  | done =>
      simp [Completion.stages_noteAll, Completion.stage, preparations, conclusions, Stage.all]

theorem generate_mem_stages (spec : Specification) (result : GenerationResult)
    (cs : List Completion) (p : Progress) :
    .generate ∈ (Completion.noteAll (preparations settings spec result ++ cs) p).stages := by
  rw [Completion.stages_noteAll]
  simp [preparations, Completion.stage]

/-- With the checks everything is prepared, unless the generation fails, which ends the stages. -/
theorem Standing.generates (h : Standing site settings path t dry {} outcome q)
    (hvalidated : .validate ∈ q.stages) :
    (.generate ∈ q.stages ∧ ∃ spec result, Prepared site settings path t spec result) ∨
      ∃ spec e, loaded? site path t = some spec ∧ Ungenerated settings spec e ∧
        outcome = .error e ∧ q.stages = [.load, .validate] := by
  cases h with
  | halted hhalts =>
      cases hhalts with
      | loading => exact absurd hvalidated (by simp)
      | validating =>
          exact absurd hvalidated (by simp [Completion.stages_noteAll, Completion.stage])
      | generating hspec _ hungenerated =>
          exact .inr ⟨_, _, hspec, hungenerated, rfl,
            by simp [Completion.stages_noteAll, Completion.stage]⟩
  | untold _ _ hprepared => exact .inl ⟨generate_mem_stages _ _ [] {}, _, _, hprepared⟩
  | told _ hprepared => exact .inl ⟨generate_mem_stages _ _ [] {}, _, _, hprepared⟩
  | unexecuted _ _ hprepared => exact .inl ⟨generate_mem_stages _ _ [] {}, _, _, hprepared⟩
  | unwritten _ _ _ hprepared => exact .inl ⟨generate_mem_stages _ _ _ {}, _, _, hprepared⟩
  | done _ hprepared => exact .inl ⟨generate_mem_stages _ _ _ {}, _, _, hprepared⟩

end

theorem layout_loose (given : Settings) : given.loose.layout = .value given.layout := rfl

/-- With settings in which nothing was replaced a number that is too long is the only obstacle. -/
theorem Ungenerated.of_loose {given : Settings} {spec : Specification} {e : RunError}
    (h : Ungenerated given.loose spec e) :
    spec.isWritable given.layout = false ∧ e = .generation (.template Template.tooLong) := by
  cases h with
  | unrunnable _ hfaulty =>
      rw [Settings.workspace_loose, Settings.workspace] at hfaulty
      obtain ⟨faults', installs, hskeleton⟩ := Skeleton.eq_of_faulty hfaulty
      cases hgiven : given.skeleton with
      | cli =>
          rw [hgiven] at hskeleton
          exact absurd hskeleton (by simp)
      | direct =>
          rw [hgiven] at hskeleton
          exact absurd hskeleton (by simp)
  | oversized hlayout hlong =>
      obtain rfl := Schema.Reading.value.inj ((layout_loose given).symm.trans hlayout)
      exact ⟨hlong, rfl⟩

theorem isWritable_of_generated {given : Settings} {spec : Specification}
    {result : GenerationResult} (h : generated? given.loose spec = some result) :
    spec.isWritable given.layout = true := by
  obtain ⟨layout, hlayout, hresult⟩ := Option.bind_eq_some_iff.mp h
  obtain rfl := Schema.Reading.value.inj
    ((layout_loose given).symm.trans (layout_of_layout? hlayout))
  cases hgenerate : spec.generate given.layout given.loose.workspace with
  | error e =>
      rw [hgenerate] at hresult
      exact absurd hresult (by simp [Except.toOption])
  | ok made => exact (Specification.of_generate_ok hgenerate).2.1

theorem Prepared.isWritable {site : Site} {given : Settings} {path : Value} {t : FileTree}
    {spec : Specification} {result : GenerationResult}
    (h : Prepared site given.loose path t spec result) : spec.isWritable given.layout = true :=
  isWritable_of_generated h.generated

theorem Prepared.isTellable {site : Site} {given : Settings} {path : Value} {t : FileTree}
    {spec : Specification} {result : GenerationResult}
    (h : Prepared site given.loose path t spec result) :
    spec.isTellable (some given.layout) = true := by
  obtain ⟨layout, issues, hlayout, hissues, -⟩ := warningsOf_eq h.validated
  obtain rfl := Schema.Reading.value.inj ((layout_loose given).symm.trans hlayout)
  exact (Check.findIssues_eq_ok.mp hissues).1

theorem prepared_of_success {site : Site} {settings : LooseSettings} {path : Value} {dry : Bool}
    {s : Session} (hs : s.progress = {})
    (h : (s.run site settings path dry).2.progress.success = true) :
    ∃ spec result, Prepared site settings path s.tree spec result := by
  obtain ⟨hok, hstages⟩ := (run_ending site settings path dry hs).success_iff.mp h
  obtain ⟨outcome, q, hstanding, hends⟩ := run_standing site settings path dry s
  rw [hs] at hstanding
  have hdue : ∀ dry, .validate ∈ Stage.due dry := by decide
  have hvalidated : .validate ∈ q.stages := by
    rw [← hends.stages.1, hstages]
    exact hdue dry
  rcases hstanding.generates hvalidated with ⟨-, hprepared⟩ | ⟨_, e, _, hungenerated, rfl, -⟩
  · exact hprepared
  · exact absurd (hok.symm.trans (hends.raises hungenerated.expected?)) (by simp)

/-- The notes of a run that has come back go together. -/
structure Coherent (site : Site) (settings : LooseSettings) (path : Value) (t : FileTree)
    (dry : Bool) (p : Progress) : Prop extends Recorded p where
  stages : p.stages ∈ [[], [.load], [.load, .validate, .generate], Stage.all]
  success : p.success = true ↔
    p.stages = Stage.all ∨ (dry = true ∧ p.stages = [.load, .validate, .generate])
  error : p.error.isSome = true ↔ p.success = false
  warnings : .validate ∈ p.stages → Warned site settings path t p

theorem coherent_of_returned {site : Site} {settings : LooseSettings} {path : Value} {t : FileTree}
    {dry : Bool} {outcome outcome' : Except RunError Unit} {p q : Progress}
    (hstanding : Standing site settings path t dry {} outcome q)
    (hends : Ends outcome q outcome' p) (hending : Ending dry outcome' p)
    (hok : outcome' = .ok ()) : Coherent site settings path t dry p := by
  obtain ⟨hstages, hwarnings⟩ := hends.stages
  have hsuccess : p.success = true ↔ p.stages = Stage.due dry := by
    rw [hending.success_iff, and_iff_right hok]
  have herror : p.error.isSome = true ↔ p.stages ≠ Stage.due dry := by
    rw [hending.isSome_error_iff, and_iff_right hok]
  have hprefix : p.stages <+: Stage.due dry := by
    cases hending with
    | completed hdue => exact hdue ▸ List.prefix_rfl
    | aborted reason hprefix => exact hprefix
    | raised => exact absurd hok (by simp)
  refine { hends.recorded hstanding.recorded with
    stages := hstages ▸ hstanding.stages_of_returned (hends.returns hok)
    success := ?_
    error := ?_
    warnings := fun hvalidated => ?_ }
  · rw [hsuccess]
    cases dry with
    | true =>
        -- a dry run has no stages but those that are due
        have hfew : p.stages ≠ Stage.all := fun hall => by
          rw [hall] at hprefix
          exact absurd hprefix (by decide)
        simp [Stage.due, hfew]
    | false => simp [Stage.due]
  · rw [herror, ne_eq, ← hsuccess, Bool.not_eq_true]
  · obtain ⟨spec, layout, issues, hspec, hlayout, hissues, htexts⟩ :=
      hstanding.warned (hstages ▸ hvalidated)
    exact ⟨spec, layout, issues, hspec, hlayout, hissues, hwarnings.trans htexts⟩

end Formwork.Run

namespace Formwork

open Run

/-- What a run tells of itself in a session that nothing has happened in. If it comes back, its
notes go together: it has succeeded or noted a failure, it has stopped at the beginning, behind the
first stage or before the commands, or not at all, and each thing is noted exactly if its stage is
complete. What has passed the checks is generated, or the run does not come back; with settings in
which nothing was replaced it is generated exactly if no number in it is too long to be written. -/
theorem Session.run_coherent (site : Site) (settings : LooseSettings) (path : Value) (dry : Bool)
    (tree : FileTree) (replies : List Reply) (console : String) :
    let s : Session := { tree, replies, console }
    let (outcome, after) := s.run site settings path dry
    (outcome = .ok () → Coherent site settings path tree dry after.progress) ∧
      (.validate ∈ after.progress.stages → .generate ∈ after.progress.stages ∨
        ∃ spec e, loaded? site path tree = some spec ∧ outcome = .error e ∧
          Ungenerated settings spec e) ∧
      ∀ given : Settings, settings = given.loose → .validate ∈ after.progress.stages →
        ∃ spec, loaded? site path tree = some spec ∧
          (.generate ∈ after.progress.stages ↔ spec.isWritable given.layout = true) ∧
          (spec.isWritable given.layout = false →
            outcome = .error (.generation (.template Template.tooLong)) ∧
              after.progress.stages = [.load, .validate]) := by
  intro s
  have hending := run_ending site settings path dry (s := s) rfl
  obtain ⟨outcome₁, q, hstanding, hends⟩ := run_standing site settings path dry s
  cases hrun : s.run site settings path dry with
  | mk outcome after =>
      rw [hrun] at hending hends
      have hstages : after.progress.stages = q.stages := hends.stages.1
      simp only [hstages]
      refine ⟨fun hok => ?_, fun hvalidated => ?_, fun given hgiven hvalidated => ?_⟩
      · exact coherent_of_returned hstanding hends hending hok
      · rcases hstanding.generates hvalidated with
          ⟨hgenerated, -⟩ | ⟨spec, e, hspec, hungenerated, rfl, -⟩
        · exact .inl hgenerated
        · exact .inr ⟨spec, e, hspec, hends.raises hungenerated.expected?, hungenerated⟩
      · subst hgiven
        rcases hstanding.generates hvalidated with
          ⟨hgenerated, spec, result, hprepared⟩ | ⟨spec, e, hspec, hungenerated, rfl, hstopped⟩
        · refine ⟨spec, hprepared.loaded, iff_of_true hgenerated hprepared.isWritable, ?_⟩
          rw [hprepared.isWritable]
          exact fun h => absurd h (by decide)
        · have houtcome := hends.raises hungenerated.expected?
          obtain ⟨hlong, rfl⟩ := hungenerated.of_loose
          refine ⟨spec, hspec, ?_, fun _ => ⟨houtcome, hstopped⟩⟩
          rw [hlong, hstopped]
          decide

end Formwork
