import Formwork.Proofs.Console.Headings
import Formwork.Proofs.Generation.History
import Formwork.Proofs.Run.Completions

/-!
How far a run comes. The stages of a run are completed in order up to the first that fails, and each
of them may fail in some way, with one exception: what the checks let pass is generated, unless a
number in it is too long to be written or the commands of its workspace cannot be put together at
all. Then the run ends in the way its failure calls for: it notes the failure, or passes it on.
-/

namespace Formwork.Run

/-! ### Generating what is validated -/

theorem say_ok {site : Site} {item : Console.Item}
    (h : ∃ out, item.output site.width = .ok out) (s : Session) :
    ∃ s', runIn (say site item) s = (.ok (), s') := by
  obtain ⟨out, hout⟩ := h
  rw [say, hout]
  exact ⟨_, rfl⟩

theorem sayAll_ok {site : Site} {items : List Console.Item}
    (h : ∀ item ∈ items, ∃ out, item.output site.width = .ok out) (s : Session) :
    ∃ s', runIn (sayAll site items) s = (.ok (), s') := by
  induction items generalizing s with
  | nil => exact ⟨s, rfl⟩
  | cons item items ih =>
      obtain ⟨s₁, hsay⟩ := say_ok (h item List.mem_cons_self) s
      obtain ⟨s₂, hrest⟩ := ih (fun i hi => h i (List.mem_cons_of_mem item hi)) s₁
      exact ⟨s₂, (runIn_bind_ok hsay).trans hrest⟩

theorem bracket_not_mem_toDigits (n : Nat) : '[' ∉ Nat.toDigits 10 n := fun h =>
  absurd (Nat.isDigit_of_mem_toDigits (by decide) (by decide) h) (by decide)

/-- Why a specification that the checks let pass is not generated: the commands of its workspace
cannot be put together, or a number in it is too long to be written. -/
inductive Ungenerated (settings : LooseSettings) (spec : Specification) : RunError → Prop
  | unrunnable {layout : Layout} {faults : List Schema.Fault}
    (hlayout : settings.layout = .value layout)
    (hfaulty : settings.workspace.invocations spec layout = .faulty faults) :
    Ungenerated settings spec (.generation (.invocation faults))
  | oversized {layout : Layout} (hlayout : settings.layout = .value layout)
    (hlong : spec.isWritable layout = false) :
    Ungenerated settings spec (.generation (.template Template.tooLong))

theorem Ungenerated.expected? {settings : LooseSettings} {spec : Specification} {e : RunError}
    (h : Ungenerated settings spec e) : e.expected? = none := by
  cases h <;> rfl

theorem components_ne_nil_of_validated {settings : LooseSettings} {spec : Specification}
    (h : validated? settings spec = some ()) : spec.components ≠ [] := by
  obtain ⟨layout, -, hchecked⟩ := Option.bind_eq_some_iff.mp h
  cases hcheck : checkSpecification spec (some layout) settings.isStrict with
  | error e =>
      rw [hcheck] at hchecked
      exact absurd hchecked (by simp [Except.toOption])
  | ok issues => exact Check.components_of_ok hcheck

/-- On what the checks have let pass the stage of the generation fails for two reasons only. -/
theorem generate_error {site : Site} {settings : LooseSettings} {spec : Specification}
    {s s' : Session} {e : RunError} (hvalid : validated? settings spec = some ())
    (h : runIn (generate site settings spec) s = (.error e, s')) : Ungenerated settings spec e := by
  obtain ⟨s₁, hsay⟩ := sayAll_ok (Report.stage_output .generate site.width) s
  obtain ⟨layout, hlayout, -⟩ := Option.bind_eq_some_iff.mp hvalid
  rw [generate, runIn_bind_ok hsay, layoutOf] at h
  cases hread : settings.layout with
  | faulty faults =>
      rw [layout?, hread] at hlayout
      exact absurd hlayout (by simp [Schema.Reading.toExcept, Except.toOption])
  | value layout' =>
      rw [hread, pure_bind] at h
      have houtcome := Generator.generate_outcome
        { spec, layout := layout', skeleton := settings.workspace }
      rw [Specification.generate] at h
      generalize Generator.generate { spec, layout := layout', skeleton := settings.workspace } =
        generation at h houtcome
      cases houtcome with
      | refused hempty => exact absurd hempty (components_ne_nil_of_validated hvalid)
      | @unrunnable faults _ hfaulty =>
          have he : RunError.ofGeneration (.invocation faults) = e :=
            Except.error.inj (congrArg Prod.fst h)
          exact he ▸ .unrunnable hread hfaulty
      | oversized _ _ hlong =>
          have he : RunError.ofGeneration (.template Template.tooLong) = e :=
            Except.error.inj (congrArg Prod.fst h)
          exact he ▸ .oversized hread hlong
      | @finished artifacts invocations =>
          -- the line that tells of the result has no tags
          have hplain : '[' ∉ ("  Generated " ++ toString artifacts.length ++ " artifact(s), " ++
              toString invocations.length ++ " command(s) to run").toList := by
            simp [String.toList_append, bracket_not_mem_toDigits]
          obtain ⟨s₂, hannounced⟩ :=
            say_ok (Console.Item.output_text (Console.Markup.wellFormed_of_not_mem hplain)
              site.width) s₁
          simp only at h
          rw [runIn_bind_ok hannounced] at h
          have hok : (Except.ok _ : Except RunError GenerationResult) = .error e :=
            congrArg Prod.fst h
          exact absurd hok (by simp)

/-! ### The stages in order -/

/-- What a run prepares for its commands: the specification that it loads and validates, and what it
generates for it. -/
structure Prepared (site : Site) (settings : LooseSettings) (path : Value) (t : FileTree)
    (spec : Specification) (result : GenerationResult) : Prop where
  loaded : loaded? site path t = some spec
  validated : validated? settings spec = some ()
  generated : generated? settings spec = some result

def preparations (settings : LooseSettings) (spec : Specification) (result : GenerationResult) :
    List Completion :=
  [.loaded spec, .validated (warningsOf settings spec), .generated result]

def conclusions (settings : LooseSettings) (result : GenerationResult) : List Completion :=
  [.executed, .written (settings.projectPath result.projectName)]

/-- Which of the stages before the commands has failed, and what is noted then. A failure that the
run notes is one of the stage itself. -/
inductive Halts (site : Site) (settings : LooseSettings) (path : Value) (t : FileTree)
    (p : Progress) : RunError → Progress → Prop
  | loading {e : RunError} : e.expected? = none ∨ loaded? site path t = none →
      Halts site settings path t p e p
  | validating {spec : Specification} {e : RunError} : loaded? site path t = some spec →
      e.expected? = none ∨ validated? settings spec = none →
      Halts site settings path t p e (Completion.noteAll [.loaded spec] p)
  | generating {spec : Specification} {e : RunError} : loaded? site path t = some spec →
      validated? settings spec = some () → Ungenerated settings spec e →
      Halts site settings path t p e
        (Completion.noteAll [.loaded spec, .validated (warningsOf settings spec)] p)

/-- How far the stages of a run have come when they end, and what is noted then. -/
inductive Standing (site : Site) (settings : LooseSettings) (path : Value) (t : FileTree)
    (dry : Bool) (p : Progress) : Except RunError Unit → Progress → Prop
  | halted {e : RunError} {q : Progress} : Halts site settings path t p e q →
      Standing site settings path t dry p (.error e) q
  | untold {spec : Specification} {result : GenerationResult} (f : Console.RenderError) :
      dry = true → Prepared site settings path t spec result →
      Standing site settings path t dry p (.error (.markup f))
        (Completion.noteAll (preparations settings spec result) p)
  | told {spec : Specification} {result : GenerationResult} : dry = true →
      Prepared site settings path t spec result →
      Standing site settings path t dry p (.ok ())
        { Completion.noteAll (preparations settings spec result) p with success := true }
  | unexecuted {spec : Specification} {result : GenerationResult} (e : RunError) : dry = false →
      Prepared site settings path t spec result →
      Standing site settings path t dry p (.error e)
        (Completion.noteAll (preparations settings spec result) p)
  | unwritten {spec : Specification} {result : GenerationResult} (e : RunError) : dry = false →
      e.expected? = none → Prepared site settings path t spec result →
      Standing site settings path t dry p (.error e)
        (Completion.noteAll (preparations settings spec result ++ [.executed]) p)
  | done {spec : Specification} {result : GenerationResult} : dry = false →
      Prepared site settings path t spec result →
      Standing site settings path t dry p (.ok ())
        { Completion.noteAll (preparations settings spec result ++ conclusions settings result) p
          with success := true }

theorem Completes.computed {α : Type} {m : RunM α} {c : α → Completion}
    {value : FileTree → Option α} (hc : Completes m c) (hm : Computes m value) (s : Session) :
    (∃ a s', runIn m s = (.ok a, s') ∧ s'.progress = (c a).note s.progress ∧ s'.tree = s.tree ∧
      value s.tree = some a) ∨
    ∃ e s', runIn m s = (.error e, s') ∧ s'.progress = s.progress ∧
      (e.expected? = none ∨ value s.tree = none) := by
  obtain ⟨hsame, htells⟩ := hm s
  rcases hc s with ⟨a, s', hrun, hprogress⟩ | ⟨e, s', hrun, hprogress⟩
  · rw [hrun] at hsame htells
    exact .inl ⟨a, s', hrun, hprogress, hsame.tree, htells⟩
  · rw [hrun] at htells
    exact .inr ⟨e, s', hrun, hprogress, htells⟩

theorem prepare_halts (site : Site) (settings : LooseSettings) (path : Value) (s : Session) :
    (∃ spec result s', runIn (prepare site settings path) s = (.ok result, s') ∧
      Prepared site settings path s.tree spec result ∧
      s'.progress = Completion.noteAll (preparations settings spec result) s.progress) ∨
    ∃ e s', runIn (prepare site settings path) s = (.error e, s') ∧
      Halts site settings path s.tree s.progress e s'.progress := by
  obtain ⟨spec, s₁, hload, hp₁, -, hspec⟩ | ⟨e, s₁, hload, hp₁, he⟩ :=
    (completes_load site path).computed (computes_load site path) s
  case inr => exact .inr ⟨e, s₁, runIn_bind_error hload, hp₁ ▸ .loading he⟩
  obtain ⟨u, s₂, hvalidate, hp₂, -, hvalid⟩ | ⟨e, s₂, hvalidate, hp₂, he⟩ :=
    (completes_validate site settings spec).computed (computes_validate site settings spec) s₁
  case inr =>
    refine .inr ⟨e, s₂, (runIn_bind_ok hload).trans (runIn_bind_error hvalidate), ?_⟩
    rw [hp₂, hp₁]
    exact .validating hspec he
  have hgenerates : runIn (prepare site settings path) s =
      runIn (generate site settings spec) s₂ :=
    (runIn_bind_ok hload).trans (runIn_bind_ok hvalidate)
  obtain ⟨result, s₃, hgenerate, hp₃, -, hresult⟩ | ⟨e, s₃, hgenerate, hp₃, -⟩ :=
    (completes_generate site settings spec).computed (computes_generate site settings spec) s₂
  · refine .inl ⟨spec, result, s₃, hgenerates.trans hgenerate, ⟨hspec, hvalid, hresult⟩, ?_⟩
    rw [hp₃, hp₂, hp₁]
    rfl
  · refine .inr ⟨e, s₃, hgenerates.trans hgenerate, ?_⟩
    rw [hp₃, hp₂, hp₁]
    exact .generating hspec hvalid (generate_error hvalid hgenerate)

theorem sayAll_cases (site : Site) (items : List Console.Item) (s : Session) :
    ∃ s', runIn (sayAll site items) s = (.ok (), s') ∨
      ∃ f, runIn (sayAll site items) s = (.error (.markup f), s') := by
  induction items generalizing s with
  | nil => exact ⟨s, .inl rfl⟩
  | cons item items ih =>
      cases houtput : item.output site.width with
      | error f =>
          have hsay : runIn (say site item) s = (.error (.markup f), s) := by
            rw [say, houtput]
            rfl
          exact ⟨s, .inr ⟨f, runIn_bind_error hsay⟩⟩
      | ok out =>
          obtain ⟨s₁, hsay⟩ := say_ok ⟨out, houtput⟩ s
          obtain ⟨s₂, hrest⟩ := ih s₁
          refine ⟨s₂, ?_⟩
          rw [sayAll, runIn_bind_ok hsay]
          exact hrest

theorem reportPlan_eq (site : Site) (result : GenerationResult) :
    reportPlan site result =
      sayAll site (Report.warning "Dry run: skipping command execution and file writes." ::
        Report.summary (planRows result) ("Plan for " ++ result.projectName)) := rfl

/-- A dry run tells its plan if it can, and one that is not dry passes the last two stages. -/
theorem conclude_standing {site : Site} {settings : LooseSettings} {path : Value} {t : FileTree}
    {p : Progress} {spec : Specification} {result : GenerationResult}
    (hprepared : Prepared site settings path t spec result) (dry : Bool) {s : Session}
    (hs : s.progress = Completion.noteAll (preparations settings spec result) p) :
    ∃ outcome s', runIn (conclude Writer.writeAll site settings dry result) s = (outcome, s') ∧
      Standing site settings path t dry p outcome s'.progress := by
  cases dry with
  | true =>
      have hsilent := silent_reportPlan site result s
      obtain ⟨s₁, hreport | ⟨f, hreport⟩⟩ : ∃ s', runIn (reportPlan site result) s = (.ok (), s') ∨
          ∃ f, runIn (reportPlan site result) s = (.error (.markup f), s') := by
        rw [reportPlan_eq]
        exact sayAll_cases site _ s
      · rw [hreport, hs] at hsilent
        refine ⟨_, _, runIn_bind_ok hreport, ?_⟩
        show Standing site settings path t true p (.ok ()) { s₁.progress with success := true }
        rw [hsilent]
        exact .told rfl hprepared
      · rw [hreport, hs] at hsilent
        exact ⟨_, _, runIn_bind_error hreport, hsilent ▸ .untold f rfl hprepared⟩
  | false =>
      obtain ⟨u, s₁, hexecute, hp₁⟩ | ⟨e, s₁, hexecute, hp₁⟩ :=
        completes_execute site settings result.invocations s
      case inr =>
        exact ⟨_, _, runIn_bind_error hexecute, (hp₁.trans hs) ▸ .unexecuted e rfl hprepared⟩
      obtain ⟨outcome, s₂, hwrite, -, hunexpected⟩ :=
        runIn_writeWith Writer.writeAll site settings result s₁
      obtain ⟨u, s₃, hwritten, hp₂⟩ | ⟨e, s₃, hwritten, hp₂⟩ :=
        completes_write site settings result s₁
      · refine ⟨_, _, (runIn_bind_ok hexecute).trans (runIn_bind_ok hwritten), ?_⟩
        show Standing site settings path t false p (.ok ()) { s₃.progress with success := true }
        rw [hp₂, hp₁, hs]
        exact .done rfl hprepared
      · have he : e.expected? = none :=
          hunexpected e (congrArg Prod.fst (hwrite.symm.trans hwritten))
        refine ⟨_, _, (runIn_bind_ok hexecute).trans (runIn_bind_error hwritten), ?_⟩
        rw [hp₂, hp₁, hs]
        exact .unwritten e rfl he hprepared

theorem stages_standing (site : Site) (settings : LooseSettings) (path : Value) (dry : Bool)
    (s : Session) :
    ∃ outcome s', runIn (stagesWith Writer.writeAll site settings path dry) s = (outcome, s') ∧
      Standing site settings path s.tree dry s.progress outcome s'.progress := by
  obtain ⟨spec, result, s₁, hprepare, hprepared, hp⟩ | ⟨e, s₁, hprepare, hhalts⟩ :=
    prepare_halts site settings path s
  · obtain ⟨outcome, s₂, hconclude, hstanding⟩ := conclude_standing hprepared dry hp
    exact ⟨outcome, s₂, (runIn_bind_ok hprepare).trans hconclude, hstanding⟩
  · exact ⟨_, _, runIn_bind_error hprepare, .halted hhalts⟩

/-! ### The run -/

/-- How a run ends once its stages have ended: they have passed, or the run notes their failure, or
it passes the failure on. -/
inductive Ends : Except RunError Unit → Progress → Except RunError Unit → Progress → Prop
  | passed {q : Progress} : Ends (.ok ()) q (.ok ()) q
  | noted {e : RunError} {q : Progress} {reason : String} : e.expected? = some reason →
      Ends (.error e) q (.ok ()) { q with error := some reason }
  | raised {e : RunError} {q : Progress} : e.expected? = none → Ends (.error e) q (.error e) q

section

variable {outcome outcome' : Except RunError Unit} {p q : Progress}

theorem Ends.stages (h : Ends outcome q outcome' p) :
    p.stages = q.stages ∧ p.warnings = q.warnings := by
  cases h <;> exact ⟨rfl, rfl⟩

theorem Ends.returns (h : Ends outcome q outcome' p) (hok : outcome' = .ok ()) :
    Returns outcome := by
  intro e he
  cases h with
  | passed => exact absurd he (by simp)
  | noted hreason => rw [← Except.error.inj he, hreason]; simp
  | raised => exact absurd hok (by simp)

theorem Ends.of_passed (h : Ends (.ok ()) q outcome' p) : outcome' = .ok () ∧ p = q := by
  cases h
  exact ⟨rfl, rfl⟩

theorem Ends.raises {e : RunError} (h : Ends (.error e) q outcome' p) (he : e.expected? = none) :
    outcome' = .error e := by
  cases h with
  | noted hreason => exact absurd (he.symm.trans hreason) (by simp)
  | raised => rfl

end

/-- The stages of a run come as far as they can, and the run ends accordingly. -/
theorem run_standing (site : Site) (settings : LooseSettings) (path : Value) (dry : Bool)
    (s : Session) :
    ∃ outcome q, Standing site settings path s.tree dry s.progress outcome q ∧
      Ends outcome q (s.run site settings path dry).1
        (s.run site settings path dry).2.progress := by
  rw [run_eq_runWith]
  obtain ⟨s₁, hs₁, hp₁, ⟨e, he, hbanner⟩ | hbehind⟩ := runWith_cases site settings path dry s
  case inl =>
    rw [hbanner, ← hp₁]
    exact ⟨.error e, s₁.progress, .halted (.loading (.inl he)), .raised he⟩
  obtain ⟨outcome, s₂, hstages, hstanding⟩ := stages_standing site settings path dry s₁
  rw [hp₁, hs₁.tree] at hstanding
  refine ⟨outcome, s₂.progress, hstanding, ?_⟩
  rw [hbehind]
  cases outcome with
  | ok u =>
      rw [runIn_tryCatch_ok hstages]
      exact .passed
  | error e =>
      rw [runIn_tryCatch_error hstages]
      cases hreason : e.expected? with
      | none =>
          rw [runIn_recover_unexpected site hreason]
          exact .raised hreason
      | some reason =>
          obtain ⟨s₃, hrecover, -, hprogress⟩ := runIn_recover site hreason s₂
          rw [hrecover, hprogress]
          exact .noted hreason

end Formwork.Run
