import Formwork.Proofs.Run.Standing

/-!
How a run ends. Each stage notes itself when it is complete, and nothing else that a run notes on
its way tells how far it is. So the stages that a run has noted are the first of those that are due;
it has noted all of them and its success, or it has noted why it was aborted, or it has passed a
failure on and noted neither.
-/

namespace Formwork

/-- The stages that are due in a run. A dry run has no commands and no files. -/
def Stage.due (dry : Bool) : List Stage := if dry then [.load, .validate, .generate] else Stage.all

end Formwork

namespace Formwork.Run

/-! ### The stages -/

/-- How far the stages have come, where nothing was noted before. All that are due are noted with
the success; where they fail, the first ones are noted, and not all of them if the run notes the
failure. -/
structure Reached (dry : Bool) (outcome : Except RunError Unit) (q : Progress) : Prop where
  stages : q.stages <+: Stage.due dry
  error : q.error = none
  passed : outcome = .ok () → q.stages = Stage.due dry ∧ q.success = true
  failed : ∀ e, outcome = .error e → q.success = false ∧
    (q.stages = Stage.due dry → e.expected? = none)

section

variable {site : Site} {settings : LooseSettings} {path : Value} {t : FileTree} {dry : Bool}

theorem reached_of_failed {e : RunError} {cs : List Completion} (stages : List Stage)
    (hcs : cs.map Completion.stage = stages) (hstages : stages <+: Stage.due dry)
    (hdue : stages = Stage.due dry → e.expected? = none) :
    Reached dry (.error e) (Completion.noteAll cs {}) where
  stages := by rw [Completion.stages_noteAll, hcs]; exact hstages
  error := (Completion.outcome_noteAll cs {}).2
  passed hok := absurd hok (by simp)
  failed e' he := by
    refine ⟨(Completion.outcome_noteAll cs {}).1, fun heq => ?_⟩
    rw [Completion.stages_noteAll, hcs] at heq
    exact Except.error.inj he ▸ hdue heq

theorem reached_of_passed {cs : List Completion}
    (hstages : cs.map Completion.stage = Stage.due dry) :
    Reached dry (.ok ()) { Completion.noteAll cs {} with success := true } where
  stages := by rw [Completion.stages_noteAll]; exact hstages ▸ List.prefix_rfl
  error := (Completion.outcome_noteAll cs {}).2
  passed _ := ⟨(Completion.stages_noteAll cs {}).trans hstages, rfl⟩
  failed e he := absurd he (by simp)

theorem Standing.reached {outcome : Except RunError Unit} {q : Progress}
    (h : Standing site settings path t dry {} outcome q) : Reached dry outcome q := by
  have hnone : ∀ dry, [] ≠ Stage.due dry := by decide
  have hloaded : ∀ dry, [Stage.load] <+: Stage.due dry ∧ [Stage.load] ≠ Stage.due dry := by decide
  have hvalidated : ∀ dry, [Stage.load, .validate] <+: Stage.due dry := by decide
  cases h with
  | halted hhalts =>
      cases hhalts with
      | loading =>
          show Reached dry (.error _) (Completion.noteAll [] {})
          exact reached_of_failed [] rfl List.nil_prefix fun hall => absurd hall (hnone dry)
      | validating =>
          exact reached_of_failed [.load] rfl (hloaded dry).1
            fun hall => absurd hall (hloaded dry).2
      | generating _ _ hunrunnable =>
          exact reached_of_failed [.load, .validate] rfl (hvalidated dry)
            fun _ => hunrunnable.expected?
  | untold f hdry _ =>
      rw [hdry]
      exact reached_of_failed [.load, .validate, .generate] rfl List.prefix_rfl fun _ => rfl
  | told hdry _ => exact reached_of_passed (by rw [hdry]; rfl)
  | unexecuted e hdry _ =>
      rw [hdry]
      exact reached_of_failed [.load, .validate, .generate] rfl (by decide)
        fun hall => absurd hall (by decide)
  | unwritten e hdry hunexpected _ =>
      rw [hdry]
      exact reached_of_failed [.load, .validate, .generate, .execute] rfl (by decide)
        fun _ => hunexpected
  | done hdry _ => exact reached_of_passed (by rw [hdry]; rfl)

end

/-! ### The run -/

inductive Ending (dry : Bool) : Except RunError Unit → Progress → Prop
  | completed {p : Progress} : p.stages = Stage.due dry → p.success = true → p.error = none →
      Ending dry (.ok ()) p
  | aborted {p : Progress} (reason : String) : p.stages <+: Stage.due dry →
      p.stages ≠ Stage.due dry → p.success = false → p.error = some reason → Ending dry (.ok ()) p
  | raised {p : Progress} (e : RunError) : p.stages <+: Stage.due dry → p.success = false →
      p.error = none → Ending dry (.error e) p

theorem Ending.success_iff {dry : Bool} {outcome : Except RunError Unit} {p : Progress}
    (h : Ending dry outcome p) :
    p.success = true ↔ outcome = .ok () ∧ p.stages = Stage.due dry := by
  cases h with
  | completed hstages hsuccess _ => simp [hstages, hsuccess]
  | aborted reason _ hstages hsuccess _ => simp [hstages, hsuccess]
  | raised e _ hsuccess _ => simp [hsuccess]

theorem Ending.isSome_error_iff {dry : Bool} {outcome : Except RunError Unit} {p : Progress}
    (h : Ending dry outcome p) :
    p.error.isSome = true ↔ outcome = .ok () ∧ p.stages ≠ Stage.due dry := by
  cases h with
  | completed hstages _ herror => simp [hstages, herror]
  | aborted reason _ hstages _ herror => simp [hstages, herror]
  | raised e _ _ herror => simp [herror]

theorem run_ending (site : Site) (settings : LooseSettings) (path : Value) (dry : Bool)
    {s : Session} (hs : s.progress = {}) :
    Ending dry (s.run site settings path dry).1 (s.run site settings path dry).2.progress := by
  obtain ⟨outcome, q, hstanding, hends⟩ := run_standing site settings path dry s
  rw [hs] at hstanding
  have hreached := hstanding.reached
  generalize (s.run site settings path dry).1 = outcome',
    (s.run site settings path dry).2.progress = p at hends
  cases hends with
  | passed =>
      obtain ⟨hstages, hsuccess⟩ := hreached.passed rfl
      exact .completed hstages hsuccess hreached.error
  | @noted e q reason hreason =>
      obtain ⟨hsuccess, hdue⟩ := hreached.failed e rfl
      refine .aborted reason hreached.stages (fun hall => ?_) hsuccess rfl
      exact absurd ((hdue hall).symm.trans hreason) (by simp)
  | @raised e q _ =>
      exact .raised e hreached.stages (hreached.failed e rfl).1 hreached.error

end Formwork.Run
