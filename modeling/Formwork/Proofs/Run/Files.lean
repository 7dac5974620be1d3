import Formwork.Proofs.Run.Territory
import Formwork.Proofs.Writer.Frame

/-!
Files of a run. No stage before the last one changes a file, and a failure that a run notes comes
before the last stage; so what a run has noted as its failure has left every file as it was. The
last stage is no single step: when it fails on a file, or on what it tells when it is done, the
files that it has written stay, and the run passes the failure on. These are the only failures that
leave a file behind.
-/

namespace Formwork

/-- A failure of the last stage, once it has begun to write. -/
def RunError.Late : RunError → Prop
  | .write e => Writer.Late e
  | .markup _ => True
  | _ => False

theorem RunError.Late.expected? {e : RunError} (h : e.Late) : e.expected? = none := by
  cases e with
  | stage f => exact h.elim
  | specification e => exact h.elim
  | _ => rfl

end Formwork

namespace Formwork.Run

open FileTree

/-! ### Steps that change no file -/

theorem content?_execute (site : Site) (settings : LooseSettings) (invocations : List Invocation)
    (s : Session) (place : Place) :
    (runIn (execute site settings invocations) s).2.tree.content? place = s.tree.content? place :=
  (changesWithin_execute site settings invocations s).content? id

/-! ### The last stage -/

/-- The file at a place belongs to one of some artifacts, as they are written below a directory. -/
def IsTarget (site : Site) (root : Path) (artifacts : List Artifact) (place : Place) : Prop :=
  ∃ a ∈ artifacts, ∃ target, Writer.target site.current root a = .ok target ∧
    place = Writer.led target

/-- Having artifacts written changes their files only, and where it has changed one and fails, it
fails late. -/
theorem writeArtifacts_changed {site : Site} {root : Path} {artifacts : List Artifact}
    {s s' : Session} {outcome : Except RunError Nat}
    (hrun : runIn (writeArtifactsWith Writer.writeAll site root artifacts) s = (outcome, s'))
    {place : Place} (h : s'.tree.content? place ≠ s.tree.content? place) :
    IsTarget site root artifacts place ∧ ∀ e, outcome = .error e → e.Late := by
  rw [runIn_writeArtifactsWith_eq] at hrun
  cases houtcome : (Writer.writeAll s.tree site.current root artifacts).2 with
  | ok places =>
      rw [houtcome] at hrun
      cases hrun
      exact ⟨(Writer.writeAll_changed h).1, fun e he => absurd he (by simp)⟩
  | error e =>
      rw [houtcome] at hrun
      cases hrun
      obtain ⟨htarget, hlate⟩ := Writer.writeAll_changed h
      exact ⟨htarget, fun e' he => Except.error.inj he ▸ hlate e houtcome⟩

theorem announce_late {site : Site} {root : Path} {written : Nat} {s s' : Session} {e : RunError}
    (hrun : runIn (announce site root written) s = (.error e, s')) : e.Late := by
  rw [announce, runIn_bind, say] at hrun
  cases houtput : (Report.success ("  Wrote " ++ toString written ++ " file(s) to " ++
      root.text)).output site.width with
  | ok text =>
      rw [houtput] at hrun
      have houtcome : (Except.ok () : Except RunError Unit) = .error e := congrArg Prod.fst hrun
      exact absurd houtcome (by simp)
  | error f =>
      rw [houtput] at hrun
      cases hrun
      trivial

/-- The last stage changes the files of the artifacts only, and where it has changed one and fails,
it fails late. -/
theorem write_changed {site : Site} {settings : LooseSettings} {result : GenerationResult}
    {s s' : Session} {outcome : Except RunError Unit}
    (hrun : runIn (writeWith Writer.writeAll site settings result) s = (outcome, s'))
    {place : Place} (h : s'.tree.content? place ≠ s.tree.content? place) :
    IsTarget site (settings.projectPath result.projectName) result.artifacts place ∧
      ∀ e, outcome = .error e → e.Late := by
  let root := settings.projectPath result.projectName
  rw [writeWith_eq] at hrun
  obtain ⟨s₁, hs₁, hsay | ⟨e, -, hsay⟩⟩ := (computes_sayAll site (Report.stage .write)).cases s
  case inr =>
    rw [runIn_bind_error hsay] at hrun
    cases hrun
    exact absurd (by rw [hs₁.tree]) h
  rw [runIn_bind_ok hsay] at hrun
  rw [← hs₁.tree] at h
  cases hwrite : runIn (writeArtifactsWith Writer.writeAll site root result.artifacts) s₁ with
  | mk outcome₂ s₂ =>
      cases outcome₂ with
      | error e =>
          rw [runIn_bind_error hwrite] at hrun
          cases hrun
          obtain ⟨htarget, hlate⟩ := writeArtifacts_changed hwrite h
          exact ⟨htarget, fun e' he => Except.error.inj he ▸ hlate e rfl⟩
      | ok written =>
          rw [runIn_bind_ok hwrite] at hrun
          have hkept := (computes_announce site root written s₂).1.tree
          rw [hrun] at hkept
          exact ⟨(writeArtifacts_changed hwrite (hkept ▸ h)).1, fun e he =>
            announce_late (he ▸ hrun)⟩

theorem finish_changed {site : Site} {settings : LooseSettings} {result : GenerationResult}
    {s s' : Session} {outcome : Except RunError Unit}
    (hrun : runIn (writeWith Writer.writeAll site settings result >>= fun _ =>
      note fun p => { p with success := true }) s = (outcome, s'))
    {place : Place} (h : s'.tree.content? place ≠ s.tree.content? place) :
    s'.calls = s.calls ∧
      IsTarget site (settings.projectPath result.projectName) result.artifacts place ∧
      ((outcome = .ok () ∧ s'.progress.success = true) ∨ ∃ e, outcome = .error e ∧ e.Late) := by
  obtain ⟨outcome₂, s₂, hwrite, hcalls, -⟩ :=
    runIn_writeWith Writer.writeAll site settings result s
  cases outcome₂ with
  | ok u =>
      -- what follows the last stage changes no file
      rw [runIn_bind_ok hwrite] at hrun
      cases hrun
      exact ⟨hcalls, (write_changed hwrite h).1, .inl ⟨rfl, rfl⟩⟩
  | error e =>
      rw [runIn_bind_error hwrite] at hrun
      cases hrun
      obtain ⟨htarget, hlate⟩ := write_changed hwrite h
      exact ⟨hcalls, htarget, .inr ⟨e, rfl, hlate e rfl⟩⟩

/-! ### Runs that change a file -/

/-- What has happened in a run once the file at a place is not as it was: the run is not dry, it has
issued every command of its plan and none has failed, the file belongs to an artifact of the plan,
and the run has come back with success or failed late. -/
structure Changes (site : Site) (settings : LooseSettings) (plan : Option GenerationResult)
    (replies : List Reply) (dry : Bool) (outcome : Except RunError Unit) (after : Session)
    (place : Place) : Prop where
  wet : dry = false
  planned : ∃ result, plan = some result ∧
    after.calls = result.invocations.map (callOf settings (workplace site settings)) ∧
    (∀ j < after.calls.length, (replyAt replies j).code = 0) ∧
    IsTarget site (settings.projectPath result.projectName) result.artifacts place
  ending : (outcome = .ok () ∧ after.progress.success = true) ∨
    ∃ e, outcome = .error e ∧ e.Late

theorem conclude_changes {site : Site} {settings : LooseSettings} {dry : Bool}
    {plan : Option GenerationResult} {result : GenerationResult} (hplan : plan = some result)
    {s s' : Session} {outcome : Except RunError Unit} (hcalls : s.calls = [])
    (hrun : runIn (conclude Writer.writeAll site settings dry result) s = (outcome, s'))
    {place : Place} (h : s'.tree.content? place ≠ s.tree.content? place) :
    Changes site settings plan s.replies dry outcome s' place := by
  cases dry with
  | true =>
      have hkept : ChangesWithin Nowhere Nowhere
          (conclude Writer.writeAll site settings true result) :=
        (computes_reportPlan site result).changesWithin.bind fun _ => changesWithin_note _
      have hsame : (runIn _ s).2.tree.content? place = s.tree.content? place :=
        (hkept s).content? id
      rw [hrun] at hsame
      exact absurd hsame h
  | false =>
      have hconclude : conclude Writer.writeAll site settings false result =
          (execute site settings result.invocations >>= fun _ =>
            writeWith Writer.writeAll site settings result >>= fun _ =>
              note fun p => { p with success := true }) := rfl
      have hkept := content?_execute site settings result.invocations s place
      cases hexecute : runIn (execute site settings result.invocations) s with
      | mk outcome₁ s₁ =>
          rw [hexecute] at hkept
          cases outcome₁ with
          | error e =>
              rw [hconclude, runIn_bind_error hexecute] at hrun
              cases hrun
              exact absurd hkept h
          | ok u =>
              rw [hconclude, runIn_bind_ok hexecute] at hrun
              obtain ⟨hcalls', htarget, hending⟩ := finish_changed hrun (hkept ▸ h)
              obtain ⟨calls, hcalls₁, hok⟩ := execute_issued_ok hexecute
              rw [hcalls, List.nil_append] at hcalls₁
              obtain ⟨hissued, hpassed⟩ := hok.of_ok
              rw [← hcalls₁, ← hcalls'] at hissued hpassed
              exact ⟨rfl, ⟨result, hplan, hissued, hpassed, htarget⟩, hending⟩

theorem stages_changes {site : Site} {settings : LooseSettings} {path : Value} {dry : Bool}
    {s s' : Session} {outcome : Except RunError Unit} (hcalls : s.calls = [])
    (hrun : runIn (stagesWith Writer.writeAll site settings path dry) s = (outcome, s'))
    {place : Place} (h : s'.tree.content? place ≠ s.tree.content? place) :
    Changes site settings (planned? site settings path s.tree) s.replies dry outcome s' place := by
  obtain ⟨hsame, htells⟩ := computes_prepare site settings path s
  cases hprepare : runIn (prepare site settings path) s with
  | mk outcome₁ s₁ =>
      rw [hprepare] at hsame htells
      cases outcome₁ with
      | error e =>
          rw [stagesWith, runIn_bind_error hprepare] at hrun
          cases hrun
          rw [hsame.tree] at h
          exact absurd rfl h
      | ok result =>
          rw [stagesWith, runIn_bind_ok hprepare] at hrun
          rw [← hsame.replies]
          exact conclude_changes htells (hsame.calls.trans hcalls) hrun (hsame.tree ▸ h)

theorem runWith_changes {site : Site} {settings : LooseSettings} {path : Value} {dry : Bool}
    {s s' : Session} {outcome : Except RunError Unit} (hcalls : s.calls = [])
    (hrun : runIn (runWith Writer.writeAll site settings path dry) s = (outcome, s'))
    {place : Place} (h : s'.tree.content? place ≠ s.tree.content? place) :
    Changes site settings (planned? site settings path s.tree) s.replies dry outcome s' place := by
  obtain ⟨s₁, hs₁, -, ⟨e, -, hbanner⟩ | hbehind⟩ := runWith_cases site settings path dry s
  case inl =>
    rw [hbanner] at hrun
    cases hrun
    rw [hs₁.tree] at h
    exact absurd rfl h
  rw [hbehind] at hrun
  rw [← hs₁.tree] at h ⊢
  rw [← hs₁.replies]
  cases hstages : runIn (stagesWith Writer.writeAll site settings path dry) s₁ with
  | mk outcome₁ s₂ =>
      cases outcome₁ with
      | ok u =>
          rw [runIn_tryCatch_ok hstages] at hrun
          cases hrun
          exact stages_changes (hs₁.calls.trans hcalls) hstages h
      | error e =>
          -- noting a failure changes no file, and a late failure is not noted
          rw [runIn_tryCatch_error hstages] at hrun
          have hkept := congrArg (FileTree.content? · place) (tree_recover site e s₂)
          simp only [hrun] at hkept
          have hchanges := stages_changes (hs₁.calls.trans hcalls) hstages (hkept ▸ h)
          have hlate : e.Late := by
            rcases hchanges.ending with ⟨hok, -⟩ | ⟨e', he, hlate⟩
            · exact absurd hok (by simp)
            · exact Except.error.inj he ▸ hlate
          rw [runIn_recover_unexpected site hlate.expected?] at hrun
          cases hrun
          exact hchanges

end Formwork.Run

namespace Formwork

open FileTree Run

/-- The files of a run in a session that nothing has happened in. A file is as it was, unless the
run has issued every command of its plan, none has failed, and the file belongs to an artifact of
the plan; and such a run comes back with success, or it fails while it writes or tells that it has
written. So a dry run, and a failure of any other stage, leave every file as it was, but a failure
of the last stage may leave some of the artifacts behind. -/
theorem Session.run_changes (site : Site) (settings : LooseSettings) (path : Value) (dry : Bool)
    (tree : FileTree) (replies : List Reply) (console : String) (place : Place) :
    let s : Session := { tree, replies, console }
    let (outcome, after) := s.run site settings path dry
    after.tree.content? place = tree.content? place ∨
      Changes site settings (planned? site settings path tree) replies dry outcome after place := by
  intro s
  have hwith : s.run site settings path dry =
      runIn (runWith Writer.writeAll site settings path dry) s := by
    rw [runWith_writeAll]
    rfl
  rw [hwith]
  cases hrun : runIn (runWith Writer.writeAll site settings path dry) s with
  | mk outcome after => exact or_iff_not_imp_left.mpr fun h => runWith_changes rfl hrun h

end Formwork
