import Formwork.Proofs.FileTree.Paths
import Formwork.Proofs.Run.Endings
import Formwork.Proofs.Run.Files

/-!
A dry run as a rehearsal. A dry run calls no command and leaves the files as they are. A run that is
not dry and succeeds has prepared what the dry run prepares, which depends on the specification and
the settings only; it has called the commands that both note, and written the files that both note.
-/

namespace Formwork.Run

open FileTree

variable {α β : Type}

/-! ### Steps that do nothing outside -/

/-- Steps that call no command and leave the tree as it is. -/
def Idle (m : RunM α) : Prop :=
  ∀ s, (runIn m s).2.tree = s.tree ∧ (runIn m s).2.calls = s.calls

theorem Computes.idle {m : RunM α} {value : FileTree → Option α} (h : Computes m value) : Idle m :=
  fun s => ⟨(h s).1.tree, (h s).1.calls⟩

theorem Idle.bind {m : RunM α} {f : α → RunM β} (hm : Idle m) (hf : ∀ a, Idle (f a)) :
    Idle (m >>= f) :=
  runIn_bind_rel (R := fun s s' => s'.tree = s.tree ∧ s'.calls = s.calls)
    (fun h h' => ⟨h'.1.trans h.1, h'.2.trans h.2⟩) hm hf

theorem Idle.tryCatch {m : RunM α} {handle : RunError → RunM α} (hm : Idle m)
    (hhandle : ∀ e, Idle (handle e)) : Idle (tryCatch m handle) := by
  intro s
  obtain ⟨htree, hcalls⟩ := hm s
  rw [runIn_tryCatch]
  cases hrun : runIn m s with
  | mk outcome s' =>
      rw [hrun] at htree hcalls
      cases outcome with
      | ok a => exact ⟨htree, hcalls⟩
      | error e =>
          obtain ⟨htree', hcalls'⟩ := hhandle e s'
          exact ⟨htree'.trans htree, hcalls'.trans hcalls⟩

theorem idle_note (change : Progress → Progress) : Idle (note change) := fun _ => ⟨rfl, rfl⟩

theorem idle_recover (site : Site) (e : RunError) : Idle (recover site e) := by
  rw [recover]
  cases e.expected? with
  | none => exact (computes_throw e).idle
  | some reason => exact (idle_note _).bind fun _ => (computes_say site _).idle

theorem idle_run (site : Site) (settings : LooseSettings) (path : Value) :
    Idle (run site settings path true) :=
  (computes_say site _).idle.bind fun _ => Idle.tryCatch
    ((computes_load site path).idle.bind fun spec =>
      (computes_validate site settings spec).idle.bind fun _ =>
        (computes_generate site settings spec).idle.bind fun result =>
          (computes_reportPlan site result).idle.bind fun _ => idle_note _)
    (idle_recover site)

/-! ### What is rehearsed -/

section

variable {site : Site} {settings : LooseSettings} {path : Value} {t t' : FileTree}
  {spec spec' : Specification} {result result' : GenerationResult}

/-- What is prepared depends on the tree for the specification only. -/
theorem Prepared.of_loaded (h : Prepared site settings path t spec result)
    (hloaded : loaded? site path t' = loaded? site path t) :
    Prepared site settings path t' spec result :=
  ⟨hloaded.trans h.loaded, h.validated, h.generated⟩

theorem Prepared.planned (h : Prepared site settings path t spec result) :
    planned? site settings path t = some result := by
  rw [planned?, h.loaded, Option.bind_some, h.validated, Option.bind_some, h.generated]

theorem Prepared.unique (h : Prepared site settings path t spec result)
    (h' : Prepared site settings path t spec' result') : spec = spec' ∧ result = result' := by
  obtain rfl := Option.some.inj (h.loaded.symm.trans h'.loaded)
  exact ⟨rfl, Option.some.inj (h.generated.symm.trans h'.generated)⟩

/-- Where there is something to prepare, a dry run whose failure would be noted has none, and its
plan is told. -/
theorem Standing.told_of_prepared {outcome : Except RunError Unit} {q : Progress}
    (h : Standing site settings path t true {} outcome q) (hreturns : Returns outcome)
    (hprepared : Prepared site settings path t spec result) :
    outcome = .ok () ∧
      q = { Completion.noteAll (preparations settings spec result) {} with success := true } := by
  cases h with
  | halted hhalts =>
      cases hhalts with
      | loading hreason =>
          have hnone := hreason.resolve_left (hreturns _ rfl)
          exact absurd (hnone.symm.trans hprepared.loaded) (by simp)
      | validating hspec hreason =>
          obtain rfl := Option.some.inj (hspec.symm.trans hprepared.loaded)
          have hnone := hreason.resolve_left (hreturns _ rfl)
          exact absurd (hnone.symm.trans hprepared.validated) (by simp)
      | generating _ _ hunrunnable => exact absurd hunrunnable.expected? (hreturns _ rfl)
  | untold => exact absurd rfl (hreturns _ rfl)
  | told _ hprepared' =>
      obtain ⟨rfl, rfl⟩ := hprepared.unique hprepared'
      exact ⟨rfl, rfl⟩
  | unexecuted e hdry => exact absurd hdry (by decide)
  | unwritten e hdry => exact absurd hdry (by decide)
  | done hdry => exact absurd hdry (by decide)

theorem Standing.done_of_success {outcome outcome' : Except RunError Unit} {p q : Progress}
    (h : Standing site settings path t false {} outcome q) (hends : Ends outcome q outcome' p)
    (hsuccess : p.success = true) :
    ∃ spec result, Prepared site settings path t spec result ∧ outcome = .ok () ∧
      p = { Completion.noteAll (preparations settings spec result ++ conclusions settings result) {}
        with success := true } := by
  have hreached := h.reached
  have hq : q.success = true := by
    cases hends with
    | passed => exact hsuccess
    | noted => exact hsuccess
    | raised => exact hsuccess
  have hok : ∀ e, outcome ≠ .error e := fun e he => by
    rw [(hreached.failed e he).1] at hq
    exact absurd hq (by decide)
  cases h with
  | halted => exact absurd rfl (hok _)
  | untold f hdry => exact absurd hdry (by decide)
  | told hdry => exact absurd hdry (by decide)
  | unexecuted => exact absurd rfl (hok _)
  | unwritten => exact absurd rfl (hok _)
  | @done spec result _ hprepared =>
      cases hends
      exact ⟨spec, result, hprepared, rfl, rfl⟩

end

/-! ### What is performed -/

/-- The place of a file of a project: the root of the project joined with its path, as seen from the
current directory. It is followed from the root of the tree once more, which makes no difference as
long as there are no double dots in the place of the current directory. -/
def filePlace (site : Site) (root : Path) (path : String) : Place :=
  Writer.led ((root.join (Path.ofString path)).resolve site.current)

section

variable {site : Site} {settings : LooseSettings} {path : Value} {root : Path}
  {artifacts : List Artifact} {s s' : Session}

theorem led_target {a : Artifact} {place : Place}
    (h : Writer.target site.current root a = .ok place) :
    Writer.led place = filePlace site root a.path := by
  rw [Writer.target] at h
  simp only at h
  split at h
  · exact absurd h (by simp)
  · split at h
    · rw [← Except.ok.inj h]
      rfl
    · exact absurd h (by simp)

/-- Every artifact has its file, which holds its content or that of another artifact with the same
place. -/
def AllWritten (site : Site) (root : Path) (artifacts : List Artifact) (t : FileTree) : Prop :=
  ∀ a ∈ artifacts, ∃ b ∈ artifacts, filePlace site root b.path = filePlace site root a.path ∧
    t.content? (filePlace site root a.path) = some (Writer.octets b.content)

theorem writeArtifacts_written {n : Nat}
    (h : runIn (writeArtifactsWith Writer.writeAll site root artifacts) s = (.ok n, s')) :
    AllWritten site root artifacts s'.tree := by
  rw [runIn_writeArtifactsWith_eq] at h
  cases hwrite : Writer.writeAll s.tree site.current root artifacts with
  | mk t outcome =>
      rw [hwrite] at h
      cases outcome with
      | error e => exact absurd (congrArg Prod.fst h) (by simp)
      | ok places =>
          obtain rfl : { s with tree := t } = s' := congrArg Prod.snd h
          intro a ha
          obtain ⟨place, hplace, b, hb, place', hplace', hsame, hcontent⟩ :=
            Writer.writeAll_ok hwrite a ha
          rw [led_target hplace, led_target hplace'] at hsame
          rw [led_target hplace] at hcontent
          exact ⟨b, hb, hsame, hcontent⟩

/-- Stages that have passed, and were no rehearsal, have called every command of the plan and
written every artifact. -/
theorem stages_performed (hcalls : s.calls = [])
    (h : runIn (stagesWith Writer.writeAll site settings path false) s = (.ok (), s')) :
    ∃ result, planned? site settings path s.tree = some result ∧
      s'.calls = result.invocations.map (callOf settings (workplace site settings)) ∧
      AllWritten site (settings.projectPath result.projectName) result.artifacts s'.tree := by
  obtain ⟨result, s₁, hprepare, hconclude⟩ := runIn_bind_eq_ok h
  obtain ⟨hsame, htells⟩ := computes_prepare site settings path s
  rw [hprepare] at hsame htells
  have hconcluded : runIn (execute site settings result.invocations >>= fun _ =>
      writeWith Writer.writeAll site settings result >>= fun _ =>
        note fun p => { p with success := true }) s₁ = (.ok (), s') := hconclude
  obtain ⟨u, s₂, hexecute, hfinish⟩ := runIn_bind_eq_ok hconcluded
  obtain ⟨u, s₃, hwrite, hnote⟩ := runIn_bind_eq_ok hfinish
  obtain rfl : { s₃ with progress := { s₃.progress with success := true } } = s' :=
    congrArg Prod.snd hnote
  obtain ⟨calls, hcalls₂, hissued⟩ := execute_issued_ok hexecute
  have hcalls₃ : s₃.calls = s₂.calls := by
    obtain ⟨outcome, s₄, hrun, hkept, -⟩ := runIn_writeWith Writer.writeAll site settings result s₂
    obtain rfl : s₃ = s₄ := congrArg Prod.snd (hwrite.symm.trans hrun)
    exact hkept
  refine ⟨result, htells, ?_, ?_⟩
  · show s₃.calls = _
    rw [hcalls₃, hcalls₂, hsame.calls, hcalls, List.nil_append]
    exact hissued.of_ok.1
  · rw [writeWith_eq] at hwrite
    obtain ⟨u, s₄, -, hrest⟩ := runIn_bind_eq_ok hwrite
    obtain ⟨n, s₅, hwritten, hannounce⟩ := runIn_bind_eq_ok hrest
    have hkept := (computes_announce site (settings.projectPath result.projectName) n s₅).1.tree
    rw [hannounce] at hkept
    show AllWritten site _ _ s₃.tree
    rw [hkept]
    exact writeArtifacts_written hwritten

theorem stages_of_success (hs : s.progress = {})
    (h : runIn (runWith Writer.writeAll site settings path false) s = (.ok (), s'))
    (hsuccess : s'.progress.success = true) :
    ∃ s₁, Unchanged s s₁ ∧
      runIn (stagesWith Writer.writeAll site settings path false) s₁ = (.ok (), s') := by
  obtain ⟨s₁, hsame, hp₁, ⟨e, -, hbanner⟩ | hbehind⟩ := runWith_cases site settings path false s
  case inl => exact absurd (congrArg Prod.fst (hbanner _ |>.symm.trans h)) (by simp)
  obtain ⟨outcome, s₂, hstages, hstanding⟩ := stages_standing site settings path false s₁
  refine ⟨s₁, hsame, ?_⟩
  rw [hbehind] at h
  cases outcome with
  | ok u => exact hstages.trans ((runIn_tryCatch_ok hstages).symm.trans h)
  | error e =>
      -- a failure that is noted leaves no success
      rw [runIn_tryCatch_error hstages] at h
      rw [hp₁, hs] at hstanding
      have hfailed := (hstanding.reached.failed e rfl).1
      cases hreason : e.expected? with
      | none =>
          rw [runIn_recover_unexpected site hreason] at h
          exact absurd (congrArg Prod.fst h) (by simp)
      | some reason =>
          obtain ⟨s₃, hrecover, -, hprogress⟩ := runIn_recover site hreason s₂
          obtain rfl : s₃ = s' := congrArg Prod.snd (hrecover.symm.trans h)
          rw [hprogress] at hsuccess
          exact absurd (hfailed.symm.trans hsuccess) (by decide)

end

/-- A run has done what it has noted: it has called the commands in its notes, and the files that it
has written are those in its notes, below the root of the project. -/
structure Performed (site : Site) (root : Path) (artifacts : List Artifact) (before : FileTree)
    (after : Session) : Prop where
  commands : after.progress.invocations =
    some (after.calls.map fun call => " ".intercalate call.argv)
  projectRoot : after.progress.projectRoot = some root
  paths : after.progress.artifacts = some (artifacts.map (·.path))
  written : AllWritten site root artifacts after.tree
  untouched : ∀ place, (∀ a ∈ artifacts, place ≠ filePlace site root a.path) →
    after.tree.content? place = before.content? place

/-- The notes of a run are those of its rehearsal, which has succeeded as well. -/
structure Rehearsed (rehearsal performance : Progress) : Prop where
  success : rehearsal.success = true
  project : rehearsal.project = performance.project
  warnings : rehearsal.warnings = performance.warnings
  artifacts : rehearsal.artifacts = performance.artifacts
  invocations : rehearsal.invocations = performance.invocations

theorem run_told {site : Site} {settings : LooseSettings} {path : Value} {s after : Session}
    {spec : Specification} {result : GenerationResult} (hs : s.progress = {})
    (hprepared : Prepared site settings path s.tree spec result)
    (hrun : s.run site settings path true = (.ok (), after)) :
    after.progress =
      { Completion.noteAll (preparations settings spec result) {} with success := true } := by
  obtain ⟨outcome, q, hstanding, hends⟩ := run_standing site settings path true s
  rw [hs] at hstanding
  rw [hrun] at hends
  obtain ⟨rfl, rfl⟩ := hstanding.told_of_prepared (hends.returns rfl) hprepared
  exact hends.of_passed.2

theorem run_performed {site : Site} {settings : LooseSettings} {path : Value} {s after : Session}
    (hs : s.progress = {}) (hcalls : s.calls = [])
    (hrun : s.run site settings path false = (.ok (), after))
    (hsuccess : after.progress.success = true) :
    ∃ spec result, Prepared site settings path s.tree spec result ∧
      after.progress =
        { Completion.noteAll (preparations settings spec result ++ conclusions settings result) {}
          with success := true } ∧
      Performed site (settings.projectPath result.projectName) result.artifacts s.tree after := by
  obtain ⟨outcome, q, hstanding, hends⟩ := run_standing site settings path false s
  rw [hs] at hstanding
  rw [hrun] at hends
  obtain ⟨spec, result, hprepared, -, hprogress⟩ := hstanding.done_of_success hends hsuccess
  have hwith : runIn (runWith Writer.writeAll site settings path false) s = (.ok (), after) := by
    rw [← run_eq_runWith]
    exact hrun
  obtain ⟨s₁, hsame, hstages⟩ := stages_of_success hs hwith hsuccess
  obtain ⟨result', hplan, hcalled, hwritten⟩ :=
    stages_performed (hsame.calls.trans hcalls) hstages
  rw [hsame.tree, hprepared.planned] at hplan
  obtain rfl := Option.some.inj hplan
  refine ⟨spec, result, hprepared, hprogress, ?_, ?_, ?_, hwritten, fun place hplace => ?_⟩
  · rw [hprogress, hcalled, List.map_map]
    rfl
  · rw [hprogress]
    rfl
  · rw [hprogress]
    rfl
  · by_contra hchanged
    obtain ⟨-, ⟨result'', hplan, -, -, a, ha, target, htarget, heq⟩, -⟩ :=
      runWith_changes hcalls hwith hchanged
    rw [hprepared.planned] at hplan
    obtain rfl := Option.some.inj hplan
    exact hplace a ha (heq.trans (led_target htarget))

end Formwork.Run

namespace Formwork

open Run

/-- A dry run is a rehearsal. It calls no command and leaves the tree as it is, whether it comes
back or not. A run that is not dry and succeeds, with the same settings and the same specification
but whatever files, replies and console besides, has the notes that the dry run has if it comes
back, so that the dry run has succeeded as well; and it has done what both have noted. It has called
the commands in the notes, word for word and in this order, and the files that it has written are
those in the notes, below the root of the project, and no others. -/
theorem Session.run_rehearsed (site : Site) (settings : LooseSettings) (path : Value)
    (tree tree' : FileTree) (replies replies' : List Reply) (console console' : String) :
    let rehearsal := ({ tree, replies, console } : Session).run site settings path true
    let performance :=
      ({ tree := tree', replies := replies', console := console' } : Session).run site settings path
        false
    rehearsal.2.calls = [] ∧ rehearsal.2.tree = tree ∧
      (loaded? site path tree = loaded? site path tree' → performance.1 = .ok () →
        performance.2.progress.success = true →
          (rehearsal.1 = .ok () → Rehearsed rehearsal.2.progress performance.2.progress) ∧
          ∃ result, planned? site settings path tree' = some result ∧
            Performed site (settings.projectPath result.projectName) result.artifacts tree'
              performance.2) := by
  intro rehearsal performance
  obtain ⟨htree, hcalls⟩ := idle_run site settings path { tree, replies, console }
  refine ⟨hcalls, htree, fun hloaded hok hsuccess => ?_⟩
  obtain ⟨spec, result, hprepared, hprogress, hperformed⟩ :=
    run_performed (s := { tree := tree', replies := replies', console := console' }) rfl rfl
      (Prod.ext hok rfl) hsuccess
  refine ⟨fun hreturned => ?_, result, hprepared.planned, hperformed⟩
  have htold := run_told (s := { tree, replies, console }) rfl (hprepared.of_loaded hloaded)
    (Prod.ext hreturned rfl)
  rw [htold, hprogress]
  exact ⟨rfl, rfl, rfl, rfl, rfl⟩

end Formwork
