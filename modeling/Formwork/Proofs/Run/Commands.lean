import Formwork.Proofs.Console.Escape
import Formwork.Proofs.Run.Steps
import Formwork.Proofs.Text.Lines

/-!
Commands of a run. The commands that are issued are the first of those that were generated, in
their order, up to the first that fails or to one that cannot be announced. A command that fails is
the end of the run, which tells why; and files are written only where every command has been issued
and none has failed. That a run comes to its writer is told by the outcome: with another writer in
its place, a run that does not come to it has the same outcome.
-/

namespace Formwork.Run

/-! ### The commands of a plan -/

/-- The reply to a command by its position. Where none is recorded, the command succeeds. -/
def replyAt (replies : List Reply) (j : Nat) : Reply := replies[j]?.getD {}

theorem replyAt_zero (replies : List Reply) : replyAt replies 0 = replies.headD {} := by
  cases replies <;> rfl

theorem replyAt_succ (replies : List Reply) (j : Nat) :
    replyAt replies (j + 1) = replyAt replies.tail j := by
  cases replies <;> rfl

def commandFailure (i : Invocation) (r : Reply) : RunError :=
  .stage (.of .execute (i.purpose.name ++ " command failed: " ++ r.detail))

/-- Which commands are issued, given the replies to come, and how that ends. -/
inductive Issued (call : Invocation → Call) :
    List Invocation → List Reply → List Call → Except RunError Unit → Prop
  | done {replies : List Reply} : Issued call [] replies [] (.ok ())
  | unannounced {i : Invocation} {rest : List Invocation} {replies : List Reply}
      (e : Console.RenderError) : Issued call (i :: rest) replies [] (.error (.markup e))
  | failed {i : Invocation} {rest : List Invocation} {replies : List Reply} :
      (replyAt replies 0).code ≠ 0 →
        Issued call (i :: rest) replies [call i]
          (.error (commandFailure i (replyAt replies 0)))
  | passed {i : Invocation} {rest : List Invocation} {replies : List Reply} {calls : List Call}
      {outcome : Except RunError Unit} : (replyAt replies 0).code = 0 →
        Issued call rest replies.tail calls outcome →
          Issued call (i :: rest) replies (call i :: calls) outcome

def called (s : Session) (text : String) (c : Call) : Session :=
  { s with console := s.console ++ text, calls := s.calls ++ [c], replies := s.replies.tail }

/-- The first command is announced and called; the others follow if it does not fail. -/
theorem runIn_issueAll_cons (site : Site) (settings : LooseSettings) (output : Path)
    (i : Invocation) (rest : List Invocation) (s : Session) :
    runIn (issueAll site settings output (i :: rest)) s =
      match (Console.Item.text ("  [cyan]" ++ i.description ++ "[/cyan]: " ++ i.commandLine)).output
        site.width with
      | .error e => (.error (.markup e), s)
      | .ok text =>
        if (replyAt s.replies 0).code = 0 then
          runIn (issueAll site settings output rest) (called s text (callOf settings output i))
        else
          (.error (commandFailure i (replyAt s.replies 0)),
            called s text (callOf settings output i)) := by
  rw [issueAll, say, replyAt_zero]
  cases (Console.Item.text ("  [cyan]" ++ i.description ++ "[/cyan]: " ++ i.commandLine)).output
      site.width with
  | error e => rfl
  | ok text =>
      let announced : Session := { s with console := s.console ++ text }
      show runIn (do
        let reply ← issue (callOf settings output i)
        if reply.code ≠ 0 then throw (commandFailure i reply)
        issueAll site settings output rest) announced = _
      have hissue : runIn (issue (callOf settings output i)) announced =
          (.ok (s.replies.headD {}), called s text (callOf settings output i)) := rfl
      rw [runIn_bind_ok hissue]
      by_cases hcode : (s.replies.headD {}).code = 0
      · simp only [hcode, ne_eq, not_true_eq_false, if_false, if_true]
      · simp only [hcode, ne_eq, not_false_eq_true, if_true, if_false]
        rfl

/-- Issuing commands takes one step of `Issued` for each of them. -/
theorem issueAll_issued (site : Site) (settings : LooseSettings) (output : Path)
    (invocations : List Invocation) (s : Session) :
    ∃ calls, Issued (callOf settings output) invocations s.replies calls
        (runIn (issueAll site settings output invocations) s).1 ∧
      (runIn (issueAll site settings output invocations) s).2.calls = s.calls ++ calls ∧
      (runIn (issueAll site settings output invocations) s).2.progress = s.progress := by
  induction invocations generalizing s with
  | nil => exact ⟨[], .done, (List.append_nil s.calls).symm, rfl⟩
  | cons i rest ih =>
      rw [runIn_issueAll_cons]
      split
      case h_1 e _ => exact ⟨[], .unannounced e, (List.append_nil s.calls).symm, rfl⟩
      case h_2 text _ =>
        split
        case isTrue hcode =>
          obtain ⟨calls, hissued, hcalls, hprogress⟩ :=
            ih (called s text (callOf settings output i))
          refine ⟨callOf settings output i :: calls, .passed hcode hissued, ?_, hprogress⟩
          rw [hcalls, called, List.append_assoc, List.singleton_append]
        case isFalse hcode =>
          exact ⟨[callOf settings output i], .failed hcode, rfl, rfl⟩

/-! ### What is issued -/

/-- Codes of the first reply and of those behind it. -/
theorem forall_code_cons {replies : List Reply} {n : Nat} (hcode : (replyAt replies 0).code = 0)
    (hcodes : ∀ j < n, (replyAt replies.tail j).code = 0) :
    ∀ j < n + 1, (replyAt replies j).code = 0 := by
  intro j hj
  cases j with
  | zero => exact hcode
  | succ j =>
      rw [replyAt_succ]
      exact hcodes j (by omega)

section

variable {call : Invocation → Call} {invocations : List Invocation} {replies : List Reply}
  {calls : List Call} {outcome : Except RunError Unit}

theorem Issued.isPrefix (h : Issued call invocations replies calls outcome) :
    calls <+: invocations.map call := by
  -- on how the commands were issued
  induction h with
  | done => exact List.prefix_rfl
  | unannounced e => exact List.nil_prefix
  | failed _ => exact List.prefix_append [_] _
  | passed _ _ ih => exact List.cons_prefix_cons.mpr ⟨rfl, ih⟩

theorem Issued.code_eq_zero (h : Issued call invocations replies calls outcome) {j : Nat}
    (hj : j + 1 < calls.length) : (replyAt replies j).code = 0 := by
  induction h generalizing j with
  | done => exact absurd hj (by simp)
  | unannounced e => exact absurd hj (by simp)
  | failed _ => exact absurd hj (by simp)
  | passed hcode _ ih =>
      cases j with
      | zero => exact hcode
      | succ j =>
          rw [replyAt_succ]
          exact ih (by simpa using hj)

theorem Issued.of_ok (h : Issued call invocations replies calls (.ok ())) :
    calls = invocations.map call ∧ ∀ j < calls.length, (replyAt replies j).code = 0 := by
  generalize hok : (Except.ok () : Except RunError Unit) = outcome at h
  induction h with
  | done => exact ⟨rfl, fun j hj => absurd hj (Nat.not_lt_zero j)⟩
  | unannounced e => exact absurd hok (by simp)
  | failed _ => exact absurd hok (by simp)
  | passed hcode _ ih =>
      obtain ⟨hcalls, hcodes⟩ := ih hok
      exact ⟨by rw [hcalls, List.map_cons], forall_code_cons hcode hcodes⟩

/-- Where issuing fails, either a command could not be announced and none has failed, or the last
command that was issued has failed. -/
theorem Issued.of_error {e : RunError} (h : Issued call invocations replies calls (.error e)) :
    (e.expected? = none ∧ ∀ j < calls.length, (replyAt replies j).code = 0) ∨
      ∃ j i, calls.length = j + 1 ∧ invocations[j]? = some i ∧ (replyAt replies j).code ≠ 0 ∧
        e = commandFailure i (replyAt replies j) := by
  generalize herror : (Except.error e : Except RunError Unit) = outcome at h
  induction h with
  | done => exact absurd herror (by simp)
  | unannounced e' =>
      rw [Except.error.inj herror]
      exact .inl ⟨rfl, fun j hj => absurd hj (Nat.not_lt_zero j)⟩
  | @failed i rest replies hcode => exact .inr ⟨0, i, rfl, rfl, hcode, Except.error.inj herror⟩
  | passed hcode _ ih =>
      rcases ih herror with ⟨hunexpected, hcodes⟩ | ⟨j, i, hlength, hi, hfailed, he⟩
      · exact .inl ⟨hunexpected, forall_code_cons hcode hcodes⟩
      · refine .inr ⟨j + 1, i, by rw [List.length_cons, hlength], hi, ?_, ?_⟩
        · rwa [replyAt_succ]
        · rwa [replyAt_succ]

end

/-! ### The stages behind the plan -/

def workplace (site : Site) (settings : LooseSettings) : Path :=
  FileTree.pathTo (settings.outputDirectory.resolve site.current)

theorem runIn_ensureDirectory_eq (site : Site) (path : Path) (s : Session) :
    runIn (ensureDirectory site path) s =
      runIn (match (s.tree.ensureDirectories site.current path).2 with
        | .ok () => pure ()
        | .error (fault, p) => throw (.directory ⟨fault, p.text⟩))
        { s with tree := (s.tree.ensureDirectories site.current path).1 } := rfl

/-- Making the output directory changes the files only, and a run passes its failure on. -/
theorem runIn_ensureDirectory (site : Site) (path : Path) (s : Session) :
    ∃ tree, runIn (ensureDirectory site path) s = (.ok (), { s with tree }) ∨
      ∃ e, e.expected? = none ∧
        runIn (ensureDirectory site path) s = (.error e, { s with tree }) := by
  refine ⟨(s.tree.ensureDirectories site.current path).1, ?_⟩
  rw [runIn_ensureDirectory_eq]
  cases (s.tree.ensureDirectories site.current path).2 with
  | ok u => exact .inl rfl
  | error f => exact .inr ⟨_, rfl, rfl⟩

/-- The stage of the commands issues them, unless it fails before; and it may fail when all of them
have been issued. -/
theorem execute_issued (site : Site) (settings : LooseSettings) (invocations : List Invocation)
    (s : Session) :
    ∃ calls outcome s', runIn (execute site settings invocations) s = (outcome, s') ∧
      s'.calls = s.calls ++ calls ∧ s'.progress.success = s.progress.success ∧
      ((calls = [] ∧ ∃ e, outcome = .error e ∧ e.expected? = none) ∨
        Issued (callOf settings (workplace site settings)) invocations s.replies calls outcome ∨
        (Issued (callOf settings (workplace site settings)) invocations s.replies calls (.ok ()) ∧
          ∃ e, outcome = .error e ∧ e.expected? = none)) := by
  obtain ⟨s₁, hs₁, hsay | ⟨e, he, hsay⟩⟩ :=
    (computes_sayAll site (Report.stage .execute)).cases s
  case inr =>
    exact ⟨[], .error e, s₁, runIn_bind_error hsay, by rw [hs₁.calls, List.append_nil],
      hs₁.success, .inl ⟨rfl, e, rfl, he⟩⟩
  obtain ⟨tree, hmake | ⟨e, he, hmake⟩⟩ :=
    runIn_ensureDirectory site settings.outputDirectory s₁
  case inr =>
    exact ⟨[], .error e, { s₁ with tree }, (runIn_bind_ok hsay).trans (runIn_bind_error hmake),
      by rw [List.append_nil]; exact hs₁.calls, hs₁.success, .inl ⟨rfl, e, rfl, he⟩⟩
  obtain ⟨calls, hissued, hcalls, hprogress⟩ :=
    issueAll_issued site settings (workplace site settings) invocations { s₁ with tree }
  cases hrun : runIn (issueAll site settings (workplace site settings) invocations)
      { s₁ with tree } with
  | mk outcome s₂ =>
      rw [hrun] at hissued hcalls hprogress
      have hs₂ : s₂.calls = s.calls ++ calls := by
        rw [hcalls]
        exact congrArg (· ++ calls) hs₁.calls
      have hsuccess : s₂.progress.success = s.progress.success := by rw [hprogress, ← hs₁.success]
      have hreplies : ({ s₁ with tree } : Session).replies = s.replies := hs₁.replies
      rw [hreplies] at hissued
      cases outcome with
      | error e =>
          exact ⟨calls, .error e, s₂,
            ((runIn_bind_ok hsay).trans (runIn_bind_ok hmake)).trans (runIn_bind_error hrun),
            hs₂, hsuccess, .inr (.inl hissued)⟩
      | ok u =>
          let finish : RunM Unit := do
            if invocations.isEmpty then say site (.text "  No external commands required")
            complete .execute
          have hfinish : Computes finish fun _ => some () := by
            show Computes (if invocations.isEmpty then _ else _) _
            split
            · exact (computes_say site _).then (computes_complete .execute)
            · exact (computes_pure ()).then (computes_complete .execute)
          have hexecute : runIn (execute site settings invocations) s = runIn finish s₂ := by
            show runIn (sayAll site (Report.stage .execute) >>= fun _ =>
              ensureDirectory site settings.outputDirectory >>= fun _ =>
                issueAll site settings (workplace site settings) invocations >>= fun _ =>
                  finish) s = _
            rw [runIn_bind_ok hsay, runIn_bind_ok hmake, runIn_bind_ok hrun]
          obtain ⟨s₃, hs₃, hrest | ⟨e, he, hrest⟩⟩ := hfinish.cases s₂
          · exact ⟨calls, .ok (), s₃, hexecute.trans hrest, hs₃.calls.trans hs₂,
              hs₃.success.trans hsuccess, .inr (.inl hissued)⟩
          · exact ⟨calls, .error e, s₃, hexecute.trans hrest, hs₃.calls.trans hs₂,
              hs₃.success.trans hsuccess, .inr (.inr ⟨hissued, e, rfl, he⟩)⟩

/-- Where the stage of the commands ends well, every command has been issued and none has failed. -/
theorem execute_issued_ok {site : Site} {settings : LooseSettings} {invocations : List Invocation}
    {s s' : Session} {u : Unit} (h : runIn (execute site settings invocations) s = (.ok u, s')) :
    ∃ calls, s'.calls = s.calls ++ calls ∧
      Issued (callOf settings (workplace site settings)) invocations s.replies calls (.ok ()) := by
  obtain ⟨calls, outcome, s₁, hrun, hcalls, -, hissued⟩ :=
    execute_issued site settings invocations s
  cases h.symm.trans hrun
  refine ⟨calls, hcalls, ?_⟩
  rcases hissued with ⟨-, e, hfailed, -⟩ | hissued | ⟨hissued, -⟩
  · exact absurd hfailed (by simp)
  · exact hissued
  · exact hissued

/-! ### A run with any writer -/

abbrev Writing :=
  FileTree → Place → Path → List Artifact → FileTree × Except WriteError (List Place)

def writeArtifactsWith (writer : Writing) (site : Site) (root : Path) (artifacts : List Artifact) :
    RunM Nat := do
  let (tree, outcome) := writer (← get).tree site.current root artifacts
  modify fun s => { s with tree }
  match outcome with
  | .ok places => return places.length
  | .error e => throw (.write e)

def writeWith (writer : Writing) (site : Site) (settings : LooseSettings)
    (result : GenerationResult) : RunM Unit := do
  sayAll site (Report.stage .write)
  let root := settings.projectPath result.projectName
  let written ← writeArtifactsWith writer site root result.artifacts
  say site (Report.success ("  Wrote " ++ toString written ++ " file(s) to " ++ root.text))
  note fun p => { p with projectRoot := some root }
  complete .write

def conclude (writer : Writing) (site : Site) (settings : LooseSettings) (dry : Bool)
    (result : GenerationResult) : RunM Unit := do
  if dry then reportPlan site result
  else
    execute site settings result.invocations
    writeWith writer site settings result
  note fun p => { p with success := true }

def stagesWith (writer : Writing) (site : Site) (settings : LooseSettings) (path : Value)
    (dry : Bool) : RunM Unit := do
  conclude writer site settings dry (← prepare site settings path)

def runWith (writer : Writing) (site : Site) (settings : LooseSettings) (path : Value)
    (dry : Bool) : RunM Unit := do
  say site (banner settings path)
  tryCatch (stagesWith writer site settings path dry) (recover site)

theorem writeWith_writeAll (site : Site) (settings : LooseSettings) (result : GenerationResult) :
    writeWith Writer.writeAll site settings result = write site settings result := rfl

theorem runWith_writeAll (site : Site) (settings : LooseSettings) (path : Value) (dry : Bool) :
    runWith Writer.writeAll site settings path dry = run site settings path dry := by
  simp only [runWith, stagesWith, run, passStages, prepare, conclude, writeWith_writeAll,
    bind_assoc]

theorem run_eq_runWith (site : Site) (settings : LooseSettings) (path : Value) (dry : Bool)
    (s : Session) :
    s.run site settings path dry = runIn (runWith Writer.writeAll site settings path dry) s := by
  rw [runWith_writeAll]
  rfl

theorem runIn_writeArtifactsWith_eq (writer : Writing) (site : Site) (root : Path)
    (artifacts : List Artifact) (s : Session) :
    runIn (writeArtifactsWith writer site root artifacts) s =
      runIn (match (writer s.tree site.current root artifacts).2 with
        | .ok places => pure places.length
        | .error e => throw (.write e))
        { s with tree := (writer s.tree site.current root artifacts).1 } := rfl

theorem runIn_writeArtifactsWith (writer : Writing) (site : Site) (root : Path)
    (artifacts : List Artifact) (s : Session) :
    ∃ tree, (∃ n,
        runIn (writeArtifactsWith writer site root artifacts) s = (.ok n, { s with tree })) ∨
      ∃ e, e.expected? = none ∧
        runIn (writeArtifactsWith writer site root artifacts) s = (.error e, { s with tree }) := by
  -- the tree is what the writer leaves, whether it fails or not
  refine ⟨(writer s.tree site.current root artifacts).1, ?_⟩
  rw [runIn_writeArtifactsWith_eq]
  cases (writer s.tree site.current root artifacts).2 with
  | ok places => exact .inl ⟨places.length, rfl⟩
  | error e => exact .inr ⟨.write e, rfl, rfl⟩

/-- What the last stage tells and notes when the files are written. -/
def announce (site : Site) (root : Path) (written : Nat) : RunM Unit := do
  say site (Report.success ("  Wrote " ++ toString written ++ " file(s) to " ++ root.text))
  note fun p => { p with projectRoot := some root }
  complete .write

theorem computes_announce (site : Site) (root : Path) (written : Nat) :
    Computes (announce site root written) fun _ => some () :=
  (computes_say site _).then ((computes_note (by intro p; rfl)).then (computes_complete .write))

theorem writeWith_eq (writer : Writing) (site : Site) (settings : LooseSettings)
    (result : GenerationResult) :
    writeWith writer site settings result =
      (sayAll site (Report.stage .write) >>= fun _ =>
        writeArtifactsWith writer site (settings.projectPath result.projectName)
          result.artifacts >>= announce site (settings.projectPath result.projectName)) := rfl

/-- The last stage calls no command, and a run passes its failure on. -/
theorem runIn_writeWith (writer : Writing) (site : Site) (settings : LooseSettings)
    (result : GenerationResult) (s : Session) :
    ∃ outcome s', runIn (writeWith writer site settings result) s = (outcome, s') ∧
      s'.calls = s.calls ∧ ∀ e, outcome = .error e → e.expected? = none := by
  let root := settings.projectPath result.projectName
  rw [writeWith_eq]
  obtain ⟨s₁, hs₁, hsay | ⟨e, he, hsay⟩⟩ := (computes_sayAll site (Report.stage .write)).cases s
  case inr =>
    exact ⟨.error e, s₁, runIn_bind_error hsay, hs₁.calls, fun e' h => Except.error.inj h ▸ he⟩
  rw [runIn_bind_ok hsay]
  obtain ⟨tree, ⟨n, hwritten⟩ | ⟨e, he, hwritten⟩⟩ :=
    runIn_writeArtifactsWith writer site root result.artifacts s₁
  case inr =>
    exact ⟨.error e, { s₁ with tree }, runIn_bind_error hwritten, hs₁.calls,
      fun e' h => Except.error.inj h ▸ he⟩
  rw [runIn_bind_ok hwritten]
  obtain ⟨s₂, hs₂, hrest | ⟨e, he, hrest⟩⟩ :=
    (computes_announce site root n).cases { s₁ with tree }
  · exact ⟨.ok (), s₂, hrest, hs₂.calls.trans hs₁.calls, fun e h => absurd h (by simp)⟩
  · exact ⟨.error e, s₂, hrest, hs₂.calls.trans hs₁.calls, fun e' h => Except.error.inj h ▸ he⟩

/-! ### The course of a run -/

/-- A run comes back with an outcome: it ends well, or with a failure that it notes. -/
def Returns (outcome : Except RunError Unit) : Prop :=
  ∀ e, outcome = .error e → e.expected? ≠ none

/-- What the commands have to do with the outcome of the stages. -/
structure Course (plan : Option GenerationResult) (call : Invocation → Call)
    (replies : List Reply) (dry : Bool) (outcome : Except RunError Unit) (after : Session) :
    Prop where
  issued : after.calls <+: ((plan.map (·.invocations)).getD []).map call
  stopped : ∀ j, j + 1 < after.calls.length → (replyAt replies j).code = 0
  idle : dry = true ∨ plan = none → after.calls = []
  complete : ∀ result, plan = some result → dry = false → Returns outcome →
    after.calls = result.invocations.map call ∨
      ∃ j, after.calls.length = j + 1 ∧ (replyAt replies j).code ≠ 0
  failed : ∀ j < after.calls.length, (replyAt replies j).code ≠ 0 →
    after.progress.success = false ∧ ∃ result i, plan = some result ∧
      result.invocations[j]? = some i ∧ outcome = .error (commandFailure i (replyAt replies j))

section

variable {plan : Option GenerationResult} {call : Invocation → Call} {replies : List Reply}
  {dry : Bool} {outcome : Except RunError Unit} {after : Session} {result : GenerationResult}

theorem Course.of_calls_eq_nil (hcalls : after.calls = [])
    (hreason : dry = true ∨ plan = none ∨ ∃ e, outcome = .error e ∧ e.expected? = none) :
    Course plan call replies dry outcome after where
  issued := by rw [hcalls]; exact List.nil_prefix
  stopped j hj := by simp [hcalls] at hj
  idle _ := hcalls
  complete result hplan hdry hreturns := by
    rcases hreason with hdry' | hnone | ⟨e, houtcome, hunexpected⟩
    · exact absurd (hdry'.symm.trans hdry) (by decide)
    · exact absurd (hnone.symm.trans hplan) (by simp)
    · exact absurd hunexpected (hreturns e houtcome)
  failed j hj := by simp [hcalls] at hj

theorem Course.of_issued_ok (hplan : plan = some result) (hdry : dry = false)
    (h : Issued call result.invocations replies after.calls (.ok ())) :
    Course plan call replies dry outcome after where
  issued := by rw [hplan]; exact h.isPrefix
  stopped j hj := h.code_eq_zero hj
  idle hor := by
    rcases hor with hdry' | hnone
    · exact absurd (hdry'.symm.trans hdry) (by decide)
    · exact absurd (hnone.symm.trans hplan) (by simp)
  complete result' hplan' _ _ := by
    rw [Option.some.inj (hplan'.symm.trans hplan)]
    exact .inl h.of_ok.1
  failed j hj hcode := absurd (h.of_ok.2 j hj) hcode

theorem Course.of_issued_error {e : RunError} (hplan : plan = some result) (hdry : dry = false)
    (hsuccess : after.progress.success = false)
    (h : Issued call result.invocations replies after.calls (.error e)) :
    Course plan call replies dry (.error e) after where
  issued := by rw [hplan]; exact h.isPrefix
  stopped j hj := h.code_eq_zero hj
  idle hor := by
    rcases hor with hdry' | hnone
    · exact absurd (hdry'.symm.trans hdry) (by decide)
    · exact absurd (hnone.symm.trans hplan) (by simp)
  complete result' _ _ hreturns := by
    rcases h.of_error with ⟨hunexpected, -⟩ | ⟨j, i, hlength, -, hcode, -⟩
    · exact absurd hunexpected (hreturns e rfl)
    · exact .inr ⟨j, hlength, hcode⟩
  failed j hj hcode := by
    rcases h.of_error with ⟨-, hcodes⟩ | ⟨k, i, hlength, hi, -, he⟩
    · exact absurd (hcodes j hj) hcode
    · -- only the last command can have failed
      have hjk : j = k := by
        by_contra hne
        exact hcode (h.code_eq_zero (by omega))
      rw [hjk]
      exact ⟨hsuccess, result, i, hplan, hi, congrArg Except.error he⟩

end

/-- What a run does with a plan. Unless it is dry, the writer is come to only when every command
has been issued and none has failed. -/
theorem conclude_course (site : Site) (settings : LooseSettings) {dry : Bool}
    {plan : Option GenerationResult} {result : GenerationResult} (hplan : plan = some result)
    (s : Session) (hcalls : s.calls = []) (hsuccess : s.progress.success = false) :
    (∃ outcome s', (∀ writer, runIn (conclude writer site settings dry result) s = (outcome, s')) ∧
      Course plan (callOf settings (workplace site settings)) s.replies dry outcome s') ∨
    (dry = false ∧ ∀ writer, ∃ outcome s',
      runIn (conclude writer site settings dry result) s = (outcome, s') ∧
      Issued (callOf settings (workplace site settings)) result.invocations s.replies s'.calls
        (.ok ()) ∧
      ∀ e, outcome = .error e → e.expected? = none) := by
  let succeed : RunM Unit := note fun p => { p with success := true }
  cases dry with
  | true =>
      -- nothing is issued and the writer is not come to
      have hconclude : ∀ writer, conclude writer site settings true result =
          (reportPlan site result >>= fun _ => succeed) := fun writer => rfl
      left
      obtain ⟨s₁, hs₁, hreport | ⟨e, he, hreport⟩⟩ := (computes_reportPlan site result).cases s
      · refine ⟨.ok (), { s₁ with progress := { s₁.progress with success := true } },
          fun writer => ?_, .of_calls_eq_nil (hs₁.calls.trans hcalls) (.inl rfl)⟩
        rw [hconclude, runIn_bind_ok hreport]
        rfl
      · refine ⟨.error e, s₁, fun writer => ?_,
          .of_calls_eq_nil (hs₁.calls.trans hcalls) (.inl rfl)⟩
        rw [hconclude, runIn_bind_error hreport]
  | false =>
      have hconclude : ∀ writer, conclude writer site settings false result =
          (execute site settings result.invocations >>= fun _ =>
            writeWith writer site settings result >>= fun _ => succeed) := fun writer => rfl
      obtain ⟨calls, outcome, s₁, hrun, hcalls₁, hsuccess₁, hissued⟩ :=
        execute_issued site settings result.invocations s
      rw [hcalls, List.nil_append] at hcalls₁
      cases outcome with
      | error e =>
          -- the stage of the commands has failed, so no writer is come to
          refine .inl ⟨.error e, s₁, fun writer => ?_, ?_⟩
          · rw [hconclude, runIn_bind_error hrun]
          · rcases hissued with ⟨hnil, he⟩ | hissued | ⟨hissued, -⟩
            · exact .of_calls_eq_nil (hcalls₁.trans hnil) (.inr (.inr he))
            · exact .of_issued_error hplan rfl (hsuccess₁.trans hsuccess) (hcalls₁ ▸ hissued)
            · exact .of_issued_ok hplan rfl (hcalls₁ ▸ hissued)
      | ok u =>
          obtain ⟨calls, hcalls₁, hok⟩ := execute_issued_ok hrun
          rw [hcalls, List.nil_append] at hcalls₁
          refine .inr ⟨rfl, fun writer => ?_⟩
          obtain ⟨outcome, s₂, hwrite, hcalls₂, hkept⟩ :=
            runIn_writeWith writer site settings result s₁
          rw [hconclude, runIn_bind_ok hrun]
          cases outcome with
          | ok u =>
              rw [runIn_bind_ok hwrite]
              exact ⟨_, _, rfl, (hcalls₂.trans hcalls₁) ▸ hok, fun e h => absurd h (by simp)⟩
          | error e =>
              rw [runIn_bind_error hwrite]
              exact ⟨_, _, rfl, (hcalls₂.trans hcalls₁) ▸ hok, hkept⟩

theorem stages_course (site : Site) (settings : LooseSettings) (path : Value) (dry : Bool)
    (s : Session) (hcalls : s.calls = []) (hsuccess : s.progress.success = false) :
    (∃ outcome s', (∀ writer, runIn (stagesWith writer site settings path dry) s = (outcome, s')) ∧
      Course (planned? site settings path s.tree) (callOf settings (workplace site settings))
        s.replies dry outcome s') ∨
    (dry = false ∧ ∃ result, planned? site settings path s.tree = some result ∧
      ∀ writer, ∃ outcome s',
        runIn (stagesWith writer site settings path dry) s = (outcome, s') ∧
        Issued (callOf settings (workplace site settings)) result.invocations s.replies s'.calls
          (.ok ()) ∧
        ∀ e, outcome = .error e → e.expected? = none) := by
  obtain ⟨hsame, htells⟩ := computes_prepare site settings path s
  cases hrun : runIn (prepare site settings path) s with
  | mk outcome s₁ =>
      rw [hrun] at hsame htells
      cases outcome with
      | error e =>
          refine .inl ⟨.error e, s₁, fun writer => runIn_bind_error hrun, ?_⟩
          refine .of_calls_eq_nil (hsame.calls.trans hcalls) (.inr ?_)
          rcases htells with hunexpected | hnone
          · exact .inr ⟨e, rfl, hunexpected⟩
          · exact .inl hnone
      | ok result =>
          have hstages : ∀ writer, runIn (stagesWith writer site settings path dry) s =
              runIn (conclude writer site settings dry result) s₁ := fun writer =>
            runIn_bind_ok hrun
          rcases conclude_course site settings htells s₁ (hsame.calls.trans hcalls)
            (hsame.success.trans hsuccess) with ⟨outcome, s₂, hsettled, hcourse⟩ | ⟨hdry, hall⟩
          · rw [hsame.replies] at hcourse
            exact .inl ⟨outcome, s₂, fun writer => (hstages writer).trans (hsettled writer),
              hcourse⟩
          · refine .inr ⟨hdry, result, htells, fun writer => ?_⟩
            obtain ⟨outcome, s₂, hconclude, hissued, hkept⟩ := hall writer
            rw [hsame.replies] at hissued
            exact ⟨outcome, s₂, (hstages writer).trans hconclude, hissued, hkept⟩

/-! ### What a failure tells -/

theorem detail_of_empty {r : Reply} (h : r.errors = "") :
    r.detail = "exit code " ++ toString r.code := by
  rw [Reply.detail, h]
  rfl

theorem detail_of_filled {r : Reply} (h : r.errors ≠ "") :
    Text.lastLine? r.errors = some r.detail := by
  obtain ⟨line, hline⟩ := Text.exists_lastLine? h
  rw [Reply.detail, hline]

theorem expected?_commandFailure (i : Invocation) (r : Reply) :
    (commandFailure i r).expected? =
      some ("Stage 4 (EXECUTE): " ++ i.purpose.name ++ " command failed: " ++ r.detail) := by
  have hstage : "Stage " ++ toString Stage.execute.number ++ " (" ++ Stage.execute.name ++ "): " =
      "Stage 4 (EXECUTE): " := rfl
  show some ("Stage " ++ toString Stage.execute.number ++ " (" ++ Stage.execute.name ++ "): " ++
    (i.purpose.name ++ " command failed: " ++ r.detail)) = _
  rw [hstage]
  simp only [String.append_assoc]

theorem runIn_recover (site : Site) {e : RunError} {reason : String}
    (h : e.expected? = some reason) (s : Session) :
    ∃ s', runIn (recover site e) s = (.ok (), s') ∧ s'.calls = s.calls ∧
      s'.progress = { s.progress with error := some reason } := by
  obtain ⟨out, hout⟩ := Console.colored_escape_output "red" "Run aborted: " (by decide)
    (by decide) reason site.width
  have hsay : say site (Report.error ("Run aborted: " ++ Console.Markup.escape reason)) =
      modify fun s => { s with console := s.console ++ out } := by
    rw [say, show Report.error ("Run aborted: " ++ Console.Markup.escape reason) =
      Report.colored "red" ("Run aborted: " ++ Console.Markup.escape reason) from rfl, hout]
  rw [recover, h]
  simp only [hsay]
  exact ⟨_, rfl, rfl, rfl⟩

theorem runIn_recover_unexpected (site : Site) {e : RunError} (h : e.expected? = none)
    (s : Session) : runIn (recover site e) s = (.error e, s) := by
  rw [recover, h]
  rfl

/-! ### Runs -/

theorem runWith_cases (site : Site) (settings : LooseSettings) (path : Value) (dry : Bool)
    (s : Session) :
    ∃ s₁, Unchanged s s₁ ∧ s₁.progress = s.progress ∧
      ((∃ e, e.expected? = none ∧
        ∀ writer, runIn (runWith writer site settings path dry) s = (.error e, s₁)) ∨
      ∀ writer, runIn (runWith writer site settings path dry) s =
        runIn (tryCatch (stagesWith writer site settings path dry) (recover site)) s₁) := by
  cases houtput : (banner settings path).output site.width with
  | error f =>
      have hsay : runIn (say site (banner settings path)) s = (.error (.markup f), s) := by
        rw [say, houtput]
        rfl
      exact ⟨s, .refl s, rfl, .inl ⟨.markup f, rfl, fun writer => runIn_bind_error hsay⟩⟩
  | ok text =>
      let s₁ : Session := { s with console := s.console ++ text }
      have hsay : runIn (say site (banner settings path)) s = (.ok (), s₁) := by
        rw [say, houtput]
        rfl
      exact ⟨s₁, ⟨rfl, rfl, rfl, rfl⟩, rfl, .inr fun writer => runIn_bind_ok hsay⟩

/-- How the commands that a run has issued go with what it planned, the replies it got, and its
outcome. -/
structure Orderly (plan : Option GenerationResult) (call : Invocation → Call)
    (replies : List Reply) (dry : Bool) (outcome : Except RunError Unit) (after : Session) :
    Prop where
  /-- The commands are the first ones of the plan. -/
  issued : after.calls <+: ((plan.map (·.invocations)).getD []).map call
  /-- Nothing follows a command that fails. -/
  stopped : ∀ j, j + 1 < after.calls.length → (replyAt replies j).code = 0
  /-- A dry run, or one without a plan, issues nothing. -/
  idle : dry = true ∨ plan = none → after.calls = []
  /-- A run that comes back has issued all of its plan, or the last command has failed. -/
  complete : ∀ result, plan = some result → dry = false → outcome = .ok () →
    after.calls = result.invocations.map call ∨
      ∃ j, after.calls.length = j + 1 ∧ (replyAt replies j).code ≠ 0
  /-- A run in which a command fails comes back and tells why. -/
  failed : ∀ j < after.calls.length, (replyAt replies j).code ≠ 0 →
    outcome = .ok () ∧ after.progress.success = false ∧
      ∃ result i reason, plan = some result ∧ result.invocations[j]? = some i ∧
        after.progress.error =
          some ("Stage 4 (EXECUTE): " ++ i.purpose.name ++ " command failed: " ++ reason) ∧
        ((replyAt replies j).errors = "" →
          reason = "exit code " ++ toString (replyAt replies j).code) ∧
        ((replyAt replies j).errors ≠ "" →
          Text.lastLine? (replyAt replies j).errors = some reason)

section

variable {plan : Option GenerationResult} {call : Invocation → Call} {replies : List Reply}
  {dry : Bool} {outcome : Except RunError Unit} {after : Session}

theorem Course.orderly (h : Course plan call replies dry outcome after)
    (hkept : ∀ e, outcome = .error e → e.expected? = none) :
    Orderly plan call replies dry outcome after where
  issued := h.issued
  stopped := h.stopped
  idle := h.idle
  complete result hplan hdry hok := h.complete result hplan hdry fun e he => by
    rw [hok] at he
    exact absurd he (by simp)
  failed j hj hcode := by
    -- the failure of a command is one that a run recovers from
    obtain ⟨-, -, i, -, -, he⟩ := h.failed j hj hcode
    exact absurd (hkept _ he) (by rw [expected?_commandFailure]; simp)

theorem Course.orderly_of_recovered {e : RunError} {reason : String} {after' : Session}
    (h : Course plan call replies dry (.error e) after) (hreason : e.expected? = some reason)
    (hcalls : after'.calls = after.calls)
    (hprogress : after'.progress = { after.progress with error := some reason }) :
    Orderly plan call replies dry (.ok ()) after' where
  issued := hcalls ▸ h.issued
  stopped := hcalls ▸ h.stopped
  idle := hcalls ▸ h.idle
  complete result hplan hdry _ := hcalls ▸ h.complete result hplan hdry fun e' he' => by
    rw [← Except.error.inj he', hreason]
    simp
  failed j hj hcode := by
    obtain ⟨hsuccess, result, i, hplan, hi, he⟩ := h.failed j (hcalls ▸ hj) hcode
    have hmessage := expected?_commandFailure i (replyAt replies j)
    rw [← Except.error.inj he, hreason] at hmessage
    refine ⟨rfl, ?_, result, i, (replyAt replies j).detail, hplan, hi, ?_, detail_of_empty,
      detail_of_filled⟩
    · rw [hprogress]
      exact hsuccess
    · rw [hprogress]
      exact hmessage

end

/-- A run with any writer is orderly, and its outcome depends on the writer only when every command
has been issued and none has failed. -/
theorem runWith_orderly (site : Site) (settings : LooseSettings) (path : Value) (dry : Bool)
    (s : Session) (hcalls : s.calls = []) (hsuccess : s.progress.success = false) :
    (∃ outcome s', (∀ writer, runIn (runWith writer site settings path dry) s = (outcome, s')) ∧
      Orderly (planned? site settings path s.tree) (callOf settings (workplace site settings))
        s.replies dry outcome s') ∨
    (dry = false ∧ ∃ result, planned? site settings path s.tree = some result ∧
      ∀ writer, ∃ outcome s',
        runIn (runWith writer site settings path dry) s = (outcome, s') ∧
        Issued (callOf settings (workplace site settings)) result.invocations s.replies s'.calls
          (.ok ()) ∧
        ∀ e, outcome = .error e → e.expected? = none) := by
  obtain ⟨s₁, hs₁, -, ⟨e, he, hbanner⟩ | hrun⟩ := runWith_cases site settings path dry s
  case inl =>
    refine .inl ⟨.error e, s₁, hbanner, ?_⟩
    exact (Course.of_calls_eq_nil (hs₁.calls.trans hcalls) (.inr (.inr ⟨e, rfl, he⟩))).orderly
      fun e' he' => Except.error.inj he' ▸ he
  rcases stages_course site settings path dry s₁ (hs₁.calls.trans hcalls)
    (hs₁.success.trans hsuccess) with
    ⟨outcome, s₂, hsettled, hcourse⟩ | ⟨hdry, result, hplan, hall⟩
  · rw [hs₁.tree, hs₁.replies] at hcourse
    left
    cases outcome with
    | ok u =>
        exact ⟨.ok u, s₂, fun writer => (hrun writer).trans (runIn_tryCatch_ok (hsettled writer)),
          hcourse.orderly fun e he => absurd he (by simp)⟩
    | error e =>
        have hfailed : ∀ writer, runIn (runWith writer site settings path dry) s =
            runIn (recover site e) s₂ := fun writer =>
          (hrun writer).trans (runIn_tryCatch_error (hsettled writer))
        cases hreason : e.expected? with
        | none =>
            exact ⟨.error e, s₂,
              fun writer => (hfailed writer).trans (runIn_recover_unexpected site hreason s₂),
              hcourse.orderly fun e' he' => Except.error.inj he' ▸ hreason⟩
        | some reason =>
            obtain ⟨s₃, hrecover, hcalls₃, hprogress₃⟩ := runIn_recover site hreason s₂
            exact ⟨.ok (), s₃, fun writer => (hfailed writer).trans hrecover,
              hcourse.orderly_of_recovered hreason hcalls₃ hprogress₃⟩
  · rw [hs₁.tree] at hplan
    refine .inr ⟨hdry, result, hplan, fun writer => ?_⟩
    obtain ⟨outcome, s₂, hstages, hissued, hkept⟩ := hall writer
    rw [hs₁.replies] at hissued
    refine ⟨outcome, s₂, (hrun writer).trans ?_, hissued, hkept⟩
    cases outcome with
    | ok u => exact runIn_tryCatch_ok hstages
    | error e =>
        exact (runIn_tryCatch_error hstages).trans
          (runIn_recover_unexpected site (hkept e rfl) s₂)

end Formwork.Run

namespace Formwork

open Run

/-- The commands of a run in a session that nothing has happened in. The run is orderly; and it
comes to its writer, which shows when there is another writer whose run has another outcome, only
if it is not dry, every command has been issued, and all of them have succeeded. -/
theorem Session.run_orderly (site : Site) (settings : LooseSettings) (path : Value) (dry : Bool)
    (tree : FileTree) (replies : List Reply) (console : String) :
    let s : Session := { tree, replies, console }
    let plan := planned? site settings path tree
    let call := callOf settings (workplace site settings)
    let (outcome, after) := s.run site settings path dry
    Orderly plan call replies dry outcome after ∧
      ((∃ writer, runIn (runWith writer site settings path dry) s ≠ (outcome, after)) →
        dry = false ∧ ∃ result, plan = some result ∧
          after.calls = result.invocations.map call ∧
          ∀ j < after.calls.length, (replyAt replies j).code = 0) := by
  intro s plan call
  have hrun : s.run site settings path dry =
      runIn (runWith Writer.writeAll site settings path dry) s := by
    rw [runWith_writeAll]
    rfl
  rw [hrun]
  rcases runWith_orderly site settings path dry s rfl rfl with
    ⟨outcome, after, hsettled, horderly⟩ | ⟨hdry, result, hplan, hall⟩
  · rw [hsettled]
    refine ⟨horderly, ?_⟩
    rintro ⟨writer, hother⟩
    exact absurd (hsettled writer) hother
  · obtain ⟨outcome, after, hwritten, hissued, hkept⟩ := hall Writer.writeAll
    rw [hwritten]
    have hcourse : Course plan call replies dry outcome after :=
      .of_issued_ok hplan hdry hissued
    exact ⟨hcourse.orderly hkept, fun _ => ⟨hdry, result, hplan, hissued.of_ok⟩⟩

end Formwork
