import Formwork.Proofs.Subprocess
import Formwork.Shell.Child

/-!
Children that only add. A child of the small system prints behind what it has printed, and its time
does not run backwards, whatever line it runs and wherever it ends. So a line is given up if its
first command alone takes too long, whatever comes behind.
-/

namespace Formwork.Shell

open Subprocess

/-- A machine later on: more is printed, and more time has passed. -/
structure Machine.Precedes (m m' : Machine) : Prop where
  output : m.output <+: m'.output
  errors : m.errors <+: m'.errors
  elapsed : m.elapsed ≤ m'.elapsed

theorem Machine.Precedes.refl (m : Machine) : m.Precedes m :=
  ⟨List.prefix_rfl, List.prefix_rfl, Nat.le_refl _⟩

theorem Machine.Precedes.of_eq {m m' : Machine} (houtput : m'.output = m.output)
    (herrors : m'.errors = m.errors) (helapsed : m'.elapsed = m.elapsed) : m.Precedes m' :=
  ⟨houtput ▸ List.prefix_rfl, herrors ▸ List.prefix_rfl, Nat.le_of_eq helapsed.symm⟩

theorem Machine.Precedes.trans {m m' m'' : Machine} (h : m.Precedes m') (h' : m'.Precedes m'') :
    m.Precedes m'' :=
  ⟨h.output.trans h'.output, h.errors.trans h'.errors, Nat.le_trans h.elapsed h'.elapsed⟩

section

variable {α β : Type}

def runOn (act : ShellM α) (m : Machine) : Except Stop α × Machine := act.run.run m

theorem runOn_bind (act : ShellM α) (f : α → ShellM β) (m : Machine) :
    runOn (act >>= f) m =
      match runOn act m with
      | (.ok a, m') => runOn (f a) m'
      | (.error e, m') => (.error e, m') := by
  show (ExceptT.bind act f).run.run m = _
  simp only [ExceptT.bind, ExceptT.run, runOn, ExceptT.bindCont, ExceptT.mk, bind, StateT.bind,
    StateT.run]
  cases act m with
  | mk outcome m' => cases outcome <;> rfl

theorem runOn_tryCatch (act : ShellM α) (handle : Stop → ShellM α) (m : Machine) :
    runOn (tryCatch act handle) m =
      match runOn act m with
      | (.ok a, m') => (.ok a, m')
      | (.error e, m') => runOn (handle e) m' := by
  show (ExceptT.tryCatch act handle).run.run m = _
  simp only [ExceptT.tryCatch, ExceptT.run, runOn, ExceptT.mk, bind, StateT.bind, StateT.run]
  cases act m with
  | mk outcome m' => cases outcome <;> rfl

/-- What is done to a machine leads to a later one, whether or not it comes to an end there. -/
def Adds (act : ShellM α) : Prop := ∀ m : Machine, m.Precedes (runOn act m).2

theorem adds_pure (a : α) : Adds (pure a) := fun m => .refl m

theorem adds_throw (e : Stop) : Adds (throw e : ShellM α) := fun m => .refl m

theorem adds_get : Adds (get : ShellM Machine) := fun m => .refl m

theorem adds_modify {f : Machine → Machine} (h : ∀ m : Machine, m.Precedes (f m)) :
    Adds (modify f : ShellM Unit) := h

theorem Adds.bind {act : ShellM α} {f : α → ShellM β} (hact : Adds act) (hf : ∀ a, Adds (f a)) :
    Adds (act >>= f) := by
  intro m
  have hfirst := hact m
  rw [runOn_bind]
  cases hrun : runOn act m with
  | mk outcome m' =>
      rw [hrun] at hfirst
      cases outcome with
      | ok a => exact hfirst.trans (hf a m')
      | error e => exact hfirst

theorem Adds.tryCatch {act : ShellM α} {handle : Stop → ShellM α} (hact : Adds act)
    (hhandle : ∀ e, Adds (handle e)) : Adds (tryCatch act handle) := by
  intro m
  have hfirst := hact m
  rw [runOn_tryCatch]
  cases hrun : runOn act m with
  | mk outcome m' =>
      rw [hrun] at hfirst
      cases outcome with
      | ok a => exact hfirst
      | error e => exact hfirst.trans (hhandle e m')

/-- What is read first stands for the machine itself. -/
theorem adds_get_bind {f : Machine → ShellM α} (h : ∀ m : Machine, m.Precedes (runOn (f m) m).2) :
    Adds (get >>= f) := h

end

/-! ### Programs -/

theorem adds_put (sink : Sink) (octets : Text.Octets) : Adds (put sink octets) := by
  refine adds_modify fun m => ?_
  cases sink with
  | output => exact ⟨List.prefix_append _ _, List.prefix_rfl, Nat.le_refl _⟩
  | errors => exact ⟨List.prefix_rfl, List.prefix_append _ _, Nat.le_refl _⟩
  | file place =>
      dsimp only
      split <;> exact .of_eq rfl rfl rfl

theorem adds_print (octets : Text.Octets) : Adds (print octets) :=
  adds_get.bind fun m => adds_put m.out octets

theorem adds_complain (message : String) : Adds (complain message) :=
  adds_get.bind fun m => adds_put m.err _

theorem adds_cat (names : List String) : Adds (cat names) := by
  induction names with
  | nil => exact adds_pure 0
  | cons name names ih =>
      have hrest (status : Nat) : Adds (pure status >>= fun worst =>
          cat names >>= fun status => pure (max worst status)) :=
        (adds_pure status).bind fun _ => ih.bind fun _ => adds_pure _
      refine adds_get.bind fun m => ?_
      dsimp only
      split
      · exact (adds_print _).bind fun _ => hrest 0
      · exact (adds_complain _).bind fun _ => hrest 1
      · exact (adds_complain _).bind fun _ => hrest 1

theorem adds_sleep (times : List String) : Adds (sleep times) := by
  induction times with
  | nil => exact adds_pure 0
  | cons time times ih =>
      rw [sleep]
      split
      · refine Adds.bind (adds_modify fun m => ?_) fun _ => ih
        exact ⟨List.prefix_rfl, List.prefix_rfl, Nat.le_add_right _ _⟩
      · exact (adds_complain _).bind fun _ => adds_pure 1

theorem adds_kill (args : List String) : Adds (kill args) := by
  rw [kill.eq_def]
  dsimp only
  split
  · split
    · exact adds_throw _
    · exact adds_pure 1
  · exact adds_pure 2

theorem adds_echo (isBuiltIn : Bool) (args : List String) : Adds (echo isBuiltIn args) :=
  (adds_print _).bind fun _ => adds_pure 0

theorem adds_printf (args : List String) : Adds (printf args) := by
  cases args with
  | nil => exact (adds_complain _).bind fun _ => adds_pure 2
  | cons format args => exact (adds_print _).bind fun _ => adds_pure 0

theorem adds_program {isBuiltIn : Bool} {name : String} {program : List String → ShellM Nat}
    (h : program? isBuiltIn name = some program) (args : List String) : Adds (program args) := by
  rw [program?.eq_def] at h
  split at h <;> cases h
  · exact adds_pure 0
  · exact adds_pure 1
  · exact adds_echo isBuiltIn args
  · exact adds_printf args
  · exact adds_cat args
  · exact adds_sleep args
  · exact adds_kill args
  · exact adds_get.bind fun m => (adds_print _).bind fun _ => adds_pure 0

/-! ### The shell -/

theorem adds_sink (r : Redirection) : Adds (sink? r) := by
  refine adds_get_bind fun m => ?_
  cases r with
  | same ofErrors toErrors => exact .refl m
  | file ofErrors appends target =>
      dsimp only
      split
      · exact .refl m
      · split
        · cases appends <;> exact .of_eq rfl rfl rfl
        · exact .refl m

theorem adds_redirect (r : Redirection) : Adds (redirect r) := by
  refine (adds_sink r).bind fun sink? => ?_
  cases sink? with
  | none => exact adds_pure false
  | some sink =>
      refine Adds.bind (adds_modify fun m => ?_) fun _ => adds_pure true
      split <;> exact .of_eq rfl rfl rfl

theorem adds_missing (name : String) : Adds (missing name) := by
  refine adds_get.bind fun m => ?_
  dsimp only
  split
  · exact (adds_complain _).bind fun _ => adds_pure 126
  · exact (adds_complain _).bind fun _ => adds_pure 127

theorem adds_changeDirectory (args : List String) : Adds (changeDirectory args) := by
  refine adds_get_bind fun m => ?_
  split
  · exact .of_eq rfl rfl rfl
  · exact ((adds_complain _).bind fun _ => adds_pure 2) m

theorem adds_apart {act : ShellM Nat} (h : Adds act) : Adds (apart act) := by
  refine adds_get_bind fun m => ?_
  have hcaught : Adds (tryCatch act fun e => return e.status) := h.tryCatch fun e => adds_pure _
  have hlater := hcaught m
  rw [runOn_bind]
  cases hrun : runOn (tryCatch act fun e => return e.status) m with
  | mk outcome m' =>
      rw [hrun] at hlater
      cases outcome with
      | ok status => exact ⟨hlater.output, hlater.errors, hlater.elapsed⟩
      | error e => exact hlater

theorem adds_mapM {α β : Type} {f : α → ShellM β} (hf : ∀ a, Adds (f a)) (items : List α) :
    Adds (items.mapM f) := by
  induction items with
  | nil => exact adds_pure []
  | cons a items ih =>
      rw [List.mapM_cons]
      exact (hf a).bind fun b => ih.bind fun bs => adds_pure (b :: bs)

mutual

theorem adds_runLine (fuel : Nat) (line : String) (parameters : List String) :
    Adds (runLine fuel line parameters) := by
  rw [runLine]
  refine Adds.bind (adds_modify fun m => .of_eq rfl rfl rfl) fun _ => ?_
  split
  · exact adds_runScript fuel _
  · exact (adds_complain _).bind fun _ => adds_pure 2
termination_by (fuel, 2, 0)

theorem adds_runScript (fuel : Nat) (script : Script) : Adds (runScript fuel script) := by
  cases script with
  | nil =>
      rw [runScript]
      exact adds_get.bind fun m => adds_pure _
  | cons step rest =>
      rw [runScript]
      refine adds_get.bind fun m => ?_
      split
      · refine (adds_runCommand fuel step.2).bind fun next => ?_
        refine Adds.bind (adds_modify fun m => .of_eq rfl rfl rfl) fun _ => ?_
        exact adds_runScript fuel rest
      · exact adds_runScript fuel rest
termination_by (fuel, 1, script.length)

theorem adds_runCommand (fuel : Nat) (c : Command) : Adds (runCommand fuel c) := by
  rw [runCommand]
  refine adds_get.bind fun before => ?_
  refine Adds.bind (adds_mapM adds_redirect c.redirections) fun ready => ?_
  have hend (status : Nat) : Adds (do
      modify fun m => { m with out := before.out, err := before.err }
      return status) :=
    Adds.bind (adds_modify fun m => .of_eq rfl rfl rfl) fun _ => adds_pure status
  dsimp only
  split
  · exact (adds_call fuel _).bind hend
  · exact (adds_complain _).bind fun _ => (adds_pure 2).bind hend
termination_by (fuel, 0, 1)

theorem adds_call (fuel : Nat) (words : List String) : Adds (call fuel words) := by
  rw [call.eq_def]
  split
  · exact adds_pure 0
  · split
    · exact adds_get.bind fun m => adds_throw _
    · exact adds_pure 0
    · exact adds_changeDirectory _
    · exact (adds_call _ _).bind fun status => adds_throw _
    · split
      · exact adds_apart (adds_runLine _ _ _)
      · exact adds_pure 0
    · split
      · exact adds_program ‹_› _
      · exact adds_missing _
termination_by (fuel, 0, 0)

end

/-! ### Lines that take too long -/

/-- What the first command of a script has added stays. -/
theorem precedes_of_first (fuel : Nat) (c : Command) (rest : Script) (m : Machine) :
    (runOn (runCommand fuel c) m).2.Precedes
      (runOn (runScript fuel ((.always, c) :: rest)) m).2 := by
  have hrest : ∀ next, Adds (do
      modify fun m => { m with status := next }
      runScript fuel rest) := fun next =>
    Adds.bind (adds_modify fun m => .of_eq rfl rfl rfl) fun _ => adds_runScript fuel rest
  have hscript : runOn (runScript fuel ((.always, c) :: rest)) m =
      runOn (runCommand fuel c >>= fun next => do
        modify fun m => { m with status := next }
        runScript fuel rest) m := by
    rw [runScript]
    rfl
  rw [hscript, runOn_bind]
  cases runOn (runCommand fuel c) m with
  | mk outcome m' =>
      cases outcome with
      | ok next => exact hrest next m'
      | error e => exact .refl m'

theorem runOn_sleep {time : String} {n : Nat} (h : thousandths? time = some n) (m : Machine) :
    runOn (sleep [time]) m = (.ok 0, { m with elapsed := m.elapsed + n }) := by
  rw [sleep, h]
  rfl

theorem runOn_call_sleep (fuel : Nat) {time : String} {n : Nat} (h : thousandths? time = some n)
    (m : Machine) :
    runOn (call fuel ["sleep", time]) m = (.ok 0, { m with elapsed := m.elapsed + n }) := by
  have hname : plainName "sleep" = "sleep" := by decide
  rw [call.eq_def]
  simp only [hname]
  exact runOn_sleep h m

/-- A command that sleeps. -/
def sleeping (time : String) : Command where
  words := [[.text "sleep".toList], [.text time.toList]]

theorem elapsed_sleeping (fuel : Nat) {time : String} {n : Nat} (h : thousandths? time = some n)
    (m : Machine) : (runOn (runCommand fuel (sleeping time)) m).2.elapsed = m.elapsed + n := by
  have hwords : expand m (sleeping time).words = ["sleep", time] := by
    simp [expand, sleeping, expandFrom]
  have hready : (sleeping time).redirections.mapM redirect = pure [] := rfl
  have hcall := runOn_call_sleep fuel h m
  have hrun : runOn (runCommand fuel (sleeping time)) m =
      runOn (call fuel (expand m (sleeping time).words) >>= fun status => do
        modify fun m' => { m' with out := m.out, err := m.err }
        return status) m := by
    rw [runCommand, hready]
    rfl
  rw [hrun, hwords, runOn_bind, hcall]
  rfl

/-- A line that begins with sleeping takes at least that long, whatever comes behind. -/
theorem exists_ending_of_sleeping {line time : String} {n : Nat} {rest : Script}
    (hline : script? line = some ((.always, sleeping time) :: rest))
    (htime : thousandths? time = some n) (t : FileTree) (directory : Place)
    {l : Launch} (hl : l.request = .script line) :
    ∃ ending elapsed, system t directory l = .ok ending ∧ ending.elapsed = some elapsed ∧
      n ≤ elapsed := by
  let begun : Machine :=
    { tree := t, directory, assigned := l.added, parameters := ["/bin/sh"], status := 0 }
  have hrun : runOn (runLine deepest line ["/bin/sh"])
      { tree := t, directory, assigned := l.added } =
        runOn (runScript deepest ((.always, sleeping time) :: rest)) begun := by
    rw [runLine, runOn_bind, hline]
    rfl
  refine ⟨_, _, by rw [system, hl], rfl, ?_⟩
  have hfirst := (precedes_of_first deepest (sleeping time) rest begun).elapsed
  rw [elapsed_sleeping deepest htime begun, ← hrun] at hfirst
  exact Nat.le_trans (Nat.le_add_left n begun.elapsed) hfirst

/-- A line that begins with sleeping for as long as the limit fails under it, whatever comes
behind. -/
theorem run_sleeping {line time : String} {n : Nat} {rest : Script}
    (hline : script? line = some ((.always, sleeping time) :: rest))
    (htime : thousandths? time = some n) {t : FileTree} {current directory : Place} {l : Launch}
    (hl : l.request = .script line) (hnamed : l.IsNamed)
    (henter : enter t current l.directory = .ok directory) {k : Int} (hk : 1000 * k ≤ n)
    (hclock : isHuge k = false) (hshort : Number.isShort k = true) (captured : Bool) :
    ∃ reply, run (system t) t current l (.int k) captured = .ok reply ∧ reply.code = -1 := by
  obtain ⟨ending, elapsed, hending, helapsed, hn⟩ :=
    exists_ending_of_sleeping hline htime t directory hl
  have hlaunch : launch (system t) t current l = .ok ending :=
    launch_eq_ok.mpr ⟨hnamed, directory, henter, hending⟩
  refine run_late hlaunch ?_ hclock hshort
  have hlate : 1000 * k ≤ elapsed := by omega
  rw [isOver, helapsed]
  simp [hlate]

example : script? "sleep 2; echo late" = some [(.always, sleeping "2"),
    (.always, { words := [[.text "echo".toList], [.text "late".toList]] })] := by
  decide

end Formwork.Shell
