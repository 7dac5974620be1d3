import Formwork.Proofs.Run.Commands
import Formwork.Proofs.SpecificationFile.Loading
import Formwork.Proofs.Writer.Confined

/-!
The territory of a run. A run makes its output directory, and then it writes below the directory of
its project. Where that is in the output directory, so is everything that a run changes. The name of
the project decides: it is followed from the output directory, and may begin at the root or hold
double dots. Only the paths of the artifacts are kept from leading out, and only out of the project.
-/

namespace Formwork.Run

open FileTree

variable {α β : Type} {inside way inside' way' : Place → Prop}

/-! ### Steps -/

/-- Steps that change the tree within some places, wherever they fail. -/
def ChangesWithin (inside way : Place → Prop) (m : RunM α) : Prop :=
  ∀ s, ChangedWithin inside way s.tree (runIn m s).2.tree

theorem ChangesWithin.of_tree_eq {m : RunM α} (h : ∀ s, (runIn m s).2.tree = s.tree) :
    ChangesWithin inside way m :=
  fun s => h s ▸ .refl inside way s.tree

theorem Computes.changesWithin {m : RunM α} {value : FileTree → Option α} (h : Computes m value) :
    ChangesWithin inside way m :=
  .of_tree_eq fun s => (h s).1.tree

theorem ChangesWithin.bind {m : RunM α} {f : α → RunM β} (hm : ChangesWithin inside way m)
    (hf : ∀ a, ChangesWithin inside way (f a)) : ChangesWithin inside way (m >>= f) :=
  runIn_bind_rel (R := fun s s' => ChangedWithin inside way s.tree s'.tree) .trans hm hf

theorem ChangesWithin.mono {m : RunM α} (h : ChangesWithin inside way m)
    (hinside : ∀ q, inside q → inside' q) (hway : ∀ q, way q → inside' q ∨ way' q) :
    ChangesWithin inside' way' m :=
  fun s => (h s).mono hinside hway

theorem changesWithin_note (change : Progress → Progress) :
    ChangesWithin inside way (note change) :=
  .of_tree_eq fun _ => rfl

theorem tree_recover (site : Site) (e : RunError) (s : Session) :
    (runIn (recover site e) s).2.tree = s.tree := by
  rw [recover]
  cases e.expected? with
  | none => rfl
  | some reason =>
      rw [runIn_bind_ok (runIn_note _ s)]
      exact (computes_say site _ _).1.tree

theorem changesWithin_ensureDirectory (site : Site) (path : Path) :
    ChangesWithin Nowhere (OnWay site.current path) (ensureDirectory site path) := by
  intro s
  have hmade := ensureDirectories_changedWithin s.tree site.current path
  rw [runIn_ensureDirectory_eq]
  cases (s.tree.ensureDirectories site.current path).2 with
  | ok u => exact hmade
  | error f => exact hmade

theorem changesWithin_issueAll (site : Site) (settings : LooseSettings) (output : Path)
    (invocations : List Invocation) :
    ChangesWithin inside way (issueAll site settings output invocations) := by
  induction invocations with
  | nil => exact fun s => .refl inside way s.tree
  | cons i rest ih =>
      intro s
      rw [runIn_issueAll_cons]
      split
      case h_1 => exact .refl inside way s.tree
      case h_2 text _ =>
        split
        case isTrue => exact ih (called s text (callOf settings output i))
        case isFalse => exact .refl inside way s.tree

theorem changesWithin_execute (site : Site) (settings : LooseSettings)
    (invocations : List Invocation) :
    ChangesWithin Nowhere (OnWay site.current settings.outputDirectory)
      (execute site settings invocations) := by
  refine (computes_sayAll site _).changesWithin.bind fun _ =>
    (changesWithin_ensureDirectory site _).bind fun _ =>
      (changesWithin_issueAll site settings _ invocations).bind fun _ => ?_
  show ChangesWithin _ _ (if invocations.isEmpty then _ else _)
  split
  · exact ((computes_say site _).then (computes_complete .execute)).changesWithin
  · exact ((computes_pure ()).then (computes_complete .execute)).changesWithin

theorem changesWithin_writeArtifacts {site : Site} (hcurrent : ".." ∉ site.current) (root : Path)
    (artifacts : List Artifact) :
    ChangesWithin (root.resolve site.current <+: ·) (· <+: root.resolve site.current)
      (writeArtifactsWith Writer.writeAll site root artifacts) := by
  intro s
  have hwritten := Writer.writeAll_changedWithin hcurrent s.tree root artifacts
  rw [runIn_writeArtifactsWith_eq]
  cases (Writer.writeAll s.tree site.current root artifacts).2 with
  | ok places => exact hwritten
  | error e => exact hwritten

/-! ### Runs -/

def projectPlace (site : Site) (settings : LooseSettings) (project : String) : Place :=
  Path.follow (settings.outputDirectory.resolve site.current) project

/-- The places on the way to the output directory of a run, or above another place. -/
def LeadsTo (site : Site) (settings : LooseSettings) (place q : Place) : Prop :=
  OnWay site.current settings.outputDirectory q ∨ q <+: place

section

variable {site : Site} {settings : LooseSettings} {dry : Bool}

/-- The last stage writes below the directory of the project. -/
theorem changesWithin_write (hcurrent : ".." ∉ site.current) (result : GenerationResult) :
    ChangesWithin (projectPlace site settings result.projectName <+: ·)
      (LeadsTo site settings (projectPlace site settings result.projectName))
      (writeWith Writer.writeAll site settings result) := by
  have hplace : (settings.projectPath result.projectName).resolve site.current =
      projectPlace site settings result.projectName := Path.resolve_join_text _ _ _
  have hfiles := changesWithin_writeArtifacts hcurrent (settings.projectPath result.projectName)
    result.artifacts
  rw [hplace] at hfiles
  rw [writeWith_eq]
  exact (computes_sayAll site _).changesWithin.bind fun _ =>
    (hfiles.mono (fun _ => id) fun _ hq => .inr (.inr hq)).bind fun written =>
      (computes_announce site _ written).changesWithin

theorem changesWithin_conclude (hcurrent : ".." ∉ site.current) (result : GenerationResult) :
    ChangesWithin (projectPlace site settings result.projectName <+: ·)
      (LeadsTo site settings (projectPlace site settings result.projectName))
      (conclude Writer.writeAll site settings dry result) := by
  cases dry with
  | true => exact (computes_reportPlan site result).changesWithin.bind fun _ => changesWithin_note _
  | false =>
      have hexecute := changesWithin_execute site settings result.invocations
      exact (hexecute.mono (fun _ => False.elim) fun _ hq => .inr (.inl hq)).bind fun _ =>
        (changesWithin_write hcurrent result).bind fun _ => changesWithin_note _

end

theorem stages_changedWithin {site : Site} (hcurrent : ".." ∉ site.current)
    (settings : LooseSettings) (path : Value) (dry : Bool) (s : Session) :
    (runIn (stagesWith Writer.writeAll site settings path dry) s).2.tree = s.tree ∨
      ∃ result, planned? site settings path s.tree = some result ∧
        ChangedWithin (projectPlace site settings result.projectName <+: ·)
          (LeadsTo site settings (projectPlace site settings result.projectName)) s.tree
          (runIn (stagesWith Writer.writeAll site settings path dry) s).2.tree := by
  obtain ⟨hsame, htells⟩ := computes_prepare site settings path s
  cases hprepare : runIn (prepare site settings path) s with
  | mk outcome s₁ =>
      rw [hprepare] at hsame htells
      cases outcome with
      | error e =>
          rw [stagesWith, runIn_bind_error hprepare]
          exact .inl hsame.tree
      | ok result =>
          rw [stagesWith, runIn_bind_ok hprepare, ← hsame.tree]
          exact .inr ⟨result, hsame.tree ▸ htells, changesWithin_conclude hcurrent result s₁⟩

theorem run_changedWithin {site : Site} (hcurrent : ".." ∉ site.current) (settings : LooseSettings)
    (path : Value) (dry : Bool) (s : Session) :
    (s.run site settings path dry).2.tree = s.tree ∨
      ∃ result, planned? site settings path s.tree = some result ∧
        ChangedWithin (projectPlace site settings result.projectName <+: ·)
          (LeadsTo site settings (projectPlace site settings result.projectName)) s.tree
          (s.run site settings path dry).2.tree := by
  rw [run_eq_runWith]
  obtain ⟨s₁, hs₁, -, ⟨e, -, hbanner⟩ | hbehind⟩ := runWith_cases site settings path dry s
  case inl =>
    rw [hbanner]
    exact .inl hs₁.tree
  rw [hbehind, ← hs₁.tree]
  have hstages := stages_changedWithin hcurrent settings path dry s₁
  cases hrun : runIn (stagesWith Writer.writeAll site settings path dry) s₁ with
  | mk outcome s₂ =>
      rw [hrun] at hstages
      cases outcome with
      | ok u =>
          rw [runIn_tryCatch_ok hrun]
          exact hstages
      | error e =>
          rw [runIn_tryCatch_error hrun, tree_recover]
          exact hstages

theorem projectName_of_generate {spec : Specification} {layout : Layout} {skeleton : Skeleton}
    {result : GenerationResult} (h : spec.generate layout skeleton = .ok result) :
    result.projectName = spec.projectName := by
  rw [Specification.generate, Generator.generate] at h
  split at h
  case isTrue => exact absurd h (by simp)
  case isFalse =>
    split at h
    case h_1 => exact absurd h (by simp)
    case h_2 =>
      split at h
      case h_1 => exact Except.ok.inj h ▸ rfl
      case h_2 => exact absurd h (by simp)

theorem loaded_of_planned {site : Site} {settings : LooseSettings} {path : Value} {t : FileTree}
    {result : GenerationResult} (h : planned? site settings path t = some result) :
    ∃ spec, loaded? site path t = some spec ∧ result.projectName = spec.projectName := by
  obtain ⟨spec, hspec, hrest⟩ := Option.bind_eq_some_iff.mp h
  obtain ⟨-, -, hgenerated⟩ := Option.bind_eq_some_iff.mp hrest
  obtain ⟨layout, -, hresult⟩ := Option.bind_eq_some_iff.mp hgenerated
  refine ⟨spec, hspec, ?_⟩
  cases hgenerate : spec.generate layout settings.workspace with
  | error e =>
      rw [hgenerate] at hresult
      exact absurd hresult (by simp [Except.toOption])
  | ok made =>
      rw [hgenerate] at hresult
      exact Option.some.inj hresult ▸ projectName_of_generate hgenerate

end Formwork.Run

namespace Formwork

open FileTree Run

/-- The territory of a run. Without a specification a run leaves the tree alone. Otherwise it
changes the directory of the project, and makes directories on the way to the output directory and
above the project. Where the name of the project leads to a place in the output directory, all of
this is in or above the output directory; and that is so at least for every name that does not begin
at the root and has no double dots. -/
theorem Session.run_territory {site : Site} (hcurrent : ".." ∉ site.current)
    (settings : LooseSettings) (path : Value) (dry : Bool) (s : Session) :
    let after := (s.run site settings path dry).2
    let output := settings.outputDirectory.resolve site.current
    (loaded? site path s.tree = none → after.tree = s.tree) ∧
    ∀ spec, loaded? site path s.tree = some spec →
      let project := projectPlace site settings spec.projectName
      ChangedWithin (project <+: ·) (LeadsTo site settings project) s.tree after.tree ∧
      (output <+: project →
        ChangedWithin (output <+: ·) (LeadsTo site settings output) s.tree after.tree) ∧
      (spec.projectName.toList.head? ≠ some '/' → ".." ∉ Path.names spec.projectName →
        output <+: project) := by
  intro after output
  have hrun := run_changedWithin hcurrent settings path dry s
  refine ⟨fun hnone => ?_, fun spec hspec => ?_⟩
  · refine hrun.resolve_right ?_
    rintro ⟨result, hplan, -⟩
    obtain ⟨spec, hspec, -⟩ := loaded_of_planned hplan
    exact absurd (hnone.symm.trans hspec) (by simp)
  · intro project
    have hproject : ChangedWithin (project <+: ·) (LeadsTo site settings project) s.tree
        after.tree := by
      rcases hrun with hsame | ⟨result, hplan, hchanged⟩
      · rw [hsame]
        exact .refl _ _ s.tree
      · obtain ⟨spec', hspec', hname⟩ := loaded_of_planned hplan
        obtain rfl : spec = spec' := Option.some.inj (hspec.symm.trans hspec')
        rwa [hname] at hchanged
    refine ⟨hproject, fun hin => ?_, Path.isPrefix_follow output⟩
    refine hproject.mono (fun q hq => hin.trans hq) fun q hq => ?_
    -- what is above the project is in the output directory or above it
    rcases hq with hway | habove
    · exact .inr (.inl hway)
    · exact (List.prefix_or_prefix_of_prefix hin habove).imp_right .inr

def stray : Specification where
  projectName := "../escaped"
  components := [{ name := "Home" }]

def strayText : List Char :=
  "\x7b\"projectName\":\"../escaped\",\"components\":[\x7b\"name\":\"Home\"\x7d]\x7d".toList

/-- The project of a stray specification is beside the output directory. A run for it writes there,
and leaves what is beside both as it was. -/
theorem Session.run_territory_stray :
    let site : Site := ⟨[], 80, fun _ => ""⟩
    let settings := ({ skeleton := .direct } : Settings).loose
    let files := single "m.json" strayText
    let run := ({ tree := files } : Session).run site settings (.str "m.json") false
    ".." ∉ site.current ∧ loaded? site (.str "m.json") files = some stray ∧
    settings.outputDirectory.resolve site.current = ["output"] ∧
    projectPlace site settings stray.projectName = ["escaped"] ∧
    run.2.tree.lookup ["m.json"] = files.lookup ["m.json"] := by
  intro site settings files run
  have hcurrent : ".." ∉ site.current := by decide
  have hobject : Json.decode strayText = .ok (.map [(.text "projectName", .text "../escaped"),
      (.text "components", .list [.map [(.text "name", .text "Home")]])]) := by rfl
  have hspec : loaded? site (.str "m.json") files = some stray :=
    loaded_single (by rfl) (by rfl) (by decide) <| by
      rw [SpecificationFile.ofText_of_mapping (SpecificationFile.decode_json hobject) (by rfl)]
      rfl
  have houtput : settings.outputDirectory.resolve site.current = ["output"] := by decide
  have hproject : projectPlace site settings stray.projectName = ["escaped"] := by decide
  refine ⟨hcurrent, hspec, houtput, hproject, ?_⟩
  obtain ⟨hchanged, -⟩ := (Session.run_territory hcurrent settings (.str "m.json") false
    { tree := files }).2 stray hspec
  rcases hchanged ["m.json"] with hsame | hinside | ⟨-, hnone, -⟩
  · exact hsame
  · rw [hproject] at hinside
    exact absurd hinside (by decide)
  · exact absurd hnone (by simp [files, single, FileTree.lookup])

end Formwork
