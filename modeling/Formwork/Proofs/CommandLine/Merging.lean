import Formwork.CommandLine.Program
import Formwork.Proofs.CommandLine.Occurrences
import Formwork.Proofs.Run.Steps

/-!
Settings of a run from two sources: the environment, and the options of the command line. Each
option has a member of the settings to itself. A use of an option changes that member and no other,
so that the settings of a run are those of the environment with the members replaced whose options
are used, each by what the last use says.
-/

namespace Formwork.CommandLine

/-! ### What a use changes -/

/-- Options that differ at most in what an option is for. -/
structure Options.SameBut (s : Switch) (o o' : Options) : Prop where
  output : s ≠ .output → o'.output = o.output
  bootstrap : s ≠ .bootstrap → o'.bootstrap = o.bootstrap
  columns : s ≠ .columns → o'.columns = o.columns
  skeleton : s ≠ .skeleton → o'.skeleton = o.skeleton
  strict : s ≠ .strict → o'.strict = o.strict
  skipInstall : s ≠ .skipInstall → o'.skipInstall = o.skipInstall
  dryRun : s ≠ .dryRun → o'.dryRun = o.dryRun
  interactive : s ≠ .interactive → o'.interactive = o.interactive

section

variable {o o' : Options} {u : Use} (h : o.apply u = .ok o')

include h

theorem apply_columns (hu : u.option = .columns) :
    ∃ n, columnsOf u.text = .ok n ∧ o' = { o with columns := some n } := by
  rw [Options.apply, hu] at h
  obtain ⟨n, hn, h⟩ := bind_eq_ok.mp h
  exact ⟨n, mapError_eq_ok.mp hn, (Except.ok.inj h).symm⟩

theorem apply_skeleton (hu : u.option = .skeleton) :
    ∃ choice, skeletonOf u.text = .ok choice ∧ o' = { o with skeleton := some choice } := by
  rw [Options.apply, hu] at h
  obtain ⟨choice, hchoice, h⟩ := bind_eq_ok.mp h
  exact ⟨choice, mapError_eq_ok.mp hchoice, (Except.ok.inj h).symm⟩

theorem apply_sameBut : Options.SameBut u.option o o' := by
  cases hu : u.option
  case columns =>
    obtain ⟨n, -, rfl⟩ := apply_columns h hu
    constructor <;> intro hother <;> first | rfl | exact absurd rfl hother
  case skeleton =>
    obtain ⟨choice, -, rfl⟩ := apply_skeleton h hu
    constructor <;> intro hother <;> first | rfl | exact absurd rfl hother
  case help =>
    rw [Options.apply, hu] at h
    cases h
  all_goals
    rw [Options.apply, hu] at h
    cases Except.ok.inj h
    constructor <;> intro hother <;> first | rfl | exact absurd rfl hother

end

/-! ### What the options come to -/

section

variable {uses : List Use} {o : Options} (h : Options.applyAll {} uses = .ok o)

include h

/-- An option without a value is on exactly if it is used. -/
theorem flag_of_uses {flag : Options → Bool} {s : Switch} (hoff : flag {} = false)
    (hstep : ∀ {o o' : Options} {u : Use}, o.apply u = .ok o' →
      (u.option = s → flag o' = true) ∧ (u.option ≠ s → flag o' = flag o)) :
    flag o = (last? s uses).isSome := by
  rcases applyAll_last (fun _ b => b = true) hstep h with
    ⟨hlast, hsame⟩ | ⟨u, hlast, hu⟩
  · rw [hlast, hsame, hoff]
    rfl
  · rw [hlast, hu]
    rfl

theorem strict_of_uses : o.strict = (last? .strict uses).isSome := by
  refine flag_of_uses h rfl fun hu => ⟨fun hs => ?_, (apply_sameBut hu).strict⟩
  rw [Options.apply, hs] at hu
  cases hu
  rfl

theorem skipInstall_of_uses : o.skipInstall = (last? .skipInstall uses).isSome := by
  refine flag_of_uses h rfl fun hu => ⟨fun hs => ?_, (apply_sameBut hu).skipInstall⟩
  rw [Options.apply, hs] at hu
  cases hu
  rfl

theorem dryRun_of_uses : o.dryRun = (last? .dryRun uses).isSome := by
  refine flag_of_uses h rfl fun hu => ⟨fun hs => ?_, (apply_sameBut hu).dryRun⟩
  rw [Options.apply, hs] at hu
  cases hu
  rfl

theorem interactive_of_uses : o.interactive = (last? .interactive uses).isSome := by
  refine flag_of_uses h rfl fun hu => ⟨fun hs => ?_, (apply_sameBut hu).interactive⟩
  rw [Options.apply, hs] at hu
  cases hu
  rfl

theorem bootstrap_of_uses :
    o.bootstrap = (last? .bootstrap uses).map fun u => u.name != Switch.withoutBootstrap := by
  have hstep : ∀ {o o' : Options} {u : Use}, o.apply u = .ok o' →
      (u.option = .bootstrap → o'.bootstrap = some (u.name != Switch.withoutBootstrap)) ∧
        (u.option ≠ .bootstrap → o'.bootstrap = o.bootstrap) := fun hu => by
    refine ⟨fun hs => ?_, (apply_sameBut hu).bootstrap⟩
    rw [Options.apply, hs] at hu
    cases hu
    rfl
  rcases applyAll_last (fun u b => b = some (u.name != Switch.withoutBootstrap)) hstep h
    with ⟨hlast, hsame⟩ | ⟨u, hlast, hu⟩
  · rw [hlast, hsame]
    rfl
  · rw [hlast, hu]
    rfl

theorem output_of_uses (hcomplete : ∀ u ∈ uses, u.Complete) :
    o.output = (last? .output uses).map Use.text := by
  have hstep : ∀ {o o' : Options} {u : Use}, o.apply u = .ok o' →
      (u.option = .output → o'.output = u.value) ∧
        (u.option ≠ .output → o'.output = o.output) := fun hu => by
    refine ⟨fun hs => ?_, (apply_sameBut hu).output⟩
    rw [Options.apply, hs] at hu
    cases hu
    rfl
  rcases applyAll_last (fun u x => x = u.value) hstep h with
    ⟨hlast, hsame⟩ | ⟨u, hlast, hu⟩
  · rw [hlast, hsame]
    rfl
  · obtain ⟨hmem, hoption⟩ := mem_of_last? hlast
    have hgiven : u.value.isSome = true := by
      rw [(hcomplete u hmem).value, hoption]
      rfl
    obtain ⟨text, htext⟩ := Option.isSome_iff_exists.mp hgiven
    rw [hlast, hu, Option.map_some, Use.text, htext]
    rfl

end

/-! ### What the settings hold -/

/-- What a member holds after the last use of its option: what it held before if there is none, and
else what the text of the use says. -/
inductive Held {α : Type} (means : String → α → Prop) (standard : α) : Option Use → α → Prop
  | kept : Held means standard none standard
  | given {u : Use} {a : α} (h : means u.text a) : Held means standard (some u) a

def SaysColumns (text : String) (n : Int) : Prop :=
  Environment.integer text = .ok n ∧ n ∈ columnChoices

def SaysSkeleton (text : String) (choice : SkeletonChoice) : Prop := text = choice.name

theorem saysColumns_of_columnsOf {text : String} {n : Int} (h : columnsOf text = .ok n) :
    SaysColumns text n := by
  rw [columnsOf] at h
  split at h
  case h_1 => cases h
  case h_2 k hk =>
    split at h
    case isTrue hmem =>
      cases Except.ok.inj h
      exact ⟨hk, List.contains_iff_mem.mp hmem⟩
    case isFalse => cases h

theorem saysSkeleton_of_skeletonOf {text : String} {choice : SkeletonChoice}
    (h : skeletonOf text = .ok choice) : SaysSkeleton text choice := by
  rw [skeletonOf] at h
  split at h
  case h_1 c hc =>
    have hname := List.find?_some hc
    cases Except.ok.inj h
    exact (beq_iff_eq.mp hname).symm
  case h_2 => cases h

/-- Settings of a run are those of the environment, with the members replaced whose options are
used. -/
structure Merged (base : Settings) (uses : List Use) (s : Settings) : Prop where
  outputDirectory : s.outputDirectory =
    ((last? .output uses).map fun u => Path.ofString u.text).getD base.outputDirectory
  useBootstrap : s.useBootstrap =
    ((last? .bootstrap uses).map fun u => u.name != Switch.withoutBootstrap).getD
      base.useBootstrap
  columns : Held SaysColumns base.columns (last? .columns uses) s.columns
  skeleton : Held SaysSkeleton base.skeleton (last? .skeleton uses) s.skeleton
  strict : s.strict = ((last? .strict uses).isSome || base.strict)
  installsDependencies : s.installsDependencies =
    ((last? .skipInstall uses).isNone && base.installsDependencies)
  commandTimeout : s.commandTimeout = base.commandTimeout
  cliPackage : s.cliPackage = base.cliPackage

section

variable {uses : List Use} {o : Options} (h : Options.applyAll {} uses = .ok o)

include h

theorem held_of_uses {α : Type} {s : Switch} (given : Options → Option α)
    {reads : String → Except UsageError α} {means : String → α → Prop} (hnone : given {} = none)
    (hmeans : ∀ {text a}, reads text = .ok a → means text a)
    (hstep : ∀ {o o' : Options} {u : Use}, o.apply u = .ok o' →
      (u.option = s → ∃ a, reads u.text = .ok a ∧ given o' = some a) ∧
        (u.option ≠ s → given o' = given o)) (standard : α) :
    Held means standard (last? s uses) ((given o).getD standard) := by
  rcases applyAll_last (fun u x => ∃ a, reads u.text = .ok a ∧ x = some a) hstep h with
    ⟨hlast, hsame⟩ | ⟨u, hlast, a, ha, hgiven⟩
  · rw [hlast, hsame, hnone]
    exact .kept
  · rw [hlast, hgiven]
    exact .given (hmeans ha)

theorem held_columns (standard : Int) :
    Held SaysColumns standard (last? .columns uses) (o.columns.getD standard) := by
  refine held_of_uses h Options.columns rfl saysColumns_of_columnsOf
    (fun hu => ⟨fun hs => ?_, (apply_sameBut hu).columns⟩) standard
  obtain ⟨n, hn, rfl⟩ := apply_columns hu hs
  exact ⟨n, hn, rfl⟩

theorem held_skeleton (standard : SkeletonChoice) :
    Held SaysSkeleton standard (last? .skeleton uses) (o.skeleton.getD standard) := by
  refine held_of_uses h Options.skeleton rfl saysSkeleton_of_skeletonOf
    (fun hu => ⟨fun hs => ?_, (apply_sameBut hu).skeleton⟩) standard
  obtain ⟨choice, hchoice, rfl⟩ := apply_skeleton hu hs
  exact ⟨choice, hchoice, rfl⟩

theorem merged_update (hcomplete : ∀ u ∈ uses, u.Complete) (base : Settings) :
    Merged base uses (o.update base) where
  outputDirectory := by
    show (o.output.map Path.ofString).getD base.outputDirectory = _
    rw [output_of_uses h hcomplete, Option.map_map]
    rfl
  useBootstrap := by
    rw [← bootstrap_of_uses h]
    rfl
  columns := held_columns h base.columns
  skeleton := held_skeleton h base.skeleton
  strict := by
    rw [← strict_of_uses h]
    rfl
  installsDependencies := by
    rw [← Option.not_isSome, ← skipInstall_of_uses h]
    rfl
  commandTimeout := rfl
  cliPackage := rfl

end

/-! ### The layout of a run -/

/-- The checks and the generator of a run are given the two style members for their layout. -/
structure Laid (settings : Settings) : Prop where
  checked : ∀ site spec, Run.Computes (Run.validate site settings.loose spec) fun _ =>
    (checkSpecification spec (some ⟨settings.useBootstrap, settings.columns⟩)
      settings.strict).toOption.map fun _ => ()
  generated : ∀ site spec, Run.Computes (Run.generate site settings.loose spec) fun _ =>
    (spec.generate ⟨settings.useBootstrap, settings.columns⟩ settings.workspace).toOption

theorem laid (settings : Settings) : Laid settings := by
  have hlayout : Run.layout? settings.loose = some ⟨settings.useBootstrap, settings.columns⟩ := by
    rw [Run.layout?, settings.layout_loose]
    rfl
  refine ⟨fun site spec => ?_, fun site spec => ?_⟩
  · have h := Run.computes_validate site settings.loose spec
    have hstrict : settings.loose.isStrict = settings.strict := rfl
    simpa only [Run.validated?, hlayout, Option.bind_some, hstrict] using h
  · have h := Run.computes_generate site settings.loose spec
    simpa only [Run.generated?, hlayout, Option.bind_some, settings.workspace_loose] using h

/-! ### The program -/

def Start.uses (start : Start) : List Use := Arguments.occurrences start.arguments

def conclude (site : Site) (settings : Settings) (path : Path) (dry : Bool) : ProgramM Unit := do
  within (Run.run site settings.loose (.str path.text) dry)
  if (← get).progress.success then
    within (Run.say site (.text "[bold green]Generation completed successfully![/bold green]"))
  else
    within (Run.say site (.text "[bold red]Generation failed.[/bold red]"))
    throw (.exit 1 "")

section

variable {site : Site} {start : Start} {session : Session} {specification : String}
  {options : Options} {base : Settings}

theorem run_bind_ok {α β : Type} {m : ProgramM α} {f : α → ProgramM β} {s s' : Session} {a : α}
    (h : m.run.run s = (.ok a, s')) : (m >>= f).run.run s = (f a).run.run s' := by
  have hbind : (m >>= f).run.run s = match m.run.run s with
      | (.ok a, s') => (f a).run.run s'
      | (.error e, s') => (.error e, s') := by
    rw [ExceptT.run_bind, StateT.run_bind]
    cases m.run.run s with
    | mk outcome s' => cases outcome <;> rfl
  rw [hbind, h]

theorem requireSpecification_ok {path : Path}
    (h : SpecificationFile.exists? session.tree site.current path = .ok true) :
    (requireSpecification site path).run.run session = (.ok (), session) := by
  have hget : (get : ProgramM Session).run.run session = (.ok session, session) := rfl
  rw [requireSpecification, run_bind_ok hget, h]
  rfl

/-- A program that asks nothing runs with the settings of the environment as the options have
replaced them. -/
theorem execute_eq (hread : Arguments.read start.arguments = .ok (specification, options))
    (hquiet : options.interactive = false)
    (hexists : SpecificationFile.exists? session.tree site.current (Path.ofString specification) =
      .ok true)
    (hbase : start.environment.settings = .ok base) :
    execute site start session =
      (conclude site (options.update base) (Path.ofString specification)
        options.dryRun).run.run session := by
  rw [execute, program, readArguments, hread, pure_bind,
    run_bind_ok (requireSpecification_ok hexists), hbase, hquiet]
  rfl

/-- The settings of a run are those of the environment with the members replaced whose options are
used, each by the last use of its option. The layout that the checks and the generator are given is
made of them. -/
theorem execute_merged (hread : Arguments.read start.arguments = .ok (specification, options))
    (hquiet : last? .interactive start.uses = none)
    (hexists : SpecificationFile.exists? session.tree site.current (Path.ofString specification) =
      .ok true)
    (hbase : start.environment.settings = .ok base) :
    (∀ u ∈ start.uses, u.Complete) ∧
    ∃ settings, Merged base start.uses settings ∧ Laid settings ∧
      execute site start session =
        (conclude site settings (Path.ofString specification)
          (last? .dryRun start.uses).isSome).run.run session := by
  obtain ⟨hoptions, hcomplete⟩ := Arguments.read_uses hread
  have hinteractive : options.interactive = false := by
    rw [interactive_of_uses hoptions]
    exact congrArg Option.isSome hquiet
  have hexecute := execute_eq hread hinteractive hexists hbase
  rw [dryRun_of_uses hoptions] at hexecute
  exact ⟨hcomplete, options.update base, merged_update hoptions hcomplete base, laid _, hexecute⟩

end

/-- A start with options that are shortened, joined to their values and given again. -/
def crowded : Start where
  arguments := ["spec.json", "--boot", "--columns", "4", "-o", "a", "--no-b", "--col=3",
    "--output=--", "--str"]
  environment := [("NGS_SKELETON", "direct"), ("NGS_COLUMN_LAYOUT", "9")]

def crowdedFiles : FileTree := ⟨[(["spec.json"], .file [])]⟩

theorem execute_merged_crowded :
    ∃ settings, Merged { skeleton := .direct, columns := 9 } crowded.uses settings ∧
      Laid settings ∧ settings.outputDirectory = Path.ofString "--" ∧ settings.strict = true ∧
      execute ⟨[], 80, fun _ => ""⟩ crowded { tree := crowdedFiles } =
        (conclude ⟨[], 80, fun _ => ""⟩ settings (Path.ofString "spec.json") false).run.run
          { tree := crowdedFiles } := by
  have houtput : last? .output crowded.uses = some ⟨.output, "--output", some "--"⟩ := by
    decide +kernel
  have hstrict : (last? .strict crowded.uses).isSome = true := by decide +kernel
  have hdry : (last? .dryRun crowded.uses).isSome = false := by decide +kernel
  have hread : Arguments.read crowded.arguments = .ok ("spec.json",
      { output := some "--", bootstrap := some false, columns := some 3, strict := true }) := by
    decide +kernel
  have hsettings : crowded.environment.settings = .ok { skeleton := .direct, columns := 9 } := by
    rfl
  have hexists : SpecificationFile.exists? crowdedFiles [] (Path.ofString "spec.json") =
      .ok true := by
    rfl
  let session : Session := { tree := crowdedFiles }
  obtain ⟨-, settings, hmerged, hlaid, hexecute⟩ :=
    @execute_merged ⟨[], 80, fun _ => ""⟩ crowded session _ _ _
    hread (by decide +kernel) hexists hsettings
  refine ⟨settings, hmerged, hlaid, ?_, ?_, ?_⟩
  · rw [hmerged.outputDirectory, houtput]
    rfl
  · rw [hmerged.strict, hstrict]
    rfl
  · rw [hexecute, hdry]

end Formwork.CommandLine
