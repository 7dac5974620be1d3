import Formwork.Check
import Formwork.Command
import Formwork.Generator
import Formwork.Report
import Formwork.Settings.Loose
import Formwork.SpecificationFile
import Formwork.Writer

/-!
A run takes a specification file to a project: it loads the file, checks the specification,
generates the artifacts, issues the commands and writes the files, and tells on the console what it
does. Commands are answered by recorded replies. A stage that fails ends the run before anything
is written; the failures that a run expects are noted in its progress, all others leave it.
-/

namespace Formwork

/-- What a run has reached. It lives on from one run to the next. -/
structure Progress where
  stages : List Stage := []
  warnings : List String := []
  success : Bool := false
  project : Option String := none
  artifacts : Option (List String) := none
  invocations : Option (List String) := none
  projectRoot : Option Path := none
  error : Option String := none
  deriving DecidableEq, Repr, Inhabited

/-- What runs change: their progress, the files, the replies that are still to come, the commands
that were called, and the text on the console. -/
structure Session where
  progress : Progress := {}
  tree : FileTree := {}
  replies : List Reply := []
  calls : List Call := []
  console : String := ""
  deriving Inhabited

/-- Where runs take place: the current directory, the width of the console, and the words of the
YAML parser about a text that it cannot parse. -/
structure Site where
  current : Place
  width : Nat
  account : SpecificationFile.Account

inductive RunError
  | stage (f : StageFailure)
  | specification (e : SpecificationError)
  | path (m : Value.Misuse)
  | load (e : LoadError)
  | layout (faults : List Schema.Fault)
  | oversized (e : Number.Oversized)
  | generation (e : GenerationError)
  | directory (e : FileError)
  | write (e : WriteError)
  | markup (e : Console.RenderError)

namespace RunError

def message : RunError → String
  | .stage f => f.message
  | .specification e => e.message
  | .path m => m.message
  | .load e => e.message
  | .layout faults => Schema.faultsText faults
  | .oversized e => e.message
  | .generation e => e.message
  | .directory e => e.message
  | .write e => e.message
  | .markup e => e.message

def expected? : RunError → Option String
  | .stage f => some f.message
  | .specification e => some e.message
  | _ => none

/-- A specification that is missing fails the stage; one that is refused is a failure of its
own. -/
def ofLoad : LoadError → RunError
  | .missing place => .stage (.of .load (LoadError.missing place).message)
  | .specification e => .specification e
  | e => .load e

def ofCheck : CheckError → RunError
  | .specification e => .specification e
  | .oversized e => .oversized e

def ofGeneration : GenerationError → RunError
  | .specification e => .specification e
  | e => .generation e

end RunError

/-- Steps of a run. What they have changed stays changed when one of them fails. -/
abbrev RunM := ExceptT RunError (StateM Session)

namespace Run

def note (change : Progress → Progress) : RunM Unit :=
  modify fun s => { s with progress := change s.progress }

def complete (stage : Stage) : RunM Unit := note fun p => { p with stages := p.stages ++ [stage] }

def say (site : Site) (item : Console.Item) : RunM Unit :=
  match item.output site.width with
  | .ok text => modify fun s => { s with console := s.console ++ text }
  | .error e => throw (.markup e)

def sayAll (site : Site) : List Console.Item → RunM Unit
  | [] => pure ()
  | item :: rest => do
    say site item
    sayAll site rest

def banner (settings : LooseSettings) (path : Value) : Console.Item :=
  .panel ("[bold]ngscaffold[/bold]\nSpecification: " ++ path.display ++ "\nOutput: " ++
    settings.outputDirectory.text)

def pathOf (path : Value) : RunM Path :=
  match path.asPath with
  | .ok text => return Path.ofString text
  | .error m => throw (.path m)

def load (site : Site) (path : Value) : RunM Specification := do
  sayAll site (Report.stage .load)
  let path ← pathOf path
  match SpecificationFile.load site.account (← get).tree site.current path with
  | .error e => throw (.ofLoad e)
  | .ok spec =>
    say site (.text ("  Loaded [bold]" ++ spec.projectName ++ "[/bold] with " ++
      toString spec.components.length ++ " component(s)"))
    note fun p => { p with project := some spec.projectName }
    complete .load
    return spec

/-- Whether an issue that does not stop a run is told. A strict run tells warnings only. -/
def isTold (strict : Bool) (i : Issue) : Bool := i.severity == .warning || !strict

def layoutOf (settings : LooseSettings) : RunM Layout :=
  match settings.layout with
  | .value layout => return layout
  | .faulty faults => throw (.layout faults)

def validate (site : Site) (settings : LooseSettings) (spec : Specification) : RunM Unit := do
  sayAll site (Report.stage .validate)
  let layout ← layoutOf settings
  match checkSpecification spec (some layout) settings.isStrict with
  | .error e => throw (.ofCheck e)
  | .ok issues =>
    sayAll site ((issues.filter (isTold settings.isStrict)).map fun i =>
      Report.warning ("  " ++ Console.Markup.escape i.text))
    if issues.isEmpty then say site (.text "  [green]+[/green] No issues found")
    note fun p => { p with warnings := issues.map Issue.text }
    complete .validate

/-- The third stage: the artifacts and the commands. -/
def generate (site : Site) (settings : LooseSettings) (spec : Specification) :
    RunM GenerationResult := do
  sayAll site (Report.stage .generate)
  let layout ← layoutOf settings
  match spec.generate layout settings.workspace with
  | .error e => throw (.ofGeneration e)
  | .ok result =>
    say site (.text ("  Generated " ++ toString result.artifacts.length ++ " artifact(s), " ++
      toString result.invocations.length ++ " command(s) to run"))
    note fun p =>
      { p with
        artifacts := some (result.artifacts.map (·.path))
        invocations := some (result.invocations.map (·.commandLine)) }
    complete .generate
    return result

/-- The rows of a plan: the commands, and the artifacts with their lengths. Where a name comes up
twice, its last value stands in its first place. -/
def planRows (result : GenerationResult) : List (String × String) :=
  let commands := (result.invocations.zipIdx 1).map fun (i, n) =>
    ("command " ++ toString n, i.commandLine)
  (result.artifacts.map fun a => (a.path, toString a.content.length ++ " chars")).foldl
    (fun rows row => GenerationResult.setContent row.1 row.2 rows) commands

/-- What a dry run does in the place of the last two stages. -/
def reportPlan (site : Site) (result : GenerationResult) : RunM Unit := do
  say site (Report.warning "Dry run: skipping command execution and file writes.")
  sayAll site (Report.summary (planRows result) ("Plan for " ++ result.projectName))

/-- Calls a command and takes its reply. Where no reply is recorded the command succeeds. -/
def issue (call : Call) : RunM Reply :=
  modifyGet fun s =>
    (s.replies.headD {}, { s with calls := s.calls ++ [call], replies := s.replies.tail })

def callOf (settings : LooseSettings) (output : Path) (i : Invocation) : Call where
  argv := i.argv
  directory := output.join (Path.ofString i.directory)
  timeout := settings.commandTimeout

/-- Issues commands in order, up to the first that fails. -/
def issueAll (site : Site) (settings : LooseSettings) (output : Path) : List Invocation → RunM Unit
  | [] => pure ()
  | i :: rest => do
    say site (.text ("  [cyan]" ++ i.description ++ "[/cyan]: " ++ i.commandLine))
    let reply ← issue (callOf settings output i)
    if reply.code ≠ 0 then
      throw (.stage (.of .execute (i.purpose.name ++ " command failed: " ++ reply.detail)))
    issueAll site settings output rest

def ensureDirectory (site : Site) (path : Path) : RunM Unit := do
  let (tree, outcome) := (← get).tree.ensureDirectories site.current path
  modify fun s => { s with tree }
  match outcome with
  | .ok () => pure ()
  | .error (fault, p) => throw (.directory ⟨fault, p.text⟩)

def execute (site : Site) (settings : LooseSettings) (invocations : List Invocation) :
    RunM Unit := do
  sayAll site (Report.stage .execute)
  ensureDirectory site settings.outputDirectory
  let output := FileTree.pathTo (settings.outputDirectory.resolve site.current)
  issueAll site settings output invocations
  if invocations.isEmpty then say site (.text "  No external commands required")
  complete .execute

def writeArtifacts (site : Site) (root : Path) (artifacts : List Artifact) : RunM Nat := do
  let (tree, outcome) := Writer.writeAll (← get).tree site.current root artifacts
  modify fun s => { s with tree }
  match outcome with
  | .ok places => return places.length
  | .error e => throw (.write e)

def write (site : Site) (settings : LooseSettings) (result : GenerationResult) : RunM Unit := do
  sayAll site (Report.stage .write)
  let root := settings.projectPath result.projectName
  let written ← writeArtifacts site root result.artifacts
  say site (Report.success ("  Wrote " ++ toString written ++ " file(s) to " ++ root.text))
  note fun p => { p with projectRoot := some root }
  complete .write

/-- The stages in order. A dry run tells the plan and changes nothing. -/
def passStages (site : Site) (settings : LooseSettings) (path : Value) (dry : Bool) :
    RunM Unit := do
  let spec ← load site path
  validate site settings spec
  let result ← generate site settings spec
  if dry then reportPlan site result
  else
    execute site settings result.invocations
    write site settings result
  note fun p => { p with success := true }

/-- Notes and tells a failure that runs expect; passes on all others. -/
def recover (site : Site) (e : RunError) : RunM Unit :=
  match e.expected? with
  | none => throw e
  | some reason => do
    note fun p => { p with error := some reason }
    say site (Report.error ("Run aborted: " ++ Console.Markup.escape reason))

/-- A run for a specification file. The path is shown as it is given, and looked at later. -/
def run (site : Site) (settings : LooseSettings) (path : Value) (dry : Bool) : RunM Unit := do
  say site (banner settings path)
  tryCatch (passStages site settings path dry) (recover site)

end Run

def Session.run (s : Session) (site : Site) (settings : LooseSettings) (path : Value)
    (dry : Bool) : Except RunError Unit × Session :=
  (Run.run site settings path dry).run.run s

end Formwork
