import Formwork.CommandLine.Help
import Formwork.Prompt
import Formwork.Run

/-!
The program behind the command line. Settings come from the environment; options replace them, and
answers to questions replace those again. Then the specification is run.
-/

namespace Formwork.CommandLine

inductive ProgramError
  | settings (e : SettingsError)
  | file (e : LoadError)
  | endOfInput
  | run (e : RunError)

def ProgramError.message : ProgramError → String
  | .settings e => e.message
  | .file e => e.message
  | .endOfInput => "EOF when reading a line"
  | .run e => e.message

/-- How the program ends before its last line: with an exit code and a text on the error output,
or with an error. -/
inductive Ending
  | exit (code : Nat) (complaint : String)
  | broken (e : ProgramError)

abbrev ProgramM := ExceptT Ending (StateM Session)

/-- What the program is started with: its arguments, the environment, and the lines that can be
read from the input. -/
structure Start where
  arguments : List String
  environment : Environment := []
  input : List String := []

/-- The lines of an input. What follows the last line feed is a line unless it is empty. -/
def inputLines (text : String) : List String :=
  let pieces := (Text.pieces '\n' text.toList).map String.ofList
  if pieces.getLast? = some "" then pieces.dropLast else pieces

def within {α : Type} (step : RunM α) : ProgramM α := ExceptT.adapt (.broken ∘ .run) step

def ask {α : Type} (site : Site) (q : Question α) : List String → ProgramM (α × List String)
  | [] => do
    within (Run.say site (.question q.words))
    throw (.broken .endOfInput)
  | line :: rest => do
    within (Run.say site (.question q.words))
    match q.answer line with
    | .ok answer => return (answer, rest)
    | .error complaint =>
      within (Run.say site (.text complaint))
      ask site q rest

def askStyle (site : Site) (settings : Settings) (input : List String) : ProgramM Settings := do
  let (useBootstrap, input) ← ask site (.bootstrap settings.useBootstrap) input
  let (columns, _) ← ask site (.columns settings.columns) input
  return { settings with useBootstrap, columns }

/-- The arguments, unless there is nothing to run. -/
def readArguments (arguments : List String) : ProgramM (String × Options) :=
  match Arguments.read arguments with
  | .ok read => return read
  | .error .help => do
    modify fun s => { s with console := s.console ++ help }
    throw (.exit 0 "")
  | .error (.usage e) => throw (.exit 2 e.report)

def requireSpecification (site : Site) (path : Path) : ProgramM Unit := do
  match SpecificationFile.exists? (← get).tree site.current path with
  | .ok true => pure ()
  | .ok false =>
    within (Run.say site (.text ("[bold red]Error:[/bold red] Specification file not found: " ++
      path.text)))
    throw (.exit 1 "")
  | .error e => throw (.broken (.file e))

/-- The whole program. -/
def program (site : Site) (start : Start) : ProgramM Unit := do
  let (specification, options) ← readArguments start.arguments
  let path := Path.ofString specification
  requireSpecification site path
  match start.environment.settings with
  | .error e => throw (.broken (.settings e))
  | .ok base =>
    let settings := options.update base
    let settings ←
      if options.interactive then askStyle site settings start.input else pure settings
    within (Run.run site settings.loose (.str path.text) options.dryRun)
    if (← get).progress.success then
      within (Run.say site (.text "[bold green]Generation completed successfully![/bold green]"))
    else
      within (Run.say site (.text "[bold red]Generation failed.[/bold red]"))
      throw (.exit 1 "")

def execute (site : Site) (start : Start) (session : Session) : Except Ending Unit × Session :=
  (program site start).run.run session

end Formwork.CommandLine
