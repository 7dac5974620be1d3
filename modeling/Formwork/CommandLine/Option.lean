import Formwork.Settings.Loose

/-!
The options of the command line: their names, and which of them take a value.
-/

namespace Formwork.CommandLine

inductive Switch
  | help | output | bootstrap | columns | skeleton | strict | skipInstall | dryRun | interactive
  deriving DecidableEq, Repr

namespace Switch

def all : List Switch :=
  [.help, .output, .bootstrap, .columns, .skeleton, .strict, .skipInstall, .dryRun, .interactive]

/-- The second name of the Bootstrap option, which switches it off. -/
def withoutBootstrap : String := "--no-bootstrap"

def names : Switch → List String
  | .help => ["-h", "--help"]
  | .output => ["--output", "-o"]
  | .bootstrap => ["--bootstrap", withoutBootstrap]
  | .columns => ["--columns"]
  | .skeleton => ["--skeleton"]
  | .strict => ["--strict"]
  | .skipInstall => ["--skip-install"]
  | .dryRun => ["--dry-run"]
  | .interactive => ["--interactive", "-i"]

def title (s : Switch) : String := "/".intercalate s.names

def takesValue : Switch → Bool
  | .output | .columns | .skeleton => true
  | _ => false

def spellings : List (String × Switch) := all.flatMap fun s => s.names.map fun name => (name, s)

def ofName? (name : String) : Option Switch := spellings.lookup name

end Switch

structure Options where
  output : Option String := none
  bootstrap : Option Bool := none
  columns : Option Int := none
  skeleton : Option SkeletonChoice := none
  strict : Bool := false
  skipInstall : Bool := false
  dryRun : Bool := false
  interactive : Bool := false
  deriving DecidableEq, Repr, Inhabited

def Options.update (o : Options) (s : Settings) : Settings :=
  { s with
    outputDirectory := (o.output.map Path.ofString).getD s.outputDirectory
    useBootstrap := o.bootstrap.getD s.useBootstrap
    columns := o.columns.getD s.columns
    skeleton := o.skeleton.getD s.skeleton
    strict := o.strict || s.strict
    installsDependencies := !o.skipInstall && s.installsDependencies }

/-- The column counts that may be asked for. -/
def columnChoices : List Int := [2, 3, 4]

end Formwork.CommandLine
