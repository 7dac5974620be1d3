import Formwork.FileTree.Path
import Formwork.Json.Encode
import Formwork.Layout
import Formwork.Schema.Reading
import Formwork.Skeleton

/-!
Settings of a run: where the project goes, how it looks, and how its workspace is made. Settings
are read from a document and written as one, and reading what was written gives them back.
-/

namespace Formwork

/-- How the workspace is made: by the Angular command line tool, or directly. -/
inductive SkeletonChoice | cli | direct
  deriving DecidableEq, Repr, Inhabited

namespace SkeletonChoice

def name : SkeletonChoice → String
  | .cli => "cli"
  | .direct => "direct"

/-- Every choice. -/
def all : List SkeletonChoice := [.cli, .direct]

def ofName? (word : String) : Option SkeletonChoice := all.find? fun c => c.name == word

end SkeletonChoice

/-- The settings of a run. The timeout of a command is in seconds. -/
structure Settings where
  outputDirectory : Path := { parts := ["output"] }
  useBootstrap : Bool := false
  columns : Int := 2
  strict : Bool := false
  skeleton : SkeletonChoice := .cli
  installsDependencies : Bool := true
  commandTimeout : Int := 600
  cliPackage : String := Skeleton.standardPackage
  deriving DecidableEq, Repr, Inhabited

namespace Settings

/-- The least timeout that settings may be read with. -/
def leastTimeout : Int := 10

def layout (s : Settings) : Layout := ⟨s.useBootstrap, s.columns⟩

def workspace (s : Settings) : Skeleton :=
  match s.skeleton with
  | .direct => .files
  | .cli => .commands (.value s.cliPackage) s.installsDependencies

def projectPath (s : Settings) (project : String) : Path :=
  s.outputDirectory.join (Path.ofString project)

def readPath : Document → Schema.Reading Path
  | .text s => .value (Path.ofString s)
  | _ => .fail .notPath

def readChoice : Document → Schema.Reading SkeletonChoice :=
  Schema.readWord (SkeletonChoice.all.map SkeletonChoice.name) SkeletonChoice.ofName?

/-- Settings from their members. Where a member is missing the standard setting stays. -/
def readMembers (m : List (Document × Document)) : Schema.Reading Settings :=
  let standard : Settings := {}
  Settings.mk
    <$> Schema.readDefaulted m ["output_dir"] readPath standard.outputDirectory
    <*> Schema.readDefaulted m ["use_bootstrap"] Schema.readBoolean standard.useBootstrap
    <*> Schema.readDefaulted m ["column_layout"] Schema.readInteger standard.columns
    <*> Schema.readDefaulted m ["strict"] Schema.readBoolean standard.strict
    <*> Schema.readDefaulted m ["skeleton"] readChoice standard.skeleton
    <*> Schema.readDefaulted m ["install_dependencies"] Schema.readBoolean
      standard.installsDependencies
    <*> Schema.readDefaulted m ["command_timeout"] (Schema.readIntegerFrom leastTimeout)
      standard.commandTimeout
    <*> Schema.readDefaulted m ["angular_cli_package"] Schema.readText standard.cliPackage

def ofDocument : Document → Schema.Reading Settings
  | .map members => readMembers members
  | _ => .fail .notObject

def members (s : Settings) : List (String × Value) :=
  [("output_dir", .str s.outputDirectory.text), ("use_bootstrap", .bool s.useBootstrap),
    ("column_layout", .int s.columns), ("strict", .bool s.strict),
    ("skeleton", .str s.skeleton.name), ("install_dependencies", .bool s.installsDependencies),
    ("command_timeout", .int s.commandTimeout), ("angular_cli_package", .str s.cliPackage)]

def text (s : Settings) : String := Json.encode Json.settingsStyle (.object s.members)

end Settings

end Formwork
