import Formwork.Settings.Basic

/-!
Settings as a run holds them. Members that are replaced after the settings were read are not
checked, so that a member may hold any value; what a run needs of them is read when it is needed.
Settings that nothing was replaced in give back what they were made from.
-/

namespace Formwork

structure LooseSettings where
  outputDirectory : Path
  useBootstrap : Value
  columns : Value
  strict : Value
  skeleton : Value
  installsDependencies : Value
  commandTimeout : Value
  cliPackage : Value
  deriving Inhabited

def Settings.loose (s : Settings) : LooseSettings where
  outputDirectory := s.outputDirectory
  useBootstrap := .bool s.useBootstrap
  columns := .int s.columns
  strict := .bool s.strict
  skeleton := .str s.skeleton.name
  installsDependencies := .bool s.installsDependencies
  commandTimeout := .int s.commandTimeout
  cliPackage := .str s.cliPackage

namespace LooseSettings

def layout (s : LooseSettings) : Schema.Reading Layout :=
  Layout.mk
    <$> (Schema.readBoolean (.ofValue s.useBootstrap)).under "use_bootstrap"
    <*> (Schema.readInteger (.ofValue s.columns)).under "column_layout"

def isStrict (s : LooseSettings) : Bool := s.strict.truthy

def workspace (s : LooseSettings) : Skeleton :=
  if s.skeleton.sameScalar (.str SkeletonChoice.direct.name) then .files
  else .commands (Schema.readText (.ofValue s.cliPackage)) s.installsDependencies.truthy

def projectPath (s : LooseSettings) (project : String) : Path :=
  s.outputDirectory.join (Path.ofString project)

def replace (s : LooseSettings) (name : String) (v : Value) : Except Value.Misuse LooseSettings :=
  match name with
  | "output_dir" => do return { s with outputDirectory := Path.ofString (← v.asPath) }
  | "use_bootstrap" => .ok { s with useBootstrap := v }
  | "column_layout" => .ok { s with columns := v }
  | "strict" => .ok { s with strict := v }
  | "skeleton" => .ok { s with skeleton := v }
  | "install_dependencies" => .ok { s with installsDependencies := v }
  | "command_timeout" => .ok { s with commandTimeout := v }
  | "angular_cli_package" => .ok { s with cliPackage := v }
  | _ => .ok s

def replaceAll (s : LooseSettings) : List (String × Value) → Except Value.Misuse LooseSettings
  | [] => .ok s
  | (name, v) :: rest => do (← s.replace name v).replaceAll rest

def members (s : LooseSettings) : List (String × Value) :=
  [("output_dir", .str s.outputDirectory.text), ("use_bootstrap", s.useBootstrap),
    ("column_layout", s.columns), ("strict", s.strict), ("skeleton", s.skeleton),
    ("install_dependencies", s.installsDependencies), ("command_timeout", s.commandTimeout),
    ("angular_cli_package", s.cliPackage)]

def text (s : LooseSettings) : String := Json.encode Json.settingsStyle (.object s.members)

mutual

/-- The first halves of surrogate pairs in the texts of a value. -/
def firstHalves? : Value → Option Text.Utf8.EncodeFailure
  | .str s => Text.Utf8.firstHalves? s.toList
  | .list items => firstHalvesOf? items
  | .object members => firstHalvesAmong? members
  | _ => none

/-- The first halves of surrogate pairs in the texts of items. -/
def firstHalvesOf? : List Value → Option Text.Utf8.EncodeFailure
  | [] => none
  | v :: rest => (firstHalves? v).orElse fun _ => firstHalvesOf? rest

/-- The first halves of surrogate pairs in the texts of members. -/
def firstHalvesAmong? : List (String × Value) → Option Text.Utf8.EncodeFailure
  | [] => none
  | (name, v) :: rest =>
    ((Text.Utf8.firstHalves? name.toList).orElse fun _ => firstHalves? v).orElse fun _ =>
      firstHalvesAmong? rest

end

structure SaveError where
  failure : Text.Utf8.EncodeFailure
  deriving DecidableEq, Repr

def SaveError.message (e : SaveError) : String :=
  "Error serializing to JSON: UnicodeEncodeError: " ++ e.failure.message

def saved (s : LooseSettings) : Except SaveError String :=
  match firstHalvesAmong? s.members with
  | some failure => .error ⟨failure⟩
  | none => .ok s.text

def holds (s : LooseSettings) (t : Settings) : Bool :=
  (s.members.zip t.loose.members).all fun (m, n) => m.2.sameScalar n.2

end LooseSettings

theorem Settings.layout_loose (s : Settings) : s.loose.layout = .value s.layout := rfl

theorem Settings.workspace_loose (s : Settings) : s.loose.workspace = s.workspace := by
  cases h : s.skeleton <;>
    simp [LooseSettings.workspace, Settings.workspace, Settings.loose, h, Value.sameScalar,
      SkeletonChoice.name, Document.ofValue, Schema.readText, Value.truthy]

theorem Settings.members_loose (s : Settings) : s.loose.members = s.members := rfl

end Formwork
