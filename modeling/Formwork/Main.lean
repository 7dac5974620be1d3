import Formwork.CommandLine.Program

/-!
The program as it is started from a shell. The specification is read before the run and the files
are written after it; input is asked for a line at a time, and the run is taken up again with every
line. External commands are not called: each of them is answered by a failure, so that a run which
needs them stops before it writes anything.
-/

namespace Formwork.Main

open CommandLine

def variableNames : List String :=
  ["NGS_OUTPUT_DIR", "NGS_USE_BOOTSTRAP", "NGS_COLUMN_LAYOUT", "NGS_STRICT", "NGS_SKELETON",
    "NGS_INSTALL_DEPENDENCIES", "NGS_COMMAND_TIMEOUT"]

/-- The answer to every external command. -/
def refusal : Reply := { code := 127, errors := "external commands are not available" }

def refusals : List Reply := List.replicate 8 refusal

def entryAt (path : String) : IO (Option Entry) := do
  let place := (← IO.currentDir) / path
  if ← place.isDir then return some .directory
  else if ← place.pathExists then return some (.file (← IO.FS.readBinFile place).toList)
  else return none

def startingTree (current : Place) (arguments : List String) : IO FileTree := do
  let tree := ({} : FileTree).withDirectories current
  match Arguments.read arguments with
  | .error _ => return tree
  | .ok (specification, _) =>
    let place := (Path.ofString specification).resolve current
    match ← entryAt (FileTree.pathTo place).text with
    | some (.file content) => return tree.withFile place content
    | some .directory => return tree.withDirectories place
    | none => return tree

def writeChanges (before after : FileTree) : IO Unit := do
  for (place, entry) in after.entries do
    if before.lookup place ≠ some entry then
      match entry with
      | .directory => IO.FS.createDirAll (FileTree.pathTo place).text
      | .file content =>
        IO.FS.writeBinFile (FileTree.pathTo place).text (ByteArray.mk content.toArray)

/-- Runs the program with the input so far, prints what is new on the console, and goes on with
another line where one is asked for. -/
partial def converse (site : Site) (start : Start) (session : Session) (printed : Nat) :
    IO (Except Ending Unit × Session) := do
  let (ending, after) := execute site start session
  (← IO.getStdout).putStr (String.ofList (after.console.toList.drop printed))
  (← IO.getStdout).flush
  match ending with
  | .error (.broken .endOfInput) =>
    let line ← (← IO.getStdin).getLine
    if line.isEmpty then return (ending, after)
    else
      converse site { start with input := start.input ++ inputLines line } session
        after.console.length
  | _ => return (ending, after)

end Formwork.Main

open Formwork Formwork.CommandLine in
def main (arguments : List String) : IO UInt32 := do
  let current := (Path.ofString (← IO.currentDir).toString).resolve []
  let mut environment : Environment := []
  for name in Main.variableNames do
    match ← IO.getEnv name with
    | some value => environment := environment ++ [(name, value)]
    | none => pure ()
  let columns := ((← IO.getEnv "COLUMNS").bind String.toNat?).getD 80
  let tree ← Main.startingTree current arguments
  let site : Site := ⟨current, columns, fun _ => "the text is not well-formed"⟩
  let (ending, after) ← Main.converse site { arguments, environment }
    { tree, replies := Main.refusals } 0
  Main.writeChanges tree after.tree
  match ending with
  | .ok () => return 0
  | .error (.exit code complaint) =>
    IO.eprint complaint
    return code.toUInt32
  | .error (.broken e) =>
    IO.eprintln e.message
    return 1
