import Formwork.Artifact
import Formwork.FileTree.Basic

/-!
Writing of artifacts below a directory. The target of an artifact has to lie in the directory when
all double dots are taken back; targets are settled before anything is written. Then every
artifact is written, and a failure of one does not keep the others from being written.
-/

namespace Formwork

inductive WriteError
  | escapes (path : String)
  | path (fault : FileFault)
  | encoding (f : Text.Utf8.EncodeFailure)
  | file (e : FileError)
  deriving DecidableEq, Repr

def WriteError.message : WriteError → String
  | .escapes p => "artifact path escapes project root: " ++ p
  | .path fault => (FileError.mk fault "").message
  | .encoding f => f.message
  | .file e => e.message

namespace Writer

def target (current : Place) (root : Path) (a : Artifact) : Except WriteError Place :=
  let path := root.join (Path.ofString a.path)
  match path.resolveFault?.or root.resolveFault? with
  | some fault => .error (.path fault)
  | none =>
    let place := path.resolve current
    if (root.resolve current).isPrefixOf place then .ok place else .error (.escapes a.path)

/-- Writes a file and, where they are missing, the directories above it. Of a text that cannot be
encoded the file stays empty. -/
def writeFile (t : FileTree) (place : Place) (content : String) :
    FileTree × Except WriteError Unit :=
  let path := FileTree.pathTo place
  match t.ensureDirectories [] path.parent with
  | (t', .error (fault, p)) => (t', .error (.file ⟨fault, p.text⟩))
  | (t', .ok ()) =>
    let encoded := Text.Utf8.encodeStrict content.toList
    match t'.write [] path (encoded.toOption.getD []) with
    | .ok t'' => (t'', (encoded.mapError .encoding).map fun _ => ())
    | .error fault => (t', .error (.file ⟨fault, path.text⟩))

/-- Writes files one after the other. The outcome is the first failure, if there is one. -/
def writeEach (t : FileTree) : List (Place × String) → FileTree × Except WriteError Unit
  | [] => (t, .ok ())
  | (place, content) :: rest =>
    match writeFile t place content with
    | (t', .ok ()) => writeEach t' rest
    | (t', .error e) => ((writeEach t' rest).1, .error e)

def writeAll (t : FileTree) (current : Place) (root : Path) (artifacts : List Artifact) :
    FileTree × Except WriteError (List Place) :=
  match artifacts.mapM (target current root) with
  | .error e => (t, .error e)
  | .ok targets =>
    match writeEach t (targets.zip (artifacts.map (·.content))) with
    | (t', .ok ()) => (t', .ok targets)
    | (t', .error e) => (t', .error e)

end Writer

end Formwork
