import Formwork.FileTree.Path
import Formwork.Text.Quoted
import Formwork.Text.Utf8

/-!
A tree of directories and files, seen from a current directory. Places are given by the names from
the root. The tree has no links, so every directory has one place.
-/

namespace Formwork

abbrev Place := List String

inductive Entry
  | directory
  | file (content : Text.Octets)
  deriving DecidableEq, Repr, Inhabited

/-- A tree of directories and files. The root is always there. -/
structure FileTree where
  entries : List (Place × Entry) := []
  deriving DecidableEq, Repr, Inhabited

inductive FileFault
  | notFound
  | isDirectory
  | notDirectory
  | exists
  | nameTooLong
  | nulInPath
  | encoding (f : Text.Utf8.EncodeFailure)
  deriving DecidableEq, Repr, Inhabited

structure FileError where
  fault : FileFault
  path : String
  deriving DecidableEq, Repr

def FileError.message (e : FileError) : String :=
  let numbered (n : Nat) (reason : String) : String :=
    "[Errno " ++ toString n ++ "] " ++ reason ++ ": " ++ Text.quoted e.path
  match e.fault with
  | .notFound => numbered 2 "No such file or directory"
  | .exists => numbered 17 "File exists"
  | .notDirectory => numbered 20 "Not a directory"
  | .isDirectory => numbered 21 "Is a directory"
  | .nameTooLong => numbered 36 "File name too long"
  | .nulInPath => "embedded null byte"
  | .encoding f => f.message

namespace Path

/-- Why the file system cannot be asked about a path: its text has no octets, or it has the octet
that ends texts. -/
def fault? (p : Path) : Option FileFault :=
  match Text.Utf8.firstUnnamed? p.text.toList with
  | some f => some (.encoding f)
  | none => if p.hasNul then some .nulInPath else none

/-- A path with one more name. A double dot takes back the name before it, if there is one. -/
def step (p : Path) (part : String) : Path :=
  if part ≠ ".." then { p with parts := p.parts ++ [part] }
  else
    match p.parts.getLast? with
    | none => if p.isAbsolute then p else { p with parts := [".."] }
    | some last =>
      { p with parts := if last = ".." then p.parts ++ [".."] else p.parts.dropLast }

/-- The first fault when names are followed from a path and each path on the way is looked at. -/
def faultAlong? (p : Path) : List String → Option FileFault
  | [] => none
  | part :: rest => (p.step part).fault?.or ((p.step part).faultAlong? rest)

def resolveFault? (p : Path) : Option FileFault :=
  faultAlong? { root := if p.isAbsolute then "/" else "" } p.parts

def size (p : Path) : Nat := (Text.Utf8.nameOctets p.text.toList).length

end Path

namespace FileTree

def pathTo (place : Place) : Path := { root := "/", parts := place }

def lookup (t : FileTree) (place : Place) : Option Entry :=
  if place.isEmpty then some .directory else t.entries.lookup place

def put (t : FileTree) (place : Place) (entry : Entry) : FileTree :=
  { entries := replaceIn t.entries }
where
  /-- The entries with the one of the place replaced. -/
  replaceIn : List (Place × Entry) → List (Place × Entry)
    | [] => [(place, entry)]
    | (p, e) :: rest => if p = place then (p, entry) :: rest else (p, e) :: replaceIn rest

def isDirectory (t : FileTree) (place : Place) : Bool := t.lookup place == some .directory

def isFile (t : FileTree) (place : Place) : Bool :=
  match t.lookup place with
  | some (.file _) => true
  | _ => false

/-- The longest name, in octets. -/
def longestName : Nat := 255

/-- The longest path, in octets. -/
def longestPath : Nat := 4095

def nameSize (name : String) : Nat := (Text.Utf8.nameOctets name.toList).length

/-- Follows names from a place. Every place on the way has to be a directory. -/
def walk (t : FileTree) : Place → List String → Except FileFault Place
  | place, [] => .ok place
  | place, part :: rest =>
    match t.lookup place with
    | none => .error .notFound
    | some (.file _) => .error .notDirectory
    | some .directory =>
      if part = ".." then walk t place.dropLast rest
      else if longestName < nameSize part then .error .nameTooLong
      else walk t (place ++ [part]) rest

/-- The place that a path leads to, seen from a directory. There need not be anything. -/
def locate (t : FileTree) (current : Place) (p : Path) : Except FileFault Place :=
  match p.fault? with
  | some fault => .error fault
  | none =>
    if longestPath < p.size then .error .nameTooLong
    else t.walk (if p.isAbsolute then [] else current) p.parts

def find (t : FileTree) (current : Place) (p : Path) : Except FileFault (Place × Entry) := do
  let place ← t.locate current p
  match t.lookup place with
  | some entry => .ok (place, entry)
  | none => .error .notFound

def read (t : FileTree) (current : Place) (p : Path) : Except FileFault Text.Octets := do
  match ← t.find current p with
  | (_, .file content) => .ok content
  | (_, .directory) => .error .isDirectory

/-- Writes a file. What was in the file before is lost. -/
def write (t : FileTree) (current : Place) (p : Path) (content : Text.Octets) :
    Except FileFault FileTree := do
  let place ← t.locate current p
  match t.lookup place with
  | some .directory => .error .isDirectory
  | _ => .ok (t.put place (.file content))

def makeDirectory (t : FileTree) (current : Place) (p : Path) : Except FileFault FileTree := do
  let place ← t.locate current p
  match t.lookup place with
  | some _ => .error .exists
  | none => .ok (t.put place .directory)

def leadsToDirectory (t : FileTree) (current : Place) (p : Path) : Bool :=
  match t.find current p with
  | .ok (_, .directory) => true
  | _ => false

def ensureDirectory (t : FileTree) (current : Place) (p : Path) :
    Except (FileFault × Path) FileTree :=
  match t.makeDirectory current p with
  | .ok t' => .ok t'
  | .error fault => if t.leadsToDirectory current p then .ok t else .error (fault, p)

/-- The tree after a change that may fail, and the failure. A change that fails changes nothing. -/
def settle {ε : Type} (t : FileTree) : Except ε FileTree → FileTree × Except ε Unit
  | .ok t' => (t', .ok ())
  | .error e => (t, .error e)

/-- Makes a directory and, where they are missing, the directories above it. On failure the
directories made so far remain. -/
def ensureDirectories (t : FileTree) (current : Place) (p : Path) :
    FileTree × Except (FileFault × Path) Unit :=
  ensureFrom p.parts.length t p
where
  /-- Makes the directories of a path of at most `fuel` names. -/
  ensureFrom : (fuel : Nat) → FileTree → Path → FileTree × Except (FileFault × Path) Unit
    | 0, t, p => t.settle (t.ensureDirectory current p)
    | fuel + 1, t, p =>
      match t.makeDirectory current p with
      | .error .notFound =>
        match ensureFrom fuel t p.parent with
        | (t', .error e) => (t', .error e)
        | (t', .ok ()) => t'.settle (t'.ensureDirectory current p)
      | _ => t.settle (t.ensureDirectory current p)

def isBelow (above place : Place) : Bool := above.isPrefixOf place && above.length < place.length

def isEmptyAt (t : FileTree) (place : Place) : Bool :=
  !t.entries.any fun e => isBelow place e.1

def leaves (t : FileTree) : List (Place × Entry) :=
  t.entries.filter fun (place, entry) =>
    match entry with
    | .file _ => true
    | .directory => t.isEmptyAt place

def withDirectories (t : FileTree) (place : Place) : FileTree :=
  (List.range place.length).foldl
    (fun t n =>
      let above := place.take (n + 1)
      if (t.lookup above).isSome then t else t.put above .directory)
    t

def withFile (t : FileTree) (place : Place) (content : Text.Octets) : FileTree :=
  (t.withDirectories place.dropLast).put place (.file content)

end FileTree

end Formwork
