/-!
Paths as they are written: an optional root and the names on the way. Empty names and single dots
are dropped when a path is read; double dots stay.
-/

namespace Formwork

/-- A path. `root` is empty for a relative path. -/
structure Path where
  root : String := ""
  parts : List String := []
  deriving DecidableEq, Repr, Inhabited

namespace Path

def splitSlashes (cs : List Char) : List (List Char) :=
  match cs with
  | [] => [[]]
  | c :: rest =>
    if c = '/' then [] :: splitSlashes rest
    else
      match splitSlashes rest with
      | piece :: more => (c :: piece) :: more
      | [] => [[c]]

/-- The root that a text begins with. Two slashes are a root of their own, more are one slash. -/
def rootOf : List Char → String
  | ['/', '/'] => "//"
  | '/' :: '/' :: c :: _ => if c = '/' then "/" else "//"
  | '/' :: _ => "/"
  | _ => ""

def ofString (s : String) : Path where
  root := rootOf s.toList
  parts := ((splitSlashes s.toList).map String.ofList).filter fun part => part ≠ "" ∧ part ≠ "."

/-- The text of a path. The empty relative path is a single dot. -/
def text (p : Path) : String :=
  if p.root = "" ∧ p.parts.isEmpty then "." else p.root ++ "/".intercalate p.parts

def isAbsolute (p : Path) : Bool := p.root != ""

/-- One path below another; an absolute one stands for itself. -/
def join (p q : Path) : Path := if q.isAbsolute then q else { p with parts := p.parts ++ q.parts }

def parent (p : Path) : Path := { p with parts := p.parts.dropLast }

def name (p : Path) : String := (p.parts.getLast?).getD ""

/-- The end of a name from its last dot on. A dot at either end of the name begins no suffix. -/
def suffixOf (name : List Char) : List Char :=
  let ending := (name.reverse.takeWhile (· ≠ '.')).reverse
  let before := name.length - ending.length
  if 1 < before ∧ !ending.isEmpty then '.' :: ending else []

/-- The end of the last name from its last dot on. -/
def suffix (p : Path) : String := String.ofList (suffixOf p.name.toList)

/-- Names in sequence from the root of the tree: a double dot takes back the name before it. -/
def normalize : (above : List String) → List String → List String
  | above, [] => above.reverse
  | above, part :: rest =>
    if part = ".." then normalize above.tail rest else normalize (part :: above) rest

/-- The names from the root of the tree to the place of a path, seen from a directory. -/
def resolve (current : List String) (p : Path) : List String :=
  if p.isAbsolute then normalize [] p.parts else normalize current.reverse p.parts

/-- The path from a directory to a place, both given from the root of the tree. -/
def relative : (current place : List String) → Path
  | c :: current, p :: place =>
    if c = p then relative current place
    else { parts := List.replicate (current.length + 1) ".." ++ p :: place }
  | current, place => { parts := List.replicate current.length ".." ++ place }

/-- Whether a text on the way holds the character that ends names. -/
def hasNul (p : Path) : Bool := p.parts.any fun part => part.toList.contains '\x00'

end Path

end Formwork
