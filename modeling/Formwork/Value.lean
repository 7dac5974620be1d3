import Formwork.Number.Limit
import Formwork.Number.Shortest
import Formwork.Text.Quoted

/-!
Dynamic values: what templates look at, what literals are written from, and what is written as
JSON. An object keeps its members in order.
-/

namespace Formwork

/-- A value whose kind is known only when it is looked at. -/
inductive Value
  | null
  | bool (b : Bool)
  | int (n : Int)
  | float (x : Binary64)
  | str (s : String)
  | list (items : List Value)
  | object (members : List (String × Value))
  deriving Inhabited

namespace Value

def kindName : Value → String
  | .null => "NoneType"
  | .bool _ => "bool"
  | .int _ => "int"
  | .float _ => "float"
  | .str _ => "str"
  | .list _ => "list"
  | .object _ => "dict"

/-- Whether a value counts as true in a condition. -/
def truthy : Value → Bool
  | .null => false
  | .bool b => b
  | .int n => n != 0
  | .float x => !x.same Binary64.zero
  | .str s => s != ""
  | .list items => !items.isEmpty
  | .object members => !members.isEmpty

/-- The member of an object; of two members with one name the last counts. -/
def member? (members : List (String × Value)) (name : String) : Option Value :=
  (members.reverse.find? fun m => m.1 == name).map (·.2)

mutual

def inspect : Value → String
  | .null => "None"
  | .bool b => if b then "True" else "False"
  | .int n => toString n
  | .float x => x.text
  | .str s => Text.quoted s
  | .list items => "[" ++ ", ".intercalate (inspectAll items) ++ "]"
  | .object members => "\x7b" ++ ", ".intercalate (inspectMembers members) ++ "\x7d"

def inspectAll : List Value → List String
  | [] => []
  | v :: rest => inspect v :: inspectAll rest

def inspectMembers : List (String × Value) → List String
  | [] => []
  | (name, v) :: rest => (Text.quoted name ++ ": " ++ inspect v) :: inspectMembers rest

end

/-- A value as plain text: a text is itself, everything else is shown as inside a list. -/
def display : Value → String
  | .str s => s
  | v => inspect v

mutual

def isWritable : Value → Bool
  | .int n => Number.isShort n
  | .list items => areWritable items
  | .object members => hasWritable members
  | _ => true

def areWritable : List Value → Bool
  | [] => true
  | v :: rest => isWritable v && areWritable rest

def hasWritable : List (String × Value) → Bool
  | [] => true
  | (_, v) :: rest => isWritable v && hasWritable rest

end

def write (v : Value) : Except Number.Oversized String :=
  if v.isWritable then .ok v.display else .error {}

/-- The whole number that a value is equal to: truth values count as 0 and 1. -/
def toInt? : Value → Option Int
  | .bool b => some (if b then 1 else 0)
  | .int n => some n
  | .float x => x.toInt?
  | _ => none

/-- Why a value cannot be used: it cannot be looked up, has no member of a name, no parts, no items
or no order, or it names no place, nothing below one, and nothing of a kind. -/
inductive Misuse
  | unhashable (v : Value)
  | noMember (v : Value) (member : String)
  | noSlice
  | noParts (v : Value)
  | noItems (v : Value)
  | noOrder (sign : String) (v : Value)
  | noPath (v : Value)
  | noStep (v : Value)
  | noName (v : Value) (kind : String)
  deriving Inhabited

def Misuse.message : Misuse → String
  | .unhashable v => "unhashable type: " ++ Text.quoted v.kindName
  | .noMember v member =>
    Text.quoted v.kindName ++ " object has no attribute " ++ Text.quoted member
  | .noSlice => "unhashable type: 'slice'"
  | .noParts v => Text.quoted v.kindName ++ " object is not subscriptable"
  | .noItems v => Text.quoted v.kindName ++ " object is not iterable"
  | .noOrder sign v =>
    Text.quoted sign ++ " not supported between instances of " ++ Text.quoted v.kindName ++
      " and 'int'"
  | .noPath v => "expected str, bytes or os.PathLike object, not " ++ v.kindName
  | .noStep v => "unsupported operand type(s) for /: 'PosixPath' and " ++ Text.quoted v.kindName
  | .noName v kind => v.inspect ++ " is not a valid " ++ kind

def hashable : Value → Except Misuse Value
  | .list items => .error (.unhashable (.list items))
  | .object members => .error (.unhashable (.object members))
  | v => .ok v

def asText (member : String) : Value → Except Misuse String
  | .str s => .ok s
  | v => .error (.noMember v member)

def asObject (member : String) : Value → Except Misuse (List (String × Value))
  | .object members => .ok members
  | v => .error (.noMember v member)

def asWord : Value → Except Misuse String
  | .str s => .ok s
  | .list items => .error (.noMember (.list items) "upper")
  | .object _ => .error .noSlice
  | v => .error (.noParts v)

/-- What a value consists of: the items of a list, the characters of a text, or the names of the
members of an object. -/
def asItems : Value → Except Misuse (List Value)
  | .list items => .ok items
  | .str s => .ok (s.toList.map fun c => .str (String.singleton c))
  | .object members => .ok (members.map fun m => .str m.1)
  | v => .error (.noItems v)

def asPath : Value → Except Misuse String
  | .str s => .ok s
  | v => .error (.noPath v)

def asStep : Value → Except Misuse String
  | .str s => .ok s
  | v => .error (.noStep v)

def named {α : Type} (kind : String) (ofName? : String → Option α) (v : Value) :
    Except Misuse α :=
  match v with
  | .str word =>
    match ofName? word with
    | some a => .ok a
    | none => .error (.noName v kind)
  | _ => .error (.noName v kind)

/-- Whether two values that are no lists and no objects are equal. Truth values, whole numbers and
double precision numbers are compared as numbers. -/
def sameScalar (v w : Value) : Bool :=
  match v, w with
  | .null, .null => true
  | .str s, .str t => s == t
  | .float x, .float y => x.same y
  | _, _ =>
    match v.toInt?, w.toInt? with
    | some m, some n => m == n
    | _, _ => false

end Value

end Formwork
