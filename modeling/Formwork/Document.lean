import Formwork.Text.Utf8
import Formwork.Value

/-!
Data read from a document. Beyond dynamic values there are the kinds that only some formats have:
octets, dates and sets. A mapping keeps its entries in order, and its keys may be of any scalar
kind.
-/

namespace Formwork

inductive Document
  | null
  | bool (b : Bool)
  | int (n : Int)
  | float (x : Binary64)
  | text (s : String)
  | octets (data : Text.Octets)
  | date (year month day : Nat)
  | timestamp (text : String)
  | list (items : List Document)
  | set (items : List Document)
  | map (entries : List (Document × Document))
  deriving Inhabited

namespace Document

/-- A number as a key: whole and double precision numbers and truth values that are equal are the
same key. -/
def asNumber? : Document → Option (Int ⊕ Binary64)
  | .bool b => some (.inl (if b then 1 else 0))
  | .int n => some (.inl n)
  | .float x =>
    match x.toInt? with
    | some n => some (.inl n)
    | none => some (.inr x)
  | _ => none

/-- Whether two scalars are the same key of a mapping. -/
def sameKey (a b : Document) : Bool :=
  match a, b with
  | .null, .null => true
  | .text s, .text t => s == t
  | .octets s, .octets t => s == t
  | .date y m d, .date y' m' d' => y == y' && m == m' && d == d'
  | .timestamp s, .timestamp t => s == t
  | _, _ =>
    match a.asNumber?, b.asNumber? with
    | some (.inl m), some (.inl n) => m == n
    | some (.inr x), some (.inr y) => x.same y
    | _, _ => false

/-- Adds an entry. A key that is there keeps its place and takes the new value. -/
def put (key value : Document) : List (Document × Document) → List (Document × Document)
  | [] => [(key, value)]
  | (k, v) :: rest => if k.sameKey key then (k, value) :: rest else (k, v) :: put key value rest

def get? (key : Document) (entries : List (Document × Document)) : Option Document :=
  (entries.find? fun entry => entry.1.sameKey key).map (·.2)

def member? (entries : List (Document × Document)) (name : String) : Option Document :=
  get? (.text name) entries

mutual

def ofValue : Value → Document
  | .null => .null
  | .bool b => .bool b
  | .int n => .int n
  | .float x => .float x
  | .str s => .text s
  | .list items => .list (ofValues items)
  | .object members => .map (ofMembers members)

def ofValues : List Value → List Document
  | [] => []
  | v :: rest => ofValue v :: ofValues rest

def ofMembers : List (String × Value) → List (Document × Document)
  | [] => []
  | (name, v) :: rest => (.text name, ofValue v) :: ofMembers rest

end

end Document

end Formwork
