import Formwork.Document
import Formwork.Number.Reading
import Formwork.Specification

/-!
Typed values read out of a document, with a located fault for every part that does not fit. A
reading of several parts reports the faults of all of them, in the order of the parts.
-/

namespace Formwork.Schema

inductive Cause
  | missing
  | notString
  | notUnicode
  | emptyString
  | notBoolean
  | unreadableBoolean
  | notInteger
  | unreadableInteger
  | fractionalInteger
  | oversizedInteger
  | notFinite
  | below (minimum : Int)
  | notNumber
  | unreadableNumber
  | notTuple
  | longTuple (allowed given : Nat)
  | notList
  | notRecord (record : String)
  | notObject
  | notOneOf (words : List String)
  | notPath
  | notJson (fault : String)
  deriving DecidableEq, Repr

/-- Words in quotes, the last one joined by `or`. -/
def alternatives : List String → String
  | [] => ""
  | [a] => "'" ++ a ++ "'"
  | [a, b] => "'" ++ a ++ "' or '" ++ b ++ "'"
  | a :: rest => "'" ++ a ++ "', " ++ alternatives rest

/-- The text of a cause. -/
def Cause.message : Cause → String
  | .missing => "Field required"
  | .notString => "Input should be a valid string"
  | .notUnicode =>
    "Input should be a valid string, unable to parse raw data as a unicode string"
  | .emptyString => "String should have at least 1 character"
  | .notBoolean => "Input should be a valid boolean"
  | .unreadableBoolean => "Input should be a valid boolean, unable to interpret input"
  | .notInteger => "Input should be a valid integer"
  | .unreadableInteger => "Input should be a valid integer, unable to parse string as an integer"
  | .fractionalInteger => "Input should be a valid integer, got a number with a fractional part"
  | .oversizedInteger => "Unable to parse input string as an integer, exceeded maximum size"
  | .notFinite => "Input should be a finite number"
  | .below minimum => "Input should be greater than or equal to " ++ toString minimum
  | .notNumber => "Input should be a valid number"
  | .unreadableNumber => "Input should be a valid number, unable to parse string as a number"
  | .notTuple => "Input should be a valid tuple"
  | .longTuple allowed given =>
    "Tuple should have at most " ++ toString allowed ++ " items after validation, not " ++
      toString given
  | .notList => "Input should be a valid list"
  | .notRecord record => "Input should be a valid dictionary or instance of " ++ record
  | .notObject => "Input should be an object"
  | .notOneOf words => "Input should be " ++ alternatives words
  | .notPath => "Input is not a valid path for <class 'pathlib.Path'>"
  | .notJson fault => "Invalid JSON: " ++ fault

/-- A cause at a place, given by the keys and positions that lead to it. -/
structure Fault where
  place : List String := []
  cause : Cause
  deriving DecidableEq, Repr

def Fault.text (f : Fault) : String :=
  (if f.place.isEmpty then "<root>" else ".".intercalate f.place) ++ ": " ++ f.cause.message

def faultsText (faults : List Fault) : String := "; ".intercalate (faults.map Fault.text)

inductive Reading (α : Type)
  | value (a : α)
  | faulty (faults : List Fault)
  deriving DecidableEq, Repr, Inhabited

namespace Reading

def fail {α : Type} (cause : Cause) : Reading α := .faulty [⟨[], cause⟩]

def map {α β : Type} (f : α → β) : Reading α → Reading β
  | .value a => .value (f a)
  | .faulty faults => .faulty faults

/-- Applies a function that is read to a value that is read. The faults of both are reported. -/
def ap {α β : Type} (f : Reading (α → β)) (x : Reading α) : Reading β :=
  match f, x with
  | .value g, .value a => .value (g a)
  | .faulty p, .value _ => .faulty p
  | .value _, .faulty q => .faulty q
  | .faulty p, .faulty q => .faulty (p ++ q)

instance : Applicative Reading where
  pure := .value
  map := map
  seq f x := ap f (x ())

def check {α β : Type} (x : Reading α) (f : α → Reading β) : Reading β :=
  match x with
  | .value a => f a
  | .faulty faults => .faulty faults

def under {α : Type} (key : String) : Reading α → Reading α
  | .value a => .value a
  | .faulty faults => .faulty (faults.map fun f => ⟨key :: f.place, f.cause⟩)

def toExcept {α : Type} : Reading α → Except (List Fault) α
  | .value a => .ok a
  | .faulty faults => .error faults

end Reading

open Number.Reading

def textOfOctets? (data : Text.Octets) : Option String :=
  match Text.Utf8.decode data with
  | .ok cs => some (String.ofList cs)
  | .error _ => none

/-- A text. Octets that encode one are accepted. -/
def readText : Document → Reading String
  | .text s => .value s
  | .octets data =>
    match textOfOctets? data with
    | some s => .value s
    | none => .fail .notUnicode
  | _ => .fail .notString

/-- Goes on with a text in which no half of a surrogate pair stands alone. -/
def whole {α : Type} (s : String) (f : String → Reading α) : Reading α :=
  if Text.holdsHalf s then .fail .notUnicode else f s

def readNonemptyText (d : Document) : Reading String :=
  (readText d).check fun s =>
    whole s fun s => if s = "" then .fail .emptyString else .value s

def booleanOfWord (s : String) : Reading Bool :=
  let word := String.ofList (s.toList.map Char.toLower)
  if ["0", "off", "f", "false", "n", "no"].contains word then .value false
  else if ["1", "on", "t", "true", "y", "yes"].contains word then .value true
  else .fail .unreadableBoolean

def isWithin64Bits (n : Int) : Bool := -(Nat.pow 2 63 : Int) ≤ n && n < Nat.pow 2 63

/-- Whether a double precision number is converted to the whole number that it is equal to. The
least one of 64 bits is not. -/
def isConvertible (n : Int) : Bool := isWithin64Bits n && n ≠ -(Nat.pow 2 63 : Int)

/-- A truth value given as a number, which may be out of the range of those that are looked at. -/
def booleanOfInt (inRange : Bool) (n : Int) : Reading Bool :=
  if n = 0 then .value false
  else if n = 1 then .value true
  else if inRange then .fail .unreadableBoolean
  else .fail .notBoolean

/-- A truth value, or a number or a word that stands for one. -/
def readBoolean : Document → Reading Bool
  | .bool b => .value b
  | .int n => booleanOfInt (isWithin64Bits n) n
  | .float x =>
    match x.toInt? with
    | some n => booleanOfInt (isConvertible n) n
    | none => .fail .notBoolean
  | .text s => whole s booleanOfWord
  | .octets data =>
    match textOfOctets? data with
    | some s => booleanOfWord s
    | none => .fail .unreadableBoolean
  | _ => .fail .notBoolean

def integerOfText (s : String) : Reading Int :=
  match strictInt s.toList with
  | .ok n => .value n
  | .error (.oversized _) => .fail .oversizedInteger
  | .error _ => .fail .unreadableInteger

def integerOfFloat (x : Binary64) : Reading Int :=
  match x with
  | .nan | .infinite _ => .fail .notFinite
  | _ =>
    match x.toInt? with
    | some n => if isConvertible n then .value n else .fail .oversizedInteger
    | none => .fail .fractionalInteger

/-- A whole number, or a value that stands for one. -/
def readInteger : Document → Reading Int
  | .int n => .value n
  | .bool b => .value (if b then 1 else 0)
  | .float x => integerOfFloat x
  | .text s => whole s integerOfText
  | .octets data =>
    match textOfOctets? data with
    | some s => integerOfText s
    | none => .fail .unreadableInteger
  | _ => .fail .notInteger

def readIntegerFrom (minimum : Int) (d : Document) : Reading Int :=
  (readInteger d).check fun n => if n < minimum then .fail (.below minimum) else .value n

def readLength (d : Document) : Reading Nat := (readIntegerFrom 0 d).map Int.toNat

def floatOfText (s : String) : Reading Binary64 :=
  match lenientDecimal? s.toList with
  | some x => .value x
  | none => .fail .unreadableNumber

/-- A double precision number, or a value that stands for one. -/
def readFloat : Document → Reading Binary64
  | .float x => .value x
  | .int n => .value (.ofInt n)
  | .bool b => .value (.ofInt (if b then 1 else 0))
  | .text s => whole s floatOfText
  | .octets data =>
    match textOfOctets? data with
    | some s => floatOfText s
    | none => .fail .unreadableNumber
  | _ => .fail .notNumber

def firstOf {α : Type} : List (String × Reading α) → Reading α
  | [] => .faulty []
  | (key, r) :: rest =>
    match r.under key with
    | .value a => .value a
    | .faulty p =>
      match firstOf rest with
      | .value a => .value a
      | .faulty q => .faulty (p ++ q)

/-- A number. One that is given as a number keeps its kind; any other value is read as a whole
number if it can be. -/
def readNumber : Document → Reading Number
  | .int n => .value (.int n)
  | .float x => .value (.float x)
  | d => firstOf [("int", (readInteger d).map .int), ("float", (readFloat d).map .float)]

def items? : Document → Option (List Document)
  | .list items | .set items => some items
  | _ => none

def readItems {α : Type} (read : Document → Reading α) : (first : Nat) → List Document →
    Reading (List α)
  | _, [] => .value []
  | i, d :: rest => List.cons <$> (read d).under (toString i) <*> readItems read (i + 1) rest

def readList {α : Type} (read : Document → Reading α) (d : Document) : Reading (List α) :=
  match items? d with
  | some items => readItems read 0 items
  | none => .fail .notList

def readPair {α : Type} (read : Document → Reading α) (d : Document) : Reading (α × α) :=
  match items? d with
  | none => .fail .notTuple
  | some [] => Prod.mk <$> (Reading.fail .missing).under "0" <*> (Reading.fail .missing).under "1"
  | some [a] => Prod.mk <$> (read a).under "0" <*> (Reading.fail .missing).under "1"
  | some [a, b] => Prod.mk <$> (read a).under "0" <*> (read b).under "1"
  | some items => .fail (.longTuple 2 items.length)

def readOptional {α : Type} (read : Document → Reading α) : Document → Reading (Option α)
  | .null => .value none
  | d => (read d).map some

def readWord {α : Type} (words : List String) (ofWord : String → Option α) (d : Document) :
    Reading α :=
  match readText d with
  | .value s =>
    whole s fun s =>
      match ofWord s with
      | some a => .value a
      | none => .fail (.notOneOf words)
  | .faulty _ => .fail (.notOneOf words)

/-- A member of a record under its name in documents or, failing that, under the name of the
attribute. -/
def readMember {α : Type} (entries : List (Document × Document)) (names : List String)
    (read : Document → Reading α) (absent : Reading α) : Reading α :=
  match names.findSome? fun name => (Document.member? entries name).map (name, ·) with
  | some (name, d) => (read d).under name
  | none =>
    match names with
    | name :: _ => absent.under name
    | [] => absent

def readRequired {α : Type} (entries : List (Document × Document)) (names : List String)
    (read : Document → Reading α) : Reading α :=
  readMember entries names read (.fail .missing)

def readDefaulted {α : Type} (entries : List (Document × Document)) (names : List String)
    (read : Document → Reading α) (standard : α) : Reading α :=
  readMember entries names read (.value standard)

def readRecord {α : Type} (record : String)
    (read : List (Document × Document) → Reading α) : Document → Reading α
  | .map entries => read entries
  | _ => .fail (.notRecord record)

end Formwork.Schema
