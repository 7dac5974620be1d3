import Formwork.Naming
import Formwork.Text.Lines
import Formwork.TypeScript.Literal

/-!
Templates: text with places that are filled from a scope. A name or a member that is not there is
an error, so that a missing value never renders as nothing. Nothing is escaped.
-/

namespace Formwork.Template

inductive Filter
  | classForm
  | pathForm
  | labelForm
  | literal
  | indent (width : Nat)
  | join (separator : String)
  deriving DecidableEq, Repr

inductive Expr
  | named (name : String)
  | member (of : Expr) (name : String)
  | written (of : Expr)
  | filtered (e : Expr) (filter : Filter)
  | whenWord (e : Expr) (word : String) (yes no : String)
  | unlessLast (text : String)
  deriving Repr

inductive Piece
  | text (s : String)
  | value (e : Expr)
  | each (binder : String) (items : Expr) (body : List Piece)
  | whenTrue (condition : Expr) (body : List Piece)
  | whenFalse (condition : Expr) (body : List Piece)

inductive Error
  | undefined (name : String)
  | noMember (kind member : String)
  | notIterable (kind : String)
  | notCallable (kind : String)
  | notSliceable (kind : String)
  | noMethod (kind method : String)
  | notJoinable (kind : String)
  | oversized (e : Number.Oversized)
  | unknownTemplate (name : String)
  deriving DecidableEq, Repr

/-- The text of an error. -/
def Error.message : Error → String
  | .undefined name => Text.quoted name ++ " is undefined"
  | .noMember kind member =>
    Text.quoted (if kind = "NoneType" then "None" else kind ++ " object") ++
      " has no attribute " ++ Text.quoted member
  | .notIterable kind => "'" ++ kind ++ "' object is not iterable"
  | .notCallable kind => "'" ++ kind ++ "' object is not callable"
  | .notSliceable kind =>
    if kind = "dict" then "unhashable type: 'slice'"
    else "'" ++ kind ++ "' object is not subscriptable"
  | .noMethod kind method => "'" ++ kind ++ "' object has no attribute '" ++ method ++ "'"
  | .notJoinable kind => "unsupported operand type(s) for +=: '" ++ kind ++ "' and 'str'"
  | .oversized e => e.message
  | .unknownTemplate name => name

/-- What a name of a scope stands for: a dynamic value, or entries that know their own written
form. -/
inductive Datum
  | value (v : Value)
  | entry (written : String)
  | entries (written : List String)
  deriving Inhabited

/-- The names that a template may use. `isLast` tells whether the innermost loop is in its last
round. -/
structure Scope where
  names : List (String × Datum)
  isLast : Bool := false

def Scope.ofMembers (members : List (String × Value)) : Scope :=
  { names := (members.map fun m => (m.1, Datum.value m.2)).reverse }

def Scope.round (s : Scope) (binder : String) (item : Datum) (isLast : Bool) : Scope :=
  { names := (binder, item) :: s.names, isLast }

def Datum.kindName : Datum → String
  | .value v => v.kindName
  | .entry _ => "entry"
  | .entries _ => "list"

def Datum.toValue : Datum → Value
  | .value v => v
  | .entry written => .str written
  | .entries written => .list (written.map .str)

/-- The items that a loop runs over: those of a list, the characters of a text, or the names of
the members of an object. -/
def Datum.items : Datum → Except Error (List Datum)
  | .value (.list items) => .ok (items.map .value)
  | .value (.str s) => .ok (s.toList.map fun c => .value (.str (String.ofList [c])))
  | .value (.object members) => .ok (members.map fun m => .value (.str m.1))
  | .entries written => .ok (written.map .entry)
  | d => .error (.notIterable d.kindName)

def textOf (v : Value) : Except Error String := v.write.mapError .oversized

/-- A filter on a value. -/
def Filter.apply : Filter → Value → Except Error Value
  | .classForm, .str s => .ok (.str (Naming.classForm s))
  | .classForm, .list _ => .error (.noMethod "list" "upper")
  | .classForm, v => .error (.notSliceable v.kindName)
  | .pathForm, .str s => .ok (.str (Naming.pathForm s))
  | .pathForm, v => .error (.noMethod v.kindName "lower")
  | .labelForm, .str s => .ok (.str (Naming.labelForm s))
  | .labelForm, v => .error (.noMethod v.kindName "split")
  | .literal, v => do return .str (← (TypeScript.literal v).mapError .oversized)
  | .indent width, .str s => .ok (.str (Text.indent width s))
  | .indent _, .list _ => .error (.noMethod "list" "splitlines")
  | .indent _, v => .error (.notJoinable v.kindName)
  | .join separator, v => do
    let items ← (Datum.value v).items
    return .str (separator.intercalate (← items.mapM fun d => textOf d.toValue))

/-- The datum that an expression stands for. -/
def Expr.eval (s : Scope) : Expr → Except Error Datum
  | .named name =>
    match s.names.lookup name with
    | some d => .ok d
    | none => .error (.undefined name)
  | .member of name => do
    match ← of.eval s with
    | .value (.object members) =>
      match Value.member? members name with
      | some v => .ok (.value v)
      | none => .error (.noMember "dict" name)
    | d => .error (.noMember d.kindName name)
  | .written of => do
    match ← of.eval s with
    | .entry text => .ok (.value (.str text))
    | .value (.object members) =>
      match Value.member? members "to_typescript" with
      | some v => .error (.notCallable v.kindName)
      | none => .error (.noMember "dict" "to_typescript")
    | d => .error (.noMember d.kindName "to_typescript")
  | .filtered e filter => do
    let d ← e.eval s
    return .value (← filter.apply d.toValue)
  | .whenWord e word yes no => do
    match ← e.eval s with
    | .value (.str w) => .ok (.value (.str (if w = word then yes else no)))
    | _ => .ok (.value (.str no))
  | .unlessLast text => .ok (.value (.str (if s.isLast then "" else text)))

def rounds (s : Scope) (binder : String) : List Datum → List Scope
  | [] => []
  | [d] => [s.round binder d true]
  | d :: rest => s.round binder d false :: rounds s binder rest

mutual

def Piece.render (s : Scope) : Piece → Except Error String
  | .text t => .ok t
  | .value e => do textOf (← e.eval s).toValue
  | .each binder items body => do
    let texts ← (rounds s binder (← (← items.eval s).items)).mapM fun round =>
      renderAll round body
    return String.join texts
  | .whenTrue condition body => do
    if (← condition.eval s).toValue.truthy then renderAll s body else return ""
  | .whenFalse condition body => do
    if (← condition.eval s).toValue.truthy then return "" else renderAll s body

def renderAll (s : Scope) : List Piece → Except Error String
  | [] => .ok ""
  | p :: rest => do
    let text ← p.render s
    let more ← renderAll s rest
    return text ++ more

end

def slot (name : String) : Piece := .value (.named name)

def slotOf (name member : String) : Piece := .value (.member (.named name) member)

def literalSlot (name : String) : Piece := .value (.filtered (.named name) .literal)

def line (s : String) : Piece := .text (s ++ "\n")

end Formwork.Template

namespace Formwork

structure Template where
  name : String
  pieces : List Template.Piece

def Template.render (t : Template) (s : Template.Scope) : Except Template.Error String :=
  Template.renderAll s t.pieces

end Formwork
