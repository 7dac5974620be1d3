import Formwork.FieldKind
import Formwork.Value

/-!
The specification of a form application: components, each a page with a form, their fields with
the constraints on them, and the frame around the pages.
-/

namespace Formwork

/-- A whole number or a double precision number, as a document gives it. -/
inductive Number
  | int (n : Int)
  | float (x : Binary64)
  deriving DecidableEq, Repr, Inhabited

namespace Number

/-- The order of numbers, exact between whole and double precision ones. -/
def lt (a b : Number) : Bool :=
  match a, b with
  | .int m, .int n => m < n
  | .float x, .float y => x.lt y
  | .int m, .float y => below m y
  | .float x, .int n => above x n
where
  /-- Whether a whole number is below a double precision one. -/
  below (m : Int) (y : Binary64) : Bool :=
    match y.fraction? with
    | some f => m * f.den < f.signedNum
    | none => y == .infinite false
  /-- Whether a double precision number is below a whole one. -/
  above (x : Binary64) (n : Int) : Bool :=
    match x.fraction? with
    | some f => f.signedNum < n * f.den
    | none => x == .infinite true

def toValue : Number → Value
  | .int n => .int n
  | .float x => .float x

def text (n : Number) : Except Oversized String := n.toValue.write

end Number

inductive DefaultValue
  | bool (b : Bool)
  | number (n : Number)
  | text (s : String)
  | texts (items : List String)
  deriving DecidableEq, Repr, Inhabited

def DefaultValue.toValue : DefaultValue → Value
  | .bool b => .bool b
  | .number n => n.toValue
  | .text s => .str s
  | .texts items => .list (items.map .str)

/-- Constraints of a field that are given together. They take the place of the constraints that
stand on the field itself. -/
structure ValidationBundle where
  required : Bool := false
  minLength : Option Nat := none
  maxLength : Option Nat := none
  regex : Option String := none
  range : Option (Number × Number) := none
  defaultValue : Option DefaultValue := none
  deriving DecidableEq, Repr, Inhabited

structure Field where
  name : String
  declaredKind : String := "textbox"
  required : Bool := false
  regex : Option String := none
  options : List String := []
  validationMessage : Option String := none
  validations : Option ValidationBundle := none
  deriving DecidableEq, Repr, Inhabited

def Field.kind (f : Field) : FieldKind := FieldKind.resolve f.declaredKind

structure Component where
  name : String
  menuName : Option String := none
  fields : List Field := []
  buttons : List String := []
  deriving DecidableEq, Repr, Inhabited

def Component.menuLabel (c : Component) : String :=
  match c.menuName with
  | some label => if label = "" then c.name else label
  | none => c.name

inductive Orientation | horizontal | vertical
  deriving DecidableEq, Repr, Inhabited

def Orientation.name : Orientation → String
  | .horizontal => "horizontal"
  | .vertical => "vertical"

def Orientation.ofName? : String → Option Orientation
  | "horizontal" => some .horizontal
  | "vertical" => some .vertical
  | _ => none

/-- A form application. The first component is the one shown at the start. -/
structure Specification where
  projectName : String
  components : List Component := []
  menuType : Orientation := .horizontal
  footerContent : Option String := none
  deriving DecidableEq, Repr, Inhabited

end Formwork
