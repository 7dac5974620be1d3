import Formwork.Naming
import Formwork.Specification
import Formwork.TypeScript.Literal

/-!
The constraints of a field as an ordered list of directives: required, length, pattern, range.
Both the validators in a component's module and the error blocks in its markup come from this
list. The constraints of a bundle take the place of those on the field.
-/

namespace Formwork

inductive DirectiveKind | required | minLength | maxLength | pattern | min | max
  deriving DecidableEq, Repr, Inhabited

namespace DirectiveKind

/-- Every kind, in the order in which directives are listed. -/
def all : List DirectiveKind := [.required, .minLength, .maxLength, .pattern, .min, .max]

def name : DirectiveKind → String
  | .required => "required"
  | .minLength => "minlength"
  | .maxLength => "maxlength"
  | .pattern => "pattern"
  | .min => "min"
  | .max => "max"

def ofName? (word : String) : Option DirectiveKind := all.find? fun kind => kind.name == word

def title : DirectiveKind → String
  | .required => "Required"
  | .minLength => "MinLength"
  | .maxLength => "MaxLength"
  | .pattern => "Pattern"
  | .min => "Min"
  | .max => "Max"

/-- The function of Angular's `Validators` that checks a kind. -/
def validatorName : DirectiveKind → String
  | .required => "required"
  | .minLength => "minLength"
  | .maxLength => "maxLength"
  | .pattern => "pattern"
  | .min => "min"
  | .max => "max"

end DirectiveKind

/-- One validation rule. The argument is null where there is none. -/
structure Directive where
  kind : DirectiveKind
  argument : Value := .null
  deriving Inhabited

namespace Directive

def validatorWith (d : Directive) (argument : String) : String :=
  match d.kind with
  | .required => "Validators.required"
  | kind => "Validators." ++ kind.validatorName ++ "(" ++ argument ++ ")"

def validator (d : Directive) : Except Number.Oversized String :=
  match d.kind with
  | .required => .ok (d.validatorWith "")
  | _ => do return d.validatorWith (← TypeScript.literal d.argument)

def text (d : Directive) : Except Number.Oversized String :=
  match d.argument with
  | .null => .ok d.kind.title
  | argument =>
    if argument.isWritable then .ok (d.kind.title ++ "(" ++ argument.inspect ++ ")")
    else .error {}

def requiredIf (condition : Bool) : List Directive := if condition then [⟨.required, .null⟩] else []

def patternOf : Option String → List Directive
  | some pattern => if pattern = "" then [] else [⟨.pattern, .str pattern⟩]
  | none => []

def lengthOf (kind : DirectiveKind) : Option Nat → List Directive
  | some n => [⟨kind, .int n⟩]
  | none => []

def rangeOf : Option (Number × Number) → List Directive
  | some (low, high) => [⟨.min, low.toValue⟩, ⟨.max, high.toValue⟩]
  | none => []

def ofBundle (b : ValidationBundle) : List Directive :=
  requiredIf b.required ++ lengthOf .minLength b.minLength ++ lengthOf .maxLength b.maxLength ++
    patternOf b.regex ++ rangeOf b.range

def ofField (f : Field) : List Directive :=
  match f.validations with
  | none => requiredIf f.required ++ patternOf f.regex
  | some bundle => ofBundle bundle

end Directive

/-- The directives of a field and the messages for the constraints that it can violate. -/
structure CompiledField where
  directives : List Directive := []
  requiredMessage : String := ""
  patternMessage : String := ""
  deriving Inhabited

namespace CompiledField

def has (c : CompiledField) (kind : DirectiveKind) : Bool := c.directives.any (·.kind == kind)

def isRequired (c : CompiledField) : Bool := c.has .required

def pattern? (c : CompiledField) : Option String :=
  (c.directives.find? (·.kind == .pattern)).map (·.argument.display)

def validators (c : CompiledField) : Except Number.Oversized (List String) :=
  c.directives.mapM Directive.validator

/-- A message of the field, unless it is missing or empty. -/
def messageOr (override : Option String) (standard : String) : String :=
  match override with
  | some message => if message = "" then standard else message
  | none => standard

/-- Compiles a field. A message of its own stands for both standard messages. -/
def ofField (f : Field) : CompiledField where
  directives := Directive.ofField f
  requiredMessage := messageOr f.validationMessage (Naming.labelForm f.name ++ " is required")
  patternMessage := messageOr f.validationMessage (f.name ++ " format is invalid")

end CompiledField

end Formwork
