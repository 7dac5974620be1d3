import Formwork.Issue
import Formwork.Layout
import Formwork.Naming
import Formwork.Specification

/-!
Consistency of a specification. Generation accepts nearly every specification and renders
degenerate output for a bad one; the checks find what is bad about it, in document order.
-/

namespace Formwork

/-- Column counts that the style sheets are made for. -/
def supportedColumns : List Int := [2, 3, 4]

/-- The component that first used a name form, for each form in use. -/
abbrev FirstUses := List (String × String)

/-- The component names seen so far, by route and by class. -/
structure NamesSeen where
  routes : FirstUses := []
  classes : FirstUses := []
  deriving Inhabited

def FirstUses.note (uses : FirstUses) (form name : String) : FirstUses :=
  match uses.lookup form with
  | some _ => uses
  | none => uses ++ [(form, name)]

def routeIssues (seen : NamesSeen) (name : String) : List Issue :=
  let route := Naming.pathForm name
  match seen.routes.lookup route with
  | some earlier =>
    [⟨"duplicate-route", "route path '" ++ route ++ "' is also derived from '" ++ earlier ++ "'",
      "components." ++ name, .error⟩]
  | none => []

def classIssues (seen : NamesSeen) (name : String) : List Issue :=
  let cls := Naming.classForm name
  match seen.classes.lookup cls with
  | some earlier =>
    if earlier = name then []
    else
      [⟨"duplicate-class",
        "class name '" ++ cls ++ "Component' is also derived from '" ++ earlier ++ "'",
        "components." ++ name, .error⟩]
  | none => []

def fieldNameIssues (place : String) (seen : List String) (f : Field) : List Issue :=
  if seen.contains f.name then
    [⟨"duplicate-field", "field name '" ++ f.name ++ "' appears more than once", place, .error⟩]
  else []

def fieldKindIssues (place : String) (f : Field) : List Issue :=
  if !FieldKind.isKnown f.declaredKind then
    [⟨"unknown-type",
      "type '" ++ f.declaredKind ++ "' is not recognised, rendering as textbox", place, .warning⟩]
  else if f.kind.takesOptions && f.options.isEmpty then
    [⟨"empty-options", f.kind.name ++ " field declares no options", place, .error⟩]
  else []

def rangeIssue (place low high : String) : Issue :=
  ⟨"range-order", "range (" ++ low ++ ", " ++ high ++ ") is not ascending", place, .error⟩

def fieldRangeIssues (place : String) (f : Field) : Except Number.Oversized (List Issue) :=
  match f.validations.bind (·.range) with
  | some (low, high) =>
    if high.lt low then do return [rangeIssue place (← low.text) (← high.text)]
    else .ok []
  | none => .ok []

def fieldPlace (component field : String) : String :=
  "components." ++ component ++ ".fields." ++ field

def fieldIssues (component : String) :
    (seen : List String) → List Field → Except Number.Oversized (List Issue)
  | _, [] => .ok []
  | seen, f :: rest => do
    let place := fieldPlace component f.name
    let ofRange ← fieldRangeIssues place f
    let ofRest ← fieldIssues component (f.name :: seen) rest
    return fieldNameIssues place seen f ++ fieldKindIssues place f ++ ofRange ++ ofRest

def NamesSeen.note (seen : NamesSeen) (name : String) : NamesSeen where
  routes := seen.routes.note (Naming.pathForm name) name
  classes := seen.classes.note (Naming.classForm name) name

def componentIssues :
    (seen : NamesSeen) → List Component → Except Number.Oversized (List Issue)
  | _, [] => .ok []
  | seen, c :: rest => do
    let ofFields ← fieldIssues c.name [] c.fields
    let ofRest ← componentIssues (seen.note c.name) rest
    return routeIssues seen c.name ++ classIssues seen c.name ++ ofFields ++ ofRest

def emptinessIssues (components : List Component) : List Issue :=
  if components.isEmpty then
    [⟨"no-components", "specification must declare at least one component", "", .fatal⟩]
  else []

/-- The issue of a column count that is told with the given text. -/
def columnsIssue (columns : String) : Issue :=
  ⟨"column-layout", "column layout " ++ columns ++ " is not one of " ++
    ", ".intercalate (supportedColumns.map toString), "layout", .error⟩

def layoutIssues : Option Layout → Except Number.Oversized (List Issue)
  | some layout =>
    if supportedColumns.contains layout.columns then .ok []
    else do return [columnsIssue (← (Value.int layout.columns).write)]
  | none => .ok []

def findIssues (spec : Specification) (layout : Option Layout) :
    Except Number.Oversized (List Issue) := do
  let ofComponents ← componentIssues {} spec.components
  let ofLayout ← layoutIssues layout
  return emptinessIssues spec.components ++ ofComponents ++ ofLayout

/-- Why a specification is not let through: it has issues that stop the run, or an issue cannot be
told. -/
inductive CheckError
  | specification (e : SpecificationError)
  | oversized (e : Number.Oversized)
  deriving DecidableEq, Repr

/-- The issues of a specification that may be generated, or a refusal with the issues that stop
the run. -/
def checkSpecification (spec : Specification) (layout : Option Layout) (strict : Bool) :
    Except CheckError (List Issue) := do
  let issues ← (findIssues spec layout).mapError .oversized
  match issues.filter fun i => i.severity.stops strict with
  | [] => return issues
  | stopping => throw (.specification ⟨stopping⟩)

end Formwork
