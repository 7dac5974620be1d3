import Formwork.Generation.Error
import Formwork.Naming
import Formwork.Specification
import Formwork.Template.App

/-!
The routing table: one entry for each component in their order, then a redirect for the empty path
and one for every other path, both to the first component.
-/

namespace Formwork

structure Route where
  path : String
  component : Option String := none
  redirectTo : Option String := none
  pathMatch : Option String := none
  deriving DecidableEq, Repr, Inhabited

namespace Route

def isRedirect (r : Route) : Bool := r.redirectTo.isSome

def members (r : Route) : List String :=
  ["path: '" ++ r.path ++ "'"] ++
  (r.component.map fun component => "component: " ++ component).toList ++
  (r.redirectTo.map fun target => "redirectTo: '" ++ target ++ "'").toList ++
  (r.pathMatch.map fun rule => "pathMatch: '" ++ rule ++ "'").toList

def declaration (r : Route) : String := "\x7b " ++ ", ".intercalate r.members ++ " \x7d"

def ofComponent (c : Component) : Route where
  path := Naming.pathForm c.name
  component := some (Naming.componentClass c.name)

def redirects (first : Component) : List Route :=
  let target := "/" ++ Naming.pathForm first.name
  [{ path := "", redirectTo := some target, pathMatch := some "full" },
    { path := "**", redirectTo := some target }]

def table (components : List Component) : Except SpecificationError (List Route) :=
  match components with
  | [] => .error (.because "routing needs at least one component to use as the default route")
  | first :: _ => .ok (components.map ofComponent ++ redirects first)

def importStatement (c : Component) : String :=
  let slug := Naming.pathForm c.name
  "import \x7b " ++ Naming.componentClass c.name ++ " \x7d from './" ++ slug ++ "/" ++ slug ++
    ".component';"

def imports (components : List Component) : List String := components.map importStatement

def module (components : List Component) : Except GenerationError String := do
  let routes ← (table components).mapError .specification
  (Template.App.routingModule.render
    { names :=
        [("imports", .value (.list ((imports components).map .str))),
          ("routes", .entries (routes.map declaration))] }).mapError .template

end Route

end Formwork
