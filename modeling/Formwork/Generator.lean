import Formwork.AppShell
import Formwork.ComponentFiles
import Formwork.Skeleton

/-!
Generation of a project. A generator passes through a chain of states, and each step makes the
artifacts that belong to it: workspace, components, routing, shell. Nothing is handed out before
the last state is reached.
-/

namespace Formwork

/-- A generator: what it works on, the state it is in and the states it has passed. A new one has
passed none. -/
structure Generator where
  spec : Specification
  layout : Layout := {}
  skeleton : Skeleton := .standard
  state : GenerationState := .init
  history : List GenerationState := []
  deriving DecidableEq, Repr, Inhabited

namespace Generator

def reset (g : Generator) : Generator := { g with state := .init, history := [.init] }

def advance (g : Generator) (target : GenerationState) : Except TransitionError Generator :=
  if g.state.next? = some target then
    .ok { g with state := target, history := g.history ++ [target] }
  else .error ⟨g.state, target⟩

def componentArtifacts (g : Generator) : Except GenerationError (List Artifact) := do
  let files ← (g.spec.components.mapM fun (c : Component) =>
    c.files g.layout Component.standardDirectory).mapError GenerationError.template
  return files.flatten

def applicationModule (components : List Component) : Except GenerationError String :=
  (Template.App.appModule.render
    (.ofMembers
      [("imports", .list ((Route.imports components).map .str)),
        ("declarations",
          .list (components.map fun c => .str (Naming.componentClass c.name)))])).mapError .template

def applicationPath (name : String) : String := Component.standardDirectory ++ "/" ++ name

def routingArtifacts (g : Generator) : Except GenerationError (List Artifact) := do
  let routing ← Route.module g.spec.components
  let application ← applicationModule g.spec.components
  return [⟨applicationPath "app-routing.module.ts", routing⟩,
    ⟨applicationPath "app.module.ts", application⟩]

def globalStyle (layout : Layout) : Except GenerationError String :=
  (Template.App.globalStyle.render
    (.ofMembers [("use_bootstrap", .bool layout.useBootstrap)])).mapError .template

def shellArtifacts (g : Generator) : Except GenerationError (List Artifact) := do
  let markup ← AppShell.markup g.spec.components g.spec.menuType g.spec.footerContent g.layout
  let style ← AppShell.style g.spec.menuType g.layout
  let global ← globalStyle g.layout
  return [⟨applicationPath "app.component.html", markup⟩,
    ⟨applicationPath "app.component.css", style⟩, ⟨"src/styles.css", global⟩]

def produce (g : Generator) : GenerationState → Except GenerationError (List Artifact)
  | .init => .ok []
  | .skeletonRequested => (g.skeleton.artifacts g.spec g.layout).mapError .template
  | .componentsGenerated => g.componentArtifacts
  | .routingGenerated => g.routingArtifacts
  | .shellAssembled => g.shellArtifacts
  | .done => .ok []

/-- Goes through states one after the other and adds their artifacts to those made before. -/
def pass (g : Generator) (made : List Artifact) :
    List GenerationState → Generator × Except GenerationError (List Artifact)
  | [] => (g, .ok made)
  | target :: rest =>
    match g.produce target with
    | .error e => (g, .error e)
    | .ok more =>
      match g.advance target with
      | .ok g' => g'.pass (made ++ more) rest
      | .error e => (g, .error (.transition e))

def chain : List GenerationState := GenerationState.all.tail

/-- Generates the project from the first state on, whatever the state is. There has to be a
component, and the commands have to be there before anything is made. -/
def generate (g : Generator) : Generator × Except GenerationError GenerationResult :=
  if g.spec.components.isEmpty then
    (g.reset,
      .error (.specification (.because "specification must declare at least one component")))
  else
    match g.skeleton.invocations g.spec g.layout with
    | .faulty faults => (g.reset, .error (.invocation faults))
    | .value invocations =>
      match g.reset.pass [] chain with
      | (g', .ok artifacts) =>
        (g', .ok
          { projectName := g.spec.projectName
            artifacts := artifacts
            invocations := invocations
            states := g'.history })
      | (g', .error e) => (g', .error e)

end Generator

def Specification.generate (spec : Specification) (layout : Layout) (skeleton : Skeleton) :
    Except GenerationError GenerationResult :=
  (Generator.generate { spec, layout, skeleton }).2

end Formwork
