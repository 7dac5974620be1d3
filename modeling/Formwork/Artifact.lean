/-!
What a generation produces: files by their path in the project, and the commands that have to run
before the files are written.
-/

namespace Formwork

/-- A generated file. The path is relative to the project. -/
structure Artifact where
  path : String
  content : String := ""
  deriving DecidableEq, Repr, Inhabited

inductive Purpose | skeleton | dependencies | styling
  deriving DecidableEq, Repr, Inhabited

def Purpose.name : Purpose → String
  | .skeleton => "skeleton"
  | .dependencies => "dependencies"
  | .styling => "styling"

/-- A command to run. The directory is relative to the one that the project is put into. -/
structure Invocation where
  argv : List String
  directory : String := "."
  purpose : Purpose
  description : String := ""
  deriving DecidableEq, Repr, Inhabited

def Invocation.commandLine (i : Invocation) : String := " ".intercalate i.argv

inductive GenerationState
  | init
  | skeletonRequested
  | componentsGenerated
  | routingGenerated
  | shellAssembled
  | done
  deriving DecidableEq, Repr, Inhabited

namespace GenerationState

def name : GenerationState → String
  | .init => "init"
  | .skeletonRequested => "skeleton_requested"
  | .componentsGenerated => "components_generated"
  | .routingGenerated => "routing_generated"
  | .shellAssembled => "shell_assembled"
  | .done => "done"

def all : List GenerationState :=
  [.init, .skeletonRequested, .componentsGenerated, .routingGenerated, .shellAssembled, .done]

def ofName? (word : String) : Option GenerationState := all.find? fun s => s.name == word

def next? : GenerationState → Option GenerationState
  | .init => some .skeletonRequested
  | .skeletonRequested => some .componentsGenerated
  | .componentsGenerated => some .routingGenerated
  | .routingGenerated => some .shellAssembled
  | .shellAssembled => some .done
  | .done => none

end GenerationState

structure GenerationResult where
  projectName : String
  artifacts : List Artifact := []
  invocations : List Invocation := []
  states : List GenerationState := []
  deriving DecidableEq, Repr, Inhabited

namespace GenerationResult

def setContent (path content : String) : List (String × String) → List (String × String)
  | [] => [(path, content)]
  | (p, c) :: rest =>
    if p = path then (p, content) :: rest else (p, c) :: setContent path content rest

/-- The artifacts as a mapping from paths to contents. Of two artifacts with one path the later
gives the content. -/
def asMapping (r : GenerationResult) : List (String × String) :=
  r.artifacts.foldl (fun mapping a => setContent a.path a.content mapping) []

def get? (r : GenerationResult) (path : String) : Option String :=
  (r.artifacts.find? fun a => a.path == path).map (·.content)

end GenerationResult

end Formwork
