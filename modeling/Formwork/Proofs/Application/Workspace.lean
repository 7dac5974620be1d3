import Formwork.Proofs.Application.Paths
import Formwork.Proofs.Json.RoundTrip
import Formwork.Proofs.Schema.Values

/-!
The files of a workspace that hold values. A project that was read has a name without halves of
surrogate pairs, so that each of the values is decoded from its file. What they say of the project
is looked up in the decoded documents: its name, where it is built to and how it is served, and
that the package depends on Bootstrap just when the style sheet of the application imports it.
-/

namespace Formwork

def Document.below? : List String → Document → Option Document
  | [], d => some d
  | name :: names, .map entries => (member? entries name).bind (below? names)
  | _ :: _, _ => none

namespace Application

open Schema

theorem holdsHalf_of_readNonemptyText {d : Document} {s : String}
    (h : (readNonemptyText d).value? = some s) : Text.holdsHalf s = false := by
  rw [readNonemptyText] at h
  cases hread : readText d with
  | faulty faults => rw [hread] at h; cases h
  | value t =>
      rw [hread, Reading.check, whole] at h
      split at h
      case isTrue => cases h
      case isFalse hhalf =>
        split at h
        case isTrue => cases h
        case isFalse =>
          rw [← Option.some.inj h]
          exact Bool.eq_false_iff.mpr hhalf

theorem holdsHalf_projectName {d : Document} {spec : Specification}
    (h : Specification.ofDocument d = .ok spec) : Text.holdsHalf spec.projectName = false := by
  rw [Specification.ofDocument_eq_ok_iff, readSpecification] at h
  cases d with
  | map m =>
      simp only [readRecord, Reading.value?_seq, Reading.value?_mapped, Option.bind_eq_some_iff,
        Option.map_eq_some_iff] at h
      obtain ⟨_, ⟨_, ⟨_, ⟨project, hproject, rfl⟩, _, _, rfl⟩, _, _, rfl⟩, _, _, rfl⟩ := h
      rw [readRequired, value?_readMember] at hproject
      split at hproject
      case h_1 name _ => exact holdsHalf_of_readNonemptyText hproject
      case h_2 => cases hproject
  | _ => cases h

def valueFiles (project : String) (layout : Layout) : List (String × Value) :=
  [("package.json", Skeleton.packageFile project layout),
    ("angular.json", Skeleton.workspaceFile project),
    ("tsconfig.json", Skeleton.compilerFile),
    ("tsconfig.app.json", Skeleton.applicationCompilerFile)]

theorem holdsHalf_append (s t : String) :
    Text.holdsHalf (s ++ t) = (Text.holdsHalf s || Text.holdsHalf t) := by
  rw [Text.holdsHalf, String.toList_append, List.any_append]
  rfl

/-- The values are kept by their encodings, since a project has no half of a surrogate pair in its
name. -/
theorem plain_of_mem_valueFiles {project : String} (hproject : Text.holdsHalf project = false)
    (layout : Layout) : ∀ f ∈ valueFiles project layout, Json.Plain f.2 := by
  have hout : Text.holdsHalf ("dist/" ++ project) = false := by
    rw [holdsHalf_append, hproject]
    decide
  have hbuild : Text.holdsHalf (project ++ ":build") = false := by
    rw [holdsHalf_append, hproject]
    decide
  simp only [valueFiles, List.forall_mem_cons]
  refine ⟨?_, ?_, ?_, ?_, nofun⟩
  · have hdependencies : Json.Plain (.object (Skeleton.dependencies layout.useBootstrap)) := by
      cases layout.useBootstrap <;>
        simp only [Skeleton.dependencies, Skeleton.angularVersion, Json.Plain, Json.PlainMembers,
          List.map_cons, List.map_nil, List.cons_append, List.nil_append, if_true,
          Bool.false_eq_true, if_false] <;> decide
    simp only [Skeleton.packageFile, Skeleton.angularVersion, Json.Plain, Json.PlainMembers,
      hproject, List.map_cons, List.map_nil] at hdependencies ⊢
    simp only [hdependencies]
    decide
  · have hversion : (1 : Int).natAbs < 10 ^ Number.longestInteger :=
      Nat.one_lt_pow (by decide) (by decide)
    simp only [Skeleton.workspaceFile, Skeleton.buildTarget, Skeleton.serveTarget, Json.Plain,
      Json.PlainMembers, Json.PlainItems, hproject, hout, hbuild, hversion, List.map_cons,
      List.map_nil, List.nodup_singleton]
    decide
  · simp only [Skeleton.compilerFile, Json.Plain, Json.PlainMembers, Json.PlainItems]
    decide
  · simp only [Skeleton.applicationCompilerFile, Json.Plain, Json.PlainMembers, Json.PlainItems]
    decide

/-! ### Decoded files -/

def Holds (files : List Artifact) (path : String) (d : Document) : Prop :=
  ∃ a, files.find? (fun a => a.path == path) = some a ∧
    Json.decode a.content.toList = .ok d

theorem decode_valueFile (path : String) {v : Value} (hv : Json.Plain v) :
    Json.decode (Skeleton.valueFile path v).content.toList = .ok (.ofValue v) := by
  have hcontent : (Skeleton.valueFile path v).content.toList =
      Json.encodeAt Json.workspaceStyle 0 v ++ ['\n'] := by
    rw [Skeleton.valueFile, String.toList_append, Json.encode, String.toList_ofList]
    rfl
  rw [hcontent, Json.decode_encodeAt _ hv (.inr rfl)]

/-! ### Bootstrap -/

/-- The line that imports the style sheet of Bootstrap. -/
def bootstrapImport : String := "@import 'bootstrap/dist/css/bootstrap.min.css';"

theorem globalStyle_eq (layout : Layout) :
    Generator.globalStyle layout = .ok
      ("/* Global styles */\n" ++ if layout.useBootstrap then bootstrapImport ++ "\n" else "") := by
  have hcondition : (Template.Expr.named "use_bootstrap").eval
      (.ofMembers [("use_bootstrap", .bool layout.useBootstrap)]) =
        .ok (.value (.bool layout.useBootstrap)) := Template.eval_named rfl
  have himport : ∀ s, Template.renderAll s [Template.line bootstrapImport] =
      .ok (bootstrapImport ++ "\n") := fun s => by
    rw [Template.renderAll_line, Template.renderAll_nil]
    rfl
  have hpieces : Template.App.globalStyle.pieces = [Template.line "/* Global styles */",
      .whenTrue (.named "use_bootstrap") [Template.line bootstrapImport]] := rfl
  rw [Generator.globalStyle, Template.render, hpieces, Template.renderAll_line,
    Template.renderAll_whenTrue hcondition _ _ fun _ => himport _, Template.renderAll_nil]
  cases layout.useBootstrap <;> rfl

/-- The style sheet of an application imports that of Bootstrap exactly if the package depends on
Bootstrap. -/
theorem globalStyle_imports {layout : Layout} {style : String}
    (h : Generator.globalStyle layout = .ok style) :
    bootstrapImport ∈ Text.lines style ↔ layout.useBootstrap = true := by
  rw [globalStyle_eq] at h
  obtain rfl := Except.ok.inj h
  cases layout.useBootstrap with
  | true => exact iff_of_true (by decide) rfl
  | false => exact iff_of_false (by decide) Bool.false_ne_true

/-! ### Descriptions of the project -/

/-- What the descriptions of package and workspace say of a project: its name, the one project of
the workspace with where it is built to and how it is served. -/
structure Describes (package workspace : Document) (project : String) : Prop where
  name : package.below? ["name"] = some (.text project)
  only : ∃ entry, workspace.below? ["projects"] = some (.map [(.text project, entry)]) ∧
    entry.below? ["architect", "build", "options", "outputPath"] =
      some (.text ("dist/" ++ project)) ∧
    entry.below? ["architect", "serve", "options", "buildTarget"] =
      some (.text (project ++ ":build"))

theorem describes (project : String) (layout : Layout) :
    Describes (.ofValue (Skeleton.packageFile project layout))
      (.ofValue (Skeleton.workspaceFile project)) project where
  name := rfl
  only := ⟨_, rfl, rfl, rfl⟩

theorem dependsOn_bootstrap (project : String) (layout : Layout) :
    ((Document.ofValue (Skeleton.packageFile project layout)).below?
      ["dependencies", "bootstrap"]).isSome = layout.useBootstrap := by
  obtain ⟨useBootstrap, columns⟩ := layout
  cases useBootstrap <;> rfl

/-! ### Files of a generation -/

theorem find?_path_eq_none {files : List Artifact} {path : String}
    (h : path ∉ files.map (·.path)) : files.find? (fun a => a.path == path) = none :=
  List.find?_eq_none.mpr fun a ha hpath => h (List.mem_map.mpr ⟨a, ha, eq_of_beq hpath⟩)

/-- The style sheet of an application is the only file of its path. -/
theorem find?_style (p : Pages) (spec : Specification) (layout : Layout) (first : Component)
    {own : List Artifact} (hown : own.map (·.path) = workspacePaths .files) :
    (own ++ p.files spec layout first).find? (fun a => a.path == "src/styles.css") =
      some ⟨"src/styles.css", p.globalStyle⟩ := by
  have hfirst : "src/styles.css" ∉ own.map (·.path) := by
    rw [hown]
    decide
  have hcomponents : "src/styles.css" ∉
      (spec.components.map p.ofComponent).flatten.map (·.path) := by
    intro hmem
    obtain ⟨a, ha, hpath⟩ := List.mem_map.mp hmem
    obtain ⟨files, hfiles, hin⟩ := List.mem_flatten.mp ha
    obtain ⟨c, -, rfl⟩ := List.mem_map.mp hfiles
    have hpaths : a.path ∈ componentPaths c.name := paths_ofComponent p c ▸ List.mem_map_of_mem hin
    exact not_mem_fixedPaths hpaths (hpath ▸ by decide)
  rw [Pages.files, List.find?_append, List.find?_append, find?_path_eq_none hfirst,
    find?_path_eq_none hcomponents]
  rfl

/-- Each of the four files of a workspace that hold values decodes to its value, which names the
project, and the package depends on Bootstrap exactly if the style sheet of the application imports
it. -/
theorem workspace_decodes {d : Document} {spec : Specification}
    (h : Specification.ofDocument d = .ok spec) (layout : Layout) :
    ∃ own package workspace, Skeleton.artifacts .files spec layout = .ok own ∧
      (∀ f ∈ valueFiles spec.projectName layout, Holds own f.1 (.ofValue f.2)) ∧
      Holds own "package.json" package ∧ Holds own "angular.json" workspace ∧
      Describes package workspace spec.projectName ∧
      (spec.components ≠ [] → ∃ result style,
        spec.generate layout .files =
          Number.limited (.template Template.tooLong) (spec.isWritable layout) result ∧
        own <+: result.artifacts ∧
        result.get? "src/styles.css" = some style ∧
        ((package.below? ["dependencies", "bootstrap"]).isSome ↔
          bootstrapImport ∈ Text.lines style)) := by
  have hplain := plain_of_mem_valueFiles (holdsHalf_projectName h) layout
  obtain ⟨index, main, root, hworkspace⟩ := Skeleton.workspace_total spec.projectName layout
  have hown : Skeleton.artifacts .files spec layout = .ok _ := hworkspace
  have hpaths := paths_workspace hown
  have hholds : ∀ f ∈ valueFiles spec.projectName layout, Holds
      [Skeleton.valueFile "package.json" (Skeleton.packageFile spec.projectName layout),
        Skeleton.valueFile "angular.json" (Skeleton.workspaceFile spec.projectName),
        Skeleton.valueFile "tsconfig.json" Skeleton.compilerFile,
        Skeleton.valueFile "tsconfig.app.json" Skeleton.applicationCompilerFile,
        ⟨"src/index.html", index⟩, ⟨"src/main.ts", main⟩, ⟨"src/app/app.component.ts", root⟩]
      f.1 (.ofValue f.2) := by
    intro f hf
    refine ⟨Skeleton.valueFile f.1 f.2, ?_, decode_valueFile f.1 (hplain f hf)⟩
    simp only [valueFiles, List.mem_cons, List.not_mem_nil, or_false] at hf
    rcases hf with rfl | rfl | rfl | rfl <;> rfl
  refine ⟨_, .ofValue (Skeleton.packageFile spec.projectName layout),
    .ofValue (Skeleton.workspaceFile spec.projectName), hown, hholds,
    hholds ("package.json", _) List.mem_cons_self,
    hholds ("angular.json", _) (List.mem_cons_of_mem _ List.mem_cons_self),
    describes spec.projectName layout, fun hne => ?_⟩
  obtain ⟨first, rest, hcomponents⟩ := List.exists_cons_of_ne_nil hne
  obtain ⟨p, hp⟩ := exists_rendered hne layout
  refine ⟨_, p.globalStyle,
    Specification.generate_eq hcomponents rfl hown hp, ⟨_, rfl⟩, ?_, ?_⟩
  · rw [GenerationResult.get?, find?_style p spec layout first hpaths]
    rfl
  · rw [globalStyle_imports hp.globalStyle, dependsOn_bootstrap]

/-- A name with a quote, a backslash, a control character and one outside the basic plane. -/
theorem workspace_decodes_quoted :
    Specification.ofDocument (.map [(.text "projectName", .text "a\"b\\\x01😀"),
        (.text "components", .list [.map [(.text "name", .text "Home")]])]) =
      .ok { projectName := "a\"b\\\x01😀", components := [{ name := "Home" }] } ∧
    ∃ own, Skeleton.artifacts .files
        { projectName := "a\"b\\\x01😀", components := [{ name := "Home" }] }
        { useBootstrap := true } = .ok own ∧
      Holds own "angular.json" (.ofValue (Skeleton.workspaceFile "a\"b\\\x01😀")) := by
  have hread : Specification.ofDocument (.map [(.text "projectName", .text "a\"b\\\x01😀"),
        (.text "components", .list [.map [(.text "name", .text "Home")]])]) =
      .ok { projectName := "a\"b\\\x01😀", components := [{ name := "Home" }] } := rfl
  obtain ⟨own, -, -, hown, hholds, -⟩ := workspace_decodes hread { useBootstrap := true }
  exact ⟨hread, own, hown, hholds ("angular.json", _) (List.mem_cons_of_mem _ List.mem_cons_self)⟩

end Application

end Formwork
