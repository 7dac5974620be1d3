import Formwork.Proofs.Application.Agreement
import Formwork.Proofs.Check.Verdict
import Formwork.Proofs.Text.Case

/-!
The names that an application binds. Next to the class of each component the module of the
application imports classes that are always there, the module of a component imports what every
component needs, and the shell has a selector of its own. The checks compare the names of components
with each other only. So components never meet under strict checks, but a component may meet what is
fixed: it has the class `App`, or no name, or the route `root`.
-/

namespace Formwork

namespace Application

open Template

/-! ### Names with a given ending -/

def withoutEnding? (ending name : String) : Option String :=
  if ending.toList <:+ name.toList then
    some (String.ofList (name.toList.take (name.toList.length - ending.toList.length)))
  else none

theorem withoutEnding?_eq_some {ending name front : String} :
    withoutEnding? ending name = some front ↔ name = front ++ ending := by
  rw [withoutEnding?]
  constructor
  · intro h
    split at h
    case isFalse => exact absurd h (by simp)
    case isTrue hends =>
      obtain ⟨cs, hcs⟩ := hends
      rw [← Option.some.inj h, ← String.toList_inj, String.toList_append, String.toList_ofList,
        ← hcs, List.length_append, Nat.add_sub_cancel, List.take_left]
  · rintro rfl
    rw [String.toList_append, if_pos (List.suffix_append _ _), List.length_append,
      Nat.add_sub_cancel, List.take_left, String.ofList_toList]

/-- What is made with an ending is one of several names exactly if it was made of the front of one
that has that ending. -/
theorem append_mem_iff {front ending : String} {names : List String} :
    front ++ ending ∈ names ↔ front ∈ names.filterMap (withoutEnding? ending) := by
  rw [List.mem_filterMap]
  exact ⟨fun h => ⟨_, h, withoutEnding?_eq_some.mpr rfl⟩,
    fun ⟨_, h, hends⟩ => withoutEnding?_eq_some.mp hends ▸ h⟩

theorem append_ending_injective (ending : String) : Function.Injective (· ++ ending) := by
  intro s t h
  have hchars := congrArg String.toList h
  simp only [String.toList_append] at hchars
  exact String.toList_injective (List.append_cancel_right hchars)

theorem append_front_injective (front : String) : Function.Injective (front ++ ·) := by
  intro s t h
  have hchars := congrArg String.toList h
  simp only [String.toList_append] at hchars
  exact String.toList_injective (List.append_cancel_left hchars)

/-! ### What modules bind -/

def bindings (imports : List Import) : List String := imports.flatMap (·.names)

def RootModule.fixed : List String := bindings (RootModule.frame ++ RootModule.shell)

def RootModule.bound (m : RootModule) : List String := RootModule.fixed ++ bindings m.imports

def ComponentModule.bound : List String := bindings ComponentModule.frame

/-- The module of the shell, which shows the name of the project as its title. -/
structure ShellModule where
  title : String

def ShellModule.frame : List Import := [⟨["Component"], "@angular/core"⟩]

/-- The element that shows the shell. -/
def ShellModule.selector : String := "app-root"

def ShellModule.text (m : ShellModule) : String :=
  importLines ShellModule.frame ++
  lines
    ["", "@Component(\x7b", "  selector: '" ++ ShellModule.selector ++ "',",
      "  templateUrl: './app.component.html',", "  styleUrls: ['./app.component.css']", "\x7d)",
      "export class AppComponent \x7b",
      "  title = " ++ TypeScript.literalText (.str m.title) ++ ";",
      "\x7d"]

theorem bindings_map_ofComponent (components : List Component) :
    bindings (components.map Import.ofComponent) = components.map className := by
  rw [bindings, List.flatMap_map, List.map_eq_flatMap]
  rfl

theorem shellModule_eq (project : String) :
    Template.App.rootComponent.render (Skeleton.scope project) =
      .ok (ShellModule.text { title := project }) := by
  let s := Skeleton.scope project
  have hframe : importLines ShellModule.frame =
      lines ["import \x7b Component \x7d from '@angular/core';"] := rfl
  have hselector : "  selector: '" ++ ShellModule.selector ++ "'," =
      "  selector: 'app-root'," := rfl
  have htitle : (Expr.filtered (.named "project_name") .literal).eval s =
      .ok (.value (.str (TypeScript.literalText (.str project)))) := rfl
  rw [Template.render, Template.App.rootComponent]
  simp only [renderAll_line]
  rw [renderAll_text, literalSlot, renderAll_value htitle]
  simp only [renderAll_line, renderAll_nil, preceded_ok, ShellModule.text, hframe, hselector,
    lines_cons, lines_nil, String.append_assoc, String.empty_append, String.append_empty]

/-! ### Which names are met -/

/-- Names that differ from each other are added to others without repetition exactly if none of them
is among the others. -/
theorem nodup_append_map_iff {α : Type} {fixed : List String} {as : List α} {name : α → String}
    (hfixed : fixed.Nodup) (hnames : (as.map name).Nodup) :
    (fixed ++ as.map name).Nodup ↔ ∀ a ∈ as, name a ∉ fixed := by
  rw [List.nodup_append', and_iff_right hfixed, and_iff_right hnames, List.disjoint_right]
  exact List.forall_mem_map

theorem fixed_nodup : RootModule.fixed.Nodup := by decide

/-- The class of a component is one that the module of every application imports exactly if it is
that of the shell. -/
theorem className_mem_fixed {c : Component} :
    className c ∈ RootModule.fixed ↔ Naming.classForm c.name = "App" := by
  have hfronts : RootModule.fixed.filterMap (withoutEnding? "Component") = ["App"] := by decide
  rw [className, append_mem_iff, hfronts, List.mem_singleton]

theorem classForm_eq_empty {name : String} : Naming.classForm name = "" ↔ name = "" := by
  rw [Naming.classForm, ← String.toList_inj, ← String.toList_inj, String.toList_ofList]
  cases name.toList with
  | nil => rfl
  | cons c cs =>
      obtain ⟨u, us, hupper, -⟩ := Text.exists_upperChar c
      simp [Naming.classChars, hupper]

/-- The class of a component is one that its own module imports exactly if it has no name. -/
theorem className_mem_bound {c : Component} :
    className c ∈ ComponentModule.bound ↔ c.name = "" := by
  have hfronts : ComponentModule.bound.filterMap (withoutEnding? "Component") = [""] := by decide
  rw [className, append_mem_iff, hfronts, List.mem_singleton, classForm_eq_empty]

theorem selector_eq_iff {c : Component} :
    "app-" ++ slug c = ShellModule.selector ↔ Naming.pathForm c.name = "root" := by
  have hselector : ShellModule.selector = "app-" ++ "root" := rfl
  rw [hselector, (append_front_injective "app-").eq_iff, slug]

end Application

open Application

/-! ### A whole application -/

/-- The modules of an application that bind names: that of the application itself, and that of each
component. -/
structure Modules (components : List Component) (files : List Artifact) where
  root : RootModule
  page : Component → ComponentModule
  root_mem : ⟨"src/app/app.module.ts", root.text⟩ ∈ files
  page_mem : ∀ c ∈ components, ⟨place c ".ts", (page c).text⟩ ∈ files
  imports : root.imports = components.map Import.ofComponent
  className : ∀ c, (page c).className = className c
  selector : ∀ c, (page c).selector = "app-" ++ slug c

/-- The modules among the files of a generation. -/
def Pages.modules (p : Pages) (spec : Specification) (layout : Layout) (first : Component) :
    Modules spec.components (p.files spec layout first) where
  root := Pages.rootModule spec.components
  page := p.componentModule
  root_mem := List.mem_append_right _ (List.mem_cons_of_mem _ List.mem_cons_self)
  page_mem c hc := by
    refine List.mem_append_left _ (List.mem_flatten.mpr ⟨_, List.mem_map_of_mem hc, ?_⟩)
    rw [← filePath_eq]
    exact List.mem_cons_self
  imports := rfl
  className _ := rfl
  selector _ := rfl

theorem shellModule_mem {spec : Specification} {layout : Layout} {own : List Artifact}
    (h : Skeleton.files.artifacts spec layout = .ok own) :
    ⟨"src/app/app.component.ts", ShellModule.text { title := spec.projectName }⟩ ∈ own := by
  obtain ⟨index, hindex⟩ := Template.render_of_closed Skeleton.signature
    (t := Template.App.indexPage) (Skeleton.scope_fits spec.projectName) rfl
  obtain ⟨main, hmain⟩ := Template.render_of_closed Skeleton.signature
    (t := Template.App.mainModule) (Skeleton.scope_fits spec.projectName) rfl
  rw [Skeleton.artifacts, Skeleton.workspace, hindex, hmain, shellModule_eq] at h
  rw [← Except.ok.inj h]
  exact List.mem_of_getLast? rfl

section

variable {spec : Specification} {checked : Option Layout} {files : List Artifact}
  (m : Modules spec.components files) (h : spec.Consistent checked)

include h

/-- The names that the module of the application binds are different unless a class is the one of
the shell. -/
theorem Modules.nodup_bound_iff :
    m.root.bound.Nodup ↔ ∀ c ∈ spec.components, Naming.classForm c.name ≠ "App" := by
  -- one ending for all keeps names apart, so that only the fixed names can be met
  have hclasses : (spec.components.map Application.className).Nodup := by
    have hmap := h.classes.map (append_ending_injective "Component")
    rwa [List.map_map] at hmap
  rw [RootModule.bound, m.imports, bindings_map_ofComponent,
    nodup_append_map_iff fixed_nodup hclasses]
  exact forall₂_congr fun c _ => not_congr className_mem_fixed

theorem Modules.selectors_nodup : (spec.components.map fun c => (m.page c).selector).Nodup := by
  have hmap := h.routes.map (append_front_injective "app-")
  rw [List.map_map] at hmap
  exact (List.map_congr_left fun c _ => m.selector c) ▸ hmap

end

theorem Modules.className_iff {components : List Component} {files : List Artifact}
    (m : Modules components files) (c : Component) :
    (m.page c).className ∉ ComponentModule.bound ↔ c.name ≠ "" := by
  rw [m.className, className_mem_bound]

theorem Modules.selector_iff {components : List Component} {files : List Artifact}
    (m : Modules components files) (c : Component) :
    (m.page c).selector ≠ ShellModule.selector ↔ Naming.pathForm c.name ≠ "root" := by
  rw [m.selector, ne_eq, selector_eq_iff]

/-- Strict checks leave three names for which a generated application binds a name twice. The module
of the application imports a class twice exactly if a component has the class of the shell; a
component has the class of something that its own module imports exactly if its name is empty; and
while components never share a selector, one has that of the shell exactly if its route is `root`.
-/
theorem Specification.bindings_distinct_iff {spec : Specification} {layout : Layout}
    {checked : Option Layout} {skeleton : Skeleton} {issues : List Issue}
    {invocations : List Invocation}
    (hcheck : checkSpecification spec checked true = .ok issues)
    (hinvocations : skeleton.invocations spec layout = .value invocations) :
    ∃ own files, ∃ m : Modules spec.components files,
      spec.generate layout skeleton =
        Number.limited (.template Template.tooLong) (spec.isWritable layout)
          { projectName := spec.projectName
            artifacts := own ++ files
            invocations
            states := GenerationState.all } ∧
      (skeleton = .files →
        ⟨"src/app/app.component.ts", ShellModule.text { title := spec.projectName }⟩ ∈ own) ∧
      (m.root.bound.Nodup ↔ ∀ c ∈ spec.components, Naming.classForm c.name ≠ "App") ∧
      (∀ c ∈ spec.components, (m.page c).className ∉ ComponentModule.bound ↔ c.name ≠ "") ∧
      (spec.components.map fun c => (m.page c).selector).Nodup ∧
      ∀ c ∈ spec.components,
        (m.page c).selector ≠ ShellModule.selector ↔ Naming.pathForm c.name ≠ "root" := by
  have hconsistent : spec.Consistent checked := Check.consistent_of_ok hcheck
  obtain ⟨first, rest, hcomponents⟩ := List.exists_cons_of_ne_nil hconsistent.components
  obtain ⟨own, hown⟩ := skeleton.artifacts_total spec layout
  obtain ⟨p, hp⟩ := exists_rendered hconsistent.components layout
  refine ⟨own, p.files spec layout first, p.modules spec layout first,
    Specification.generate_eq hcomponents hinvocations hown hp, ?_,
    Modules.nodup_bound_iff _ hconsistent, fun c _ => Modules.className_iff _ c,
    Modules.selectors_nodup _ hconsistent, fun c _ => Modules.selector_iff _ c⟩
  rintro rfl
  exact shellModule_mem hown

def fixedNames : Specification where
  projectName := "portal"
  components := [{ name := "App" }, { name := "Root" }, { name := "" }]

/-- The checks have nothing to say about the three names. -/
theorem bindings_distinct_iff_fixedNames :
    checkSpecification fixedNames none true = .ok [] ∧
    Skeleton.files.invocations fixedNames {} = .value [] ∧
    ∃ own files, ∃ m : Modules fixedNames.components files,
      fixedNames.generate {} .files = .ok
        { projectName := "portal"
          artifacts := own ++ files
          invocations := []
          states := GenerationState.all } ∧
      ¬ m.root.bound.Nodup ∧ (m.page { name := "" }).className ∈ ComponentModule.bound ∧
      (m.page { name := "Root" }).selector = ShellModule.selector := by
  have hcheck : checkSpecification fixedNames none true = .ok [] := by decide
  have hinvocations : Skeleton.files.invocations fixedNames {} = .value [] := rfl
  have hwritable : fixedNames.isWritable {} = true := Number.isShort_of_lt (by decide)
  obtain ⟨own, files, m, hgenerate, -, hbound, hclass, -, hselector⟩ :=
    Specification.bindings_distinct_iff hcheck hinvocations
  rw [hwritable, Number.limited_true] at hgenerate
  refine ⟨hcheck, hinvocations, own, files, m, hgenerate, fun hnodup => ?_, ?_, ?_⟩
  · exact hbound.mp hnodup { name := "App" } (by decide) (by decide)
  · exact not_not.mp fun hnew => (hclass { name := "" } (by decide)).mp hnew rfl
  · exact not_not.mp fun hnew => (hselector { name := "Root" } (by decide)).mp hnew (by decide)

end Formwork
