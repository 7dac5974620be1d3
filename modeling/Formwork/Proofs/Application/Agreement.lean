import Formwork.Proofs.Generation.Result

/-!
The files of an application agree with each other component by component. Files, imports, routes,
declarations and links are made by separate loops over the components; each has exactly one for
every component, in the order of the specification, and all of them use the same two forms of its
name. Names may be of any shape, and several components may have the same one.
-/

namespace Formwork

namespace Application

def className (c : Component) : String := Naming.classForm c.name ++ "Component"

def slug (c : Component) : String := Naming.pathForm c.name

def place (c : Component) (suffix : String) : String :=
  "src/app/" ++ slug c ++ "/" ++ slug c ++ ".component" ++ suffix

/-- What makes the files of an application agree with its components, the first of which is
`first`. -/
structure Agree (components : List Component) (first : Component) (files : List Artifact) :
    Prop where
  /-- Each component has three files, the first of which exports its class for its selector. -/
  component : ∀ i (h : i < components.length), ∃ m : ComponentModule, ∃ markup style,
    files[3 * i]? = some ⟨place components[i] ".ts", m.text⟩ ∧
    files[3 * i + 1]? = some ⟨place components[i] ".html", markup⟩ ∧
    files[3 * i + 2]? = some ⟨place components[i] ".css", style⟩ ∧
    m.className = className components[i] ∧ m.selector = "app-" ++ slug components[i] ∧
    m.slug = slug components[i]
  /-- The routing module imports each class and routes to it; two redirects follow. -/
  routing : ∃ m : RoutingModule,
    files[3 * components.length]? = some ⟨"src/app/app-routing.module.ts", m.text⟩ ∧
    m.imports.length = components.length ∧ m.routes.length = components.length + 2 ∧
    (∀ i (h : i < components.length),
      m.imports[i]? = some
        { names := [className components[i]]
          source := "./" ++ slug components[i] ++ "/" ++ slug components[i] ++ ".component" } ∧
      m.routes[i]? = some
        { path := slug components[i], component := some (className components[i]) }) ∧
    m.routes.drop components.length =
      [{ path := "", redirectTo := some ("/" ++ slug first), pathMatch := some "full" },
        { path := "**", redirectTo := some ("/" ++ slug first) }]
  /-- The module of the application imports each class and declares it. -/
  module : ∃ m : RootModule,
    files[3 * components.length + 1]? = some ⟨"src/app/app.module.ts", m.text⟩ ∧
    m.imports.length = components.length ∧ m.declarations.length = components.length ∧
    ∀ i (h : i < components.length),
      m.imports[i]? = some
        { names := [className components[i]]
          source := "./" ++ slug components[i] ++ "/" ++ slug components[i] ++ ".component" } ∧
      m.declarations[i]? = some (className components[i])
  /-- The shell links to each route. -/
  shell : ∃ s : Shell,
    files[3 * components.length + 2]? = some ⟨"src/app/app.component.html", s.text⟩ ∧
    s.menu.links.length = components.length ∧
    ∀ i (h : i < components.length),
      (s.menu.links[i]?).map linkTarget = some ("/" ++ slug components[i])
  /-- Two style sheets are all that is left. -/
  rest : ∃ shellStyle globalStyle,
    files.drop (3 * components.length + 3) =
      [⟨"src/app/app.component.css", shellStyle⟩, ⟨"src/styles.css", globalStyle⟩]

/-! ### Files by their position -/

theorem getElem?_flatten_of_three {α β : Type} {group : α → List β}
    (h : ∀ a, (group a).length = 3) (as : List α) (rest : List β) (i k : Nat)
    (hi : i < as.length) (hk : k < 3) :
    ((as.map group).flatten ++ rest)[3 * i + k]? = (group as[i])[k]? := by
  induction as generalizing i with
  | nil => exact absurd hi (Nat.not_lt_zero i)
  | cons a as ih =>
      rw [List.map_cons, List.flatten_cons, List.append_assoc]
      cases i with
      | zero =>
          rw [Nat.mul_zero, Nat.zero_add, List.getElem?_append_left (by rw [h]; exact hk)]
          rfl
      | succ i =>
          have hstep : 3 * (i + 1) + k - (group a).length = 3 * i + k := by
            rw [h]
            omega
          rw [List.getElem?_append_right (by rw [h]; omega), hstep,
            ih i (by simpa using hi)]
          rfl

theorem length_flatten_of_three {α β : Type} {group : α → List β}
    (h : ∀ a, (group a).length = 3) (as : List α) :
    (as.map group).flatten.length = 3 * as.length := by
  induction as with
  | nil => rfl
  | cons a as ih =>
      rw [List.map_cons, List.flatten_cons, List.length_append, h, ih, List.length_cons]
      omega

end Application

open Application

theorem Pages.length_ofComponent (p : Pages) (c : Component) : (p.ofComponent c).length = 3 := rfl

theorem filePath_eq (c : Component) (suffix : String) :
    Component.filePath Component.standardDirectory c.name ++ suffix = place c suffix := by
  have hdirectory : "src/app/" = "src/app" ++ "/" := rfl
  delta Component.filePath Component.standardDirectory place slug
  simp only [hdirectory, String.append_assoc]

theorem Pages.getElem?_files (p : Pages) (spec : Specification) (layout : Layout)
    (first : Component) (k : Nat) :
    (p.files spec layout first)[3 * spec.components.length + k]? =
      (p.ofApplication spec layout first)[k]? := by
  have hlength := length_flatten_of_three p.length_ofComponent spec.components
  rw [Pages.files, List.getElem?_append_right (by omega), hlength, Nat.add_sub_cancel_left]

/-- The files agree, whatever the parts that do not depend on one another are. -/
theorem Pages.files_agree (p : Pages) (spec : Specification) (layout : Layout)
    (first : Component) : Agree spec.components first (p.files spec layout first) where
  component i h := by
    -- the groups of the components come first, each of three files
    have hfile := fun k hk => getElem?_flatten_of_three p.length_ofComponent spec.components
      (p.ofApplication spec layout first) i k h hk
    refine ⟨p.componentModule spec.components[i], p.markup spec.components[i], p.style,
      ?_, ?_, ?_, rfl, rfl, rfl⟩
    · rw [← filePath_eq]
      exact hfile 0 (by decide)
    · rw [← filePath_eq]
      exact hfile 1 (by decide)
    · rw [← filePath_eq]
      exact hfile 2 (by decide)
  routing := by
    refine ⟨Pages.routingModule first spec.components, p.getElem?_files spec layout first 0,
      List.length_map _, ?_, fun i h => ⟨?_, ?_⟩, ?_⟩
    · rw [Pages.routingModule, List.length_append, List.length_map]
      rfl
    · rw [Pages.routingModule, List.getElem?_map, List.getElem?_eq_getElem h]
      rfl
    · rw [Pages.routingModule, List.getElem?_append_left (by rwa [List.length_map]),
        List.getElem?_map, List.getElem?_eq_getElem h]
      rfl
    · have hlength : (spec.components.map Route.ofComponent).length = spec.components.length :=
        List.length_map _
      rw [Pages.routingModule, ← hlength, List.drop_left]
      rfl
  module := by
    refine ⟨Pages.rootModule spec.components, p.getElem?_files spec layout first 1,
      List.length_map _, List.length_map _, fun i h => ⟨?_, ?_⟩⟩
    · rw [Pages.rootModule, List.getElem?_map, List.getElem?_eq_getElem h]
      rfl
    · rw [Pages.rootModule, List.getElem?_map, List.getElem?_eq_getElem h]
      rfl
  shell := by
    refine ⟨p.shell spec layout, p.getElem?_files spec layout first 2, List.length_map _,
      fun i h => ?_⟩
    rw [Pages.shell, Menu.ofComponents, List.getElem?_map, List.getElem?_eq_getElem h]
    rfl
  rest := by
    have hlength := length_flatten_of_three p.length_ofComponent spec.components
    refine ⟨p.shellStyle, p.globalStyle, ?_⟩
    rw [Pages.files, ← hlength, List.drop_append]
    simp [Pages.ofApplication]

/-- A generation with a component has a result as soon as the commands of the workspace can be put
together, unless a number in it is too long to be written, and its files agree with the components,
behind those of the workspace. -/
theorem Specification.generate_agrees (spec : Specification) (layout : Layout)
    (skeleton : Skeleton) (hne : spec.components ≠ []) :
    (∀ faults, skeleton.invocations spec layout = .faulty faults →
      spec.generate layout skeleton = .error (.invocation faults)) ∧
    ∀ invocations, skeleton.invocations spec layout = .value invocations →
      ∃ own files, skeleton.artifacts spec layout = .ok own ∧
        spec.generate layout skeleton =
          Number.limited (.template Template.tooLong) (spec.isWritable layout)
            { projectName := spec.projectName
              artifacts := own ++ files
              invocations
              states := GenerationState.all } ∧
        Agree spec.components (spec.components.head hne) files := by
  refine ⟨fun faults hfaulty => ?_, fun invocations hinvocations => ?_⟩
  · have hfilled : spec.components.isEmpty = false := by simpa using hne
    rw [Specification.generate, Generator.generate, hfilled, if_neg Bool.false_ne_true, hfaulty]
  · obtain ⟨own, hown⟩ := skeleton.artifacts_total spec layout
    obtain ⟨p, hp⟩ := exists_rendered hne layout
    have hcomponents : spec.components = spec.components.head hne :: spec.components.tail :=
      (List.cons_head_tail hne).symm
    exact ⟨own, p.files spec layout (spec.components.head hne), hown,
      Specification.generate_eq hcomponents hinvocations hown hp, p.files_agree _ _ _⟩

/-- Two components, of which the second has the name of the first in other letters. -/
def repeatedForm : Specification where
  projectName := "portal"
  components := [{ name := "Register" }, { name := "register" }]

theorem generate_agrees_repeatedForm :
    repeatedForm.components ≠ [] ∧ ∃ own files,
      Skeleton.standard.artifacts repeatedForm {} = .ok own ∧
      repeatedForm.generate {} .standard = .ok
        { projectName := "portal"
          artifacts := own ++ files
          invocations :=
            [Skeleton.create Skeleton.standardPackage "portal",
              Skeleton.installDependencies "portal"]
          states := GenerationState.all } ∧
      Agree repeatedForm.components { name := "Register" } files := by
  have hwritable : repeatedForm.isWritable {} = true := Number.isShort_of_lt (by decide)
  obtain ⟨own, files, hown, hgenerate, hagree⟩ :=
    (repeatedForm.generate_agrees {} .standard (by decide)).2 _ rfl
  rw [hwritable, Number.limited_true] at hgenerate
  exact ⟨by decide, own, files, hown, hgenerate, hagree⟩

end Formwork
