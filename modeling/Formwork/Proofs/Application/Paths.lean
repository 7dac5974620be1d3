import Formwork.Proofs.Application.Targets
import Formwork.Proofs.Check.Duplicates

/-!
Paths of the files of an application, as texts. The path of a component's file has its route twice,
between fixed texts, so that the route and the ending can be read off it whatever characters the
route has; and it has more slashes than the path of any file that does not belong to a component.
The paths of a generation are therefore different exactly if the routes are, which is what the
checks look at.
-/

namespace Formwork.Application

/-! ### The path of a component's file -/

def componentPaths (name : String) : List String :=
  endings.map fun ending =>
    "src/app/" ++ Naming.pathForm name ++ "/" ++ Naming.pathForm name ++ ending

theorem endings_nodup : endings.Nodup := by decide

theorem eq_of_endings_isSuffix :
    ∀ e ∈ endings, ∀ e' ∈ endings, e.toList <:+ e'.toList → e = e' := by decide

/-- A route and an ending are read off the path that is made of them. -/
theorem route_ending_injective {route route' ending ending' : String} (he : ending ∈ endings)
    (he' : ending' ∈ endings)
    (h : "src/app/" ++ route ++ "/" ++ route ++ ending =
      "src/app/" ++ route' ++ "/" ++ route' ++ ending') :
    route = route' ∧ ending = ending' := by
  have hchars : route.toList ++ '/' :: (route.toList ++ ending.toList) =
      route'.toList ++ '/' :: (route'.toList ++ ending'.toList) := by
    have hpath := congrArg String.toList h
    simp only [String.toList_append, List.append_assoc] at hpath
    exact List.append_cancel_left hpath
  have hend : ∀ (r e : List Char), e <:+ r ++ '/' :: (r ++ e) := fun r e =>
    ⟨r ++ '/' :: r, by simp⟩
  have hending : ending = ending' := by
    have hsuffix := hend route.toList ending.toList
    rw [hchars] at hsuffix
    rcases List.suffix_or_suffix_of_suffix hsuffix (hend route'.toList ending'.toList) with h | h
    · exact eq_of_endings_isSuffix ending he ending' he' h
    · exact (eq_of_endings_isSuffix ending' he' ending he h).symm
  subst hending
  -- with one ending, paths of one length have routes of one length
  have hlength : route.toList.length = route'.toList.length := by
    have := congrArg List.length hchars
    simp only [List.length_append, List.length_cons] at this
    omega
  exact ⟨String.toList_injective (List.append_inj hchars hlength).1, rfl⟩

theorem componentPaths_disjoint {name name' : String} :
    (componentPaths name).Disjoint (componentPaths name') ↔
      Naming.pathForm name ≠ Naming.pathForm name' := by
  constructor
  · intro hdisjoint hroute
    have hsame : componentPaths name = componentPaths name' := by
      rw [componentPaths, componentPaths, hroute]
    have hmem : ∃ path, path ∈ componentPaths name' :=
      List.exists_mem_of_ne_nil _ (by simp [componentPaths, endings])
    obtain ⟨path, hpath⟩ := hmem
    exact hdisjoint (hsame ▸ hpath) hpath
  · intro hroute path hpath hpath'
    obtain ⟨e, he, rfl⟩ := List.mem_map.mp hpath
    obtain ⟨e', he', heq⟩ := List.mem_map.mp hpath'
    exact hroute (route_ending_injective he' he heq).1.symm

theorem componentPaths_nodup (name : String) : (componentPaths name).Nodup := by
  refine List.Nodup.map_on (fun e he e' he' heq => ?_) endings_nodup
  exact (route_ending_injective he he' heq).2

/-! ### Paths that do not belong to a component -/

def workspacePaths : Skeleton → List String
  | .files => fixedPaths.take 7
  | .commands .. | .none => []

def applicationPaths : List String := fixedPaths.drop 7

theorem fixedPaths_nodup : fixedPaths.Nodup := by decide

theorem workspacePaths_append (skeleton : Skeleton) :
    (workspacePaths skeleton ++ applicationPaths).Sublist fixedPaths := by
  cases skeleton with
  | files => exact List.Sublist.refl _
  | commands package installs => exact List.drop_sublist 7 fixedPaths
  | none => exact List.drop_sublist 7 fixedPaths

theorem paths_workspace {skeleton : Skeleton} {spec : Specification} {layout : Layout}
    {own : List Artifact} (h : skeleton.artifacts spec layout = .ok own) :
    own.map (·.path) = workspacePaths skeleton := by
  cases skeleton with
  | commands package installs =>
      cases Except.ok.inj h
      rfl
  | none =>
      cases Except.ok.inj h
      rfl
  | files =>
      obtain ⟨index, main, root, hfiles⟩ := Skeleton.workspace_total spec.projectName layout
      cases Except.ok.inj (h.symm.trans hfiles)
      rfl

theorem slashes_of_mem_fixedPaths : ∀ path ∈ fixedPaths, path.toList.count '/' ≤ 2 := by decide

/-- No name makes the path of a component's file that of another file: it has three slashes at
least. -/
theorem not_mem_fixedPaths {name path : String} (h : path ∈ componentPaths name) :
    path ∉ fixedPaths := by
  intro hfixed
  obtain ⟨e, he, rfl⟩ := List.mem_map.mp h
  have hfew := slashes_of_mem_fixedPaths _ hfixed
  have hsource : "src/app/".toList.count '/' = 2 := by decide
  have hslash : "/".toList.count '/' = 1 := by decide
  simp only [String.toList_append, List.count_append, hsource, hslash] at hfew
  omega

/-! ### The paths of a generation -/

theorem paths_ofComponent (p : Pages) (c : Component) :
    (p.ofComponent c).map (·.path) = componentPaths c.name := by
  have hsource : "src/app/" = "src/app" ++ "/" := rfl
  have hending : ∀ suffix, Component.filePath Component.standardDirectory c.name ++ suffix =
      "src/app/" ++ Naming.pathForm c.name ++ "/" ++ Naming.pathForm c.name ++
        (".component" ++ suffix) := fun suffix => by
    rw [filePath_append, hsource]
    simp only [String.append_assoc]
  simp only [Pages.ofComponent, List.map_cons, List.map_nil, hending]
  rfl

theorem paths_files (p : Pages) (spec : Specification) (layout : Layout) (first : Component) :
    (p.files spec layout first).map (·.path) =
      spec.components.flatMap (fun c => componentPaths c.name) ++ applicationPaths := by
  rw [Pages.files, List.map_append, paths_ofApplication, List.map_flatten, List.map_map,
    List.flatMap_def]
  simp only [Function.comp_def, paths_ofComponent]
  rfl

/-- The paths of the components are different exactly if the routes are. -/
theorem nodup_flatMap_componentPaths (components : List Component) :
    (components.flatMap fun c => componentPaths c.name).Nodup ↔
      (components.map fun c => Naming.pathForm c.name).Nodup := by
  have hroutes : (components.map fun c => Naming.pathForm c.name).Nodup ↔
      components.Pairwise fun c c' =>
        (componentPaths c.name).Disjoint (componentPaths c'.name) := by
    simp only [List.Nodup, List.pairwise_map, componentPaths_disjoint]
  rw [List.nodup_flatMap, hroutes]
  exact and_iff_right fun c _ => componentPaths_nodup c.name

/-- Files that do not belong to a component never stand in the way of different paths. -/
theorem nodup_paths (skeleton : Skeleton) (components : List Component) :
    (workspacePaths skeleton ++
        ((components.flatMap fun c => componentPaths c.name) ++ applicationPaths)).Nodup ↔
      (components.map fun c => Naming.pathForm c.name).Nodup := by
  rw [← nodup_flatMap_componentPaths]
  have hfixed := workspacePaths_append skeleton
  obtain ⟨hworkspace, happlication, hcross⟩ :=
    List.nodup_append'.mp (fixedPaths_nodup.sublist hfixed)
  have hown : ∀ path ∈ workspacePaths skeleton, path ∈ fixedPaths := fun path h =>
    hfixed.subset (List.mem_append_left _ h)
  have hshared : ∀ path ∈ applicationPaths, path ∈ fixedPaths := fun path h =>
    hfixed.subset (List.mem_append_right _ h)
  have hcomponent : ∀ path ∈ components.flatMap (fun c => componentPaths c.name),
      path ∉ fixedPaths := fun path h => by
    obtain ⟨c, -, h⟩ := List.mem_flatMap.mp h
    exact not_mem_fixedPaths h
  constructor
  · exact fun hall => hall.of_append_right.of_append_left
  · intro hcomponents
    refine List.nodup_append'.mpr ⟨hworkspace, List.nodup_append'.mpr
      ⟨hcomponents, happlication, ?_⟩, ?_⟩
    · exact fun path h h' => hcomponent path h (hshared path h')
    · intro path h h'
      rcases List.mem_append.mp h' with h' | h'
      · exact hcomponent path h' (hown path h)
      · exact hcross h h'

end Formwork.Application

namespace Formwork

open Application

/-- The paths of a generation: those of the workspace, of the components and of the application.
No component has a path that belongs to the workspace or the application, whatever its name is, and
the paths are different exactly if the checks find no route that is taken. Where there is a result,
the checks without a layout have issues to find it among. -/
theorem Specification.paths_nodup_iff (spec : Specification) (layout : Layout)
    (skeleton : Skeleton) (hne : spec.components ≠ []) {invocations : List Invocation}
    (hinvocations : skeleton.invocations spec layout = .value invocations) :
    ∃ result,
      spec.generate layout skeleton =
        Number.limited (.template Template.tooLong) (spec.isWritable layout) result ∧
      result.artifacts.map (·.path) = workspacePaths skeleton ++
        (spec.components.flatMap (fun c => componentPaths c.name) ++ applicationPaths) ∧
      (∀ name : String, ∀ path ∈ componentPaths name, path ∉ fixedPaths) ∧
      (spec.isWritable layout = true → ∃ issues, findIssues spec none = .ok issues) ∧
      ∀ (checked : Option Layout) (issues : List Issue), findIssues spec checked = .ok issues →
        ((result.artifacts.map (·.path)).Nodup ↔ ∀ i ∈ issues, i.code ≠ "duplicate-route") := by
  obtain ⟨own, hown⟩ := skeleton.artifacts_total spec layout
  obtain ⟨p, hp⟩ := exists_rendered hne layout
  have hcomponents : spec.components = spec.components.head hne :: spec.components.tail :=
    (List.cons_head_tail hne).symm
  have hpaths : (own ++ p.files spec layout (spec.components.head hne)).map (·.path) =
      workspacePaths skeleton ++
        (spec.components.flatMap (fun c => componentPaths c.name) ++ applicationPaths) := by
    rw [List.map_append, paths_workspace hown, paths_files]
  refine ⟨_, Specification.generate_eq hcomponents hinvocations hown hp, hpaths,
    fun name path => not_mem_fixedPaths, fun hwritable => ?_, fun checked issues hissues => ?_⟩
  · exact ⟨_, Check.findIssues_eq_ok.mpr ⟨Specification.isTellable_of_isWritable hwritable, rfl⟩⟩
  · obtain ⟨-, rfl⟩ := Check.findIssues_eq_ok.mp hissues
    show ((own ++ p.files spec layout (spec.components.head hne)).map (·.path)).Nodup ↔
      Check.Free "duplicate-route" (Check.issuesOf spec checked)
    rw [hpaths, nodup_paths, Check.free_issuesOf_route]

/-- Three pages: a route that is taken, and one that looks like a file of the shell. -/
def imitation : Specification where
  projectName := "portal"
  components := [{ name := "App.Component.ts" }, { name := "a/b" }, { name := "A/B" }]

theorem paths_nodup_iff_imitation :
    imitation.components ≠ [] ∧ Skeleton.files.invocations imitation {} = .value [] ∧
    ∃ result issues, imitation.generate {} .files = .ok result ∧
      "src/app/app.component.ts/app.component.ts.component.ts" ∈
        result.artifacts.map (·.path) ∧
      findIssues imitation none = .ok issues ∧ (∃ i ∈ issues, i.code = "duplicate-route") ∧
      ¬ (result.artifacts.map (·.path)).Nodup := by
  have hne : imitation.components ≠ [] := by decide
  have hinvocations : Skeleton.files.invocations imitation {} = .value [] := rfl
  have hwritable : imitation.isWritable {} = true := Number.isShort_of_lt (by decide)
  obtain ⟨result, hresult, hpaths, -, hfound, hnodup⟩ :=
    imitation.paths_nodup_iff {} .files hne hinvocations
  rw [hwritable, Number.limited_true] at hresult
  obtain ⟨issues, hissues⟩ := hfound hwritable
  have htaken : ∃ i ∈ issues, i.code = "duplicate-route" := by
    obtain ⟨-, rfl⟩ := Check.findIssues_eq_ok.mp hissues
    decide
  refine ⟨hne, hinvocations, result, issues, hresult, ?_, hissues, htaken, fun h => ?_⟩
  · rw [hpaths]
    decide
  · obtain ⟨i, hi, hcode⟩ := htaken
    exact (hnodup none issues hissues).mp h i hi hcode

end Formwork
