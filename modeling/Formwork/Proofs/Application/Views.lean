import Formwork.Proofs.Application.Agreement
import Formwork.Proofs.Application.Paths
import Formwork.Proofs.Generation.History

/-!
Two views of a result. One gives for a path the content of the first artifact that has it; the other
is a mapping that the artifacts are put into one after the other, so that the last artifact with a
path gives the content. Both know the paths of the artifacts and no others. In a generation the only
artifacts with a path in common are files of components with one route, so that one view shows the
first of these components and the other the last.
-/

namespace Formwork

/-! ### The views of a list of artifacts -/

namespace GenerationResult

theorem lookup_setContent (path content p : String) (mapping : List (String × String)) :
    (setContent path content mapping).lookup p =
      if p = path then some content else mapping.lookup p := by
  have hrow : ∀ (key old : String) (rest : List (String × String)),
      ((key, old) :: rest).lookup p = if p = key then some old else rest.lookup p := by
    intro key old rest
    by_cases h : p = key
    · simp [h]
    · rw [List.lookup_cons, beq_eq_false_iff_ne.mpr h, if_neg h]
  induction mapping with
  | nil => rw [setContent, hrow]
  | cons row rest ih =>
      obtain ⟨key, old⟩ := row
      rw [setContent]
      by_cases hkey : key = path
      · subst hkey
        rw [if_pos rfl, hrow, hrow]
        split <;> rfl
      · rw [if_neg hkey, hrow, hrow, ih]
        by_cases h : p = path
        · have hne : p ≠ key := fun heq => hkey (heq.symm.trans h)
          rw [if_neg hne, if_pos h, if_pos h]
        · rw [if_neg h, if_neg h]

theorem keys_setContent (path content : String) (mapping : List (String × String)) :
    (setContent path content mapping).map (·.1) =
      if path ∈ mapping.map (·.1) then mapping.map (·.1) else mapping.map (·.1) ++ [path] := by
  induction mapping with
  | nil => rfl
  | cons row rest ih =>
      obtain ⟨key, old⟩ := row
      rw [setContent]
      by_cases hkey : key = path
      · simp [hkey]
      · rw [if_neg hkey, List.map_cons, ih]
        by_cases hrest : path ∈ rest.map (·.1) <;> simp [hrest, Ne.symm hkey]

theorem nodup_setContent {path content : String} {mapping : List (String × String)}
    (h : (mapping.map (·.1)).Nodup) : ((setContent path content mapping).map (·.1)).Nodup := by
  rw [keys_setContent]
  split
  case isTrue => exact h
  case isFalse hnew => exact h.append (List.nodup_singleton path) (by simpa using hnew)

def sharing (artifacts : List Artifact) (path : String) : List Artifact :=
  artifacts.filter fun a => a.path = path

@[simp] theorem sharing_append (artifacts more : List Artifact) (path : String) :
    sharing (artifacts ++ more) path = sharing artifacts path ++ sharing more path :=
  List.filter_append ..

theorem lookup_foldl_setContent (artifacts : List Artifact) (path : String)
    (mapping : List (String × String)) :
    (artifacts.foldl (fun m a => setContent a.path a.content m) mapping).lookup path =
      ((sharing artifacts path).getLast?.map (·.content)).or (mapping.lookup path) := by
  induction artifacts generalizing mapping with
  | nil => rfl
  | cons a rest ih =>
      rw [List.foldl_cons, ih, lookup_setContent, sharing, sharing, List.filter_cons]
      by_cases h : path = a.path
      · simp [h, List.getLast?_cons]
      · simp [h, Ne.symm h]

variable (r : GenerationResult) (path : String)

theorem lookup_asMapping :
    r.asMapping.lookup path = (sharing r.artifacts path).getLast?.map (·.content) := by
  rw [asMapping, lookup_foldl_setContent, List.lookup_nil, Option.or_none]

theorem get?_eq : r.get? path = (sharing r.artifacts path).head?.map (·.content) := by
  rw [get?, sharing, List.head?_filter]
  rfl

theorem nodup_asMapping : (r.asMapping.map (·.1)).Nodup := by
  have hfold : ∀ (artifacts : List Artifact) (mapping : List (String × String)),
      (mapping.map (·.1)).Nodup →
        ((artifacts.foldl (fun m a => setContent a.path a.content m) mapping).map (·.1)).Nodup := by
    intro artifacts
    induction artifacts with
    | nil => exact fun _ h => h
    | cons a rest ih => exact fun _ h => ih _ (nodup_setContent h)
  exact hfold r.artifacts [] List.nodup_nil

theorem isSome_get?_iff : (r.get? path).isSome ↔ path ∈ r.asMapping.map (·.1) := by
  have hkeys : path ∈ r.asMapping.map (·.1) ↔ (r.asMapping.lookup path).isSome := by
    rw [← Option.ne_none_iff_isSome, ne_eq, List.lookup_eq_none_iff, List.mem_map]
    simp only [bne_iff_ne, not_forall, not_not, exists_prop]
    exact exists_congr fun row => and_congr_right fun _ => eq_comm
  rw [hkeys, lookup_asMapping, get?_eq]
  simp

end GenerationResult

/-! ### Files with a path in common -/

namespace Application

open GenerationResult

theorem sharing_of_nodup {files : List Artifact} (h : (files.map (·.path)).Nodup) {a : Artifact}
    (ha : a ∈ files) : sharing files a.path = [a] := by
  have hsame : ∀ b ∈ files, decide (b.path = a.path) = (b == a) := fun b hb => by
    have hiff : b.path = a.path ↔ b = a :=
      ⟨fun heq => List.inj_on_of_nodup_map h hb ha heq, fun heq => heq ▸ rfl⟩
    rw [Bool.eq_iff_iff, decide_eq_true_iff, beq_iff_eq, hiff]
  rw [sharing, List.filter_congr hsame, List.filter_beq,
    List.count_eq_one_of_mem (.of_map _ h) ha]
  rfl

theorem sharing_eq_nil {files : List Artifact} {path : String}
    (h : path ∉ files.map (·.path)) : sharing files path = [] := by
  refine List.filter_eq_nil_iff.mpr fun a ha heq => h ?_
  exact of_decide_eq_true heq ▸ List.mem_map_of_mem ha

def sharingRoute (components : List Component) (c : Component) : List Component :=
  components.filter fun d => Naming.pathForm d.name = Naming.pathForm c.name

theorem route_of_sharing {components : List Component} {c d : Component}
    (h : d ∈ sharingRoute components c) : Naming.pathForm d.name = Naming.pathForm c.name := by
  simpa using List.of_mem_filter h

theorem sharingRoute_eq {components : List Component} {c d : Component}
    (h : d ∈ sharingRoute components c) :
    sharingRoute components d = sharingRoute components c := by
  rw [sharingRoute, route_of_sharing h, sharingRoute]

def componentFile (p : Pages) (c : Component) (k : Fin 3) : Artifact := (p.ofComponent c).get k

theorem componentFile_mem (p : Pages) (c : Component) (k : Fin 3) :
    componentFile p c k ∈ p.ofComponent c :=
  List.get_mem _ _

theorem exists_componentFile {p : Pages} {c : Component} {a : Artifact}
    (h : a ∈ p.ofComponent c) : ∃ k, componentFile p c k = a :=
  List.mem_iff_get.mp h

theorem path_mem (p : Pages) (c : Component) (k : Fin 3) :
    (componentFile p c k).path ∈ componentPaths c.name := by
  rw [← paths_ofComponent p]
  exact List.mem_map_of_mem (componentFile_mem p c k)

theorem path_file (p : Pages) {c d : Component} (k : Fin 3)
    (hroute : Naming.pathForm d.name = Naming.pathForm c.name) :
    (componentFile p c k).path = (componentFile p d k).path := by
  have hpaths : (p.ofComponent c).map (·.path) = (p.ofComponent d).map (·.path) := by
    rw [paths_ofComponent, paths_ofComponent, componentPaths, componentPaths, hroute]
  have hget := congrArg (fun l : List String => l[k.val]?) hpaths
  simp only [List.getElem?_map] at hget
  rw [List.getElem?_eq_getElem k.isLt, List.getElem?_eq_getElem k.isLt] at hget
  exact Option.some.inj hget

theorem sharing_ofComponent (p : Pages) (c d : Component) (k : Fin 3) :
    sharing (p.ofComponent d) (componentFile p c k).path =
      if Naming.pathForm d.name = Naming.pathForm c.name then [componentFile p d k] else [] := by
  split
  case isTrue hroute =>
    rw [path_file p k hroute]
    refine sharing_of_nodup ?_ (componentFile_mem p d k)
    rw [paths_ofComponent]
    exact componentPaths_nodup d.name
  case isFalse hroute =>
    refine sharing_eq_nil fun h => ?_
    rw [paths_ofComponent] at h
    exact componentPaths_disjoint.mpr hroute h (path_mem p c k)

theorem sharing_components (p : Pages) (c : Component) (k : Fin 3)
    (components : List Component) :
    sharing (components.map p.ofComponent).flatten (componentFile p c k).path =
      (sharingRoute components c).map fun d => componentFile p d k := by
  induction components with
  | nil => rfl
  | cons d rest ih =>
      rw [List.map_cons, List.flatten_cons, sharing_append, ih, sharing_ofComponent p c d k,
        sharingRoute, sharingRoute, List.filter_cons]
      by_cases hroute : Naming.pathForm d.name = Naming.pathForm c.name
      · simp only [hroute, decide_true, if_true, List.map_cons, List.singleton_append]
      · simp only [hroute, decide_false, if_false, Bool.false_eq_true, List.nil_append]

section

variable {spec : Specification} {layout : Layout} {skeleton : Skeleton} {own : List Artifact}
  (hown : skeleton.artifacts spec layout = .ok own)

include hown

/-- The artifacts with the path of a file of a component are the same files of the components with
its route. -/
theorem sharing_file (p : Pages) (first c : Component) (k : Fin 3) :
    sharing (own ++ p.files spec layout first) (componentFile p c k).path =
      (sharingRoute spec.components c).map fun d => componentFile p d k := by
  have hfixed := not_mem_fixedPaths (path_mem p c k)
  have hothers := workspacePaths_append skeleton
  have hworkspace : sharing own (componentFile p c k).path = [] := by
    refine sharing_eq_nil fun h => hfixed (hothers.subset (List.mem_append_left _ ?_))
    exact paths_workspace hown ▸ h
  have happlication : sharing (p.ofApplication spec layout first)
      (componentFile p c k).path = [] :=
    sharing_eq_nil fun h => hfixed (hothers.subset (List.mem_append_right _ h))
  rw [Pages.files, sharing_append, sharing_append, hworkspace, happlication,
    sharing_components, List.nil_append, List.append_nil]

theorem sharing_other (p : Pages) (first : Component) {path : String}
    (h : ∀ c ∈ spec.components, path ∉ componentPaths c.name) :
    sharing (own ++ p.files spec layout first) path = [] ∨
      ∃ a, sharing (own ++ p.files spec layout first) path = [a] := by
  have hcomponents : sharing (spec.components.map p.ofComponent).flatten path = [] := by
    refine sharing_eq_nil fun hmem => ?_
    obtain ⟨a, ha, rfl⟩ := List.mem_map.mp hmem
    obtain ⟨files, hfiles, ha⟩ := List.mem_flatten.mp ha
    obtain ⟨c, hc, rfl⟩ := List.mem_map.mp hfiles
    exact h c hc (paths_ofComponent p c ▸ List.mem_map_of_mem ha)
  have hothers : sharing (own ++ p.files spec layout first) path =
      sharing (own ++ p.ofApplication spec layout first) path := by
    rw [Pages.files, sharing_append, sharing_append, sharing_append, hcomponents, List.nil_append]
  have hpaths : (own ++ p.ofApplication spec layout first).map (·.path) =
      workspacePaths skeleton ++ applicationPaths := by
    rw [List.map_append, paths_workspace hown]
    rfl
  rw [hothers]
  by_cases hmem : path ∈ (own ++ p.ofApplication spec layout first).map (·.path)
  · obtain ⟨a, ha, rfl⟩ := List.mem_map.mp hmem
    refine .inr ⟨a, sharing_of_nodup ?_ ha⟩
    rw [hpaths]
    exact fixedPaths_nodup.sublist (workspacePaths_append skeleton)
  · exact .inl (sharing_eq_nil hmem)

end

end Application

/-! ### The views of a generation -/

open Application

/-- What the two views of a result tell. Both know the same paths. Of components with one route, one
view shows the files of the first and the other those of the last, so that the views agree on all
paths exactly if these are the same files. -/
structure GenerationResult.Views (spec : Specification) (layout : Layout)
    (r : GenerationResult) : Prop where
  distinct : (r.asMapping.map (·.1)).Nodup
  known : ∀ path, (r.get? path).isSome ↔ path ∈ r.asMapping.map (·.1)
  shown : ∀ c ∈ spec.components, ∃ first last files files',
    (sharingRoute spec.components c).head? = some first ∧
    (sharingRoute spec.components c).getLast? = some last ∧
    first.files layout Component.standardDirectory = .ok files ∧
    last.files layout Component.standardDirectory = .ok files' ∧
    (∀ a ∈ files, r.get? a.path = some a.content) ∧
    ∀ a ∈ files', r.asMapping.lookup a.path = some a.content
  elsewhere : ∀ path, (∀ c ∈ spec.components, path ∉ componentPaths c.name) →
    r.get? path = r.asMapping.lookup path
  agree : (∀ path, r.get? path = r.asMapping.lookup path) ↔
    ∀ c ∈ spec.components, ∀ first last, (sharingRoute spec.components c).head? = some first →
      (sharingRoute spec.components c).getLast? = some last →
        first.files layout Component.standardDirectory =
          last.files layout Component.standardDirectory

section

variable {spec : Specification} {layout : Layout} {skeleton : Skeleton} {own : List Artifact}
  {p : Pages} {first : Component} {r : GenerationResult}
  (hown : skeleton.artifacts spec layout = .ok own)
  (hr : r.artifacts = own ++ p.files spec layout first)

include hown hr

theorem GenerationResult.get?_file (c : Component) (k : Fin 3) :
    r.get? (componentFile p c k).path =
      (sharingRoute spec.components c).head?.map fun d => (componentFile p d k).content := by
  rw [GenerationResult.get?_eq, hr, sharing_file hown p first c k, List.head?_map, Option.map_map]
  rfl

theorem GenerationResult.lookup_file (c : Component) (k : Fin 3) :
    r.asMapping.lookup (componentFile p c k).path =
      (sharingRoute spec.components c).getLast?.map fun d =>
        (componentFile p d k).content := by
  rw [GenerationResult.lookup_asMapping, hr, sharing_file hown p first c k, List.getLast?_map,
    Option.map_map]
  rfl

theorem GenerationResult.get?_elsewhere {path : String}
    (h : ∀ c ∈ spec.components, path ∉ componentPaths c.name) :
    r.get? path = r.asMapping.lookup path := by
  rw [GenerationResult.get?_eq, GenerationResult.lookup_asMapping, hr]
  rcases sharing_other hown p first h with hnone | ⟨a, hone⟩
  · rw [hnone]
    rfl
  · rw [hone]
    rfl

theorem GenerationResult.views_of_rendered (hp : p.Rendered spec layout)
    (hwritable : spec.isWritable layout = true) : r.Views spec layout := by
  rw [Specification.isWritable, Bool.and_eq_true, List.all_eq_true] at hwritable
  have hfiles : ∀ {c d : Component}, d ∈ sharingRoute spec.components c →
      d.files layout Component.standardDirectory = .ok (p.ofComponent d) := fun {c d} hd => by
    rw [Pages.Rendered.files_eq (g := { spec, layout }) hp d, hwritable.2,
      hwritable.1 d (List.mem_of_mem_filter hd)]
    rfl
  have hget : ∀ {c d : Component}, (sharingRoute spec.components c).head? = some d →
      ∀ a ∈ p.ofComponent d, r.get? a.path = some a.content := fun {c d} hd a ha => by
    obtain ⟨k, rfl⟩ := exists_componentFile ha
    rw [get?_file hown hr d k, sharingRoute_eq (List.mem_of_head? hd), hd, Option.map_some]
  have hlookup : ∀ {c d : Component}, (sharingRoute spec.components c).getLast? = some d →
      ∀ a ∈ p.ofComponent d, r.asMapping.lookup a.path = some a.content := fun {c d} hd a ha => by
    obtain ⟨k, rfl⟩ := exists_componentFile ha
    rw [lookup_file hown hr d k, sharingRoute_eq (List.mem_of_getLast? hd), hd, Option.map_some]
  have hends : ∀ c ∈ spec.components, ∃ f l, (sharingRoute spec.components c).head? = some f ∧
      (sharingRoute spec.components c).getLast? = some l := fun c hc => by
    have hne : sharingRoute spec.components c ≠ [] :=
      List.ne_nil_of_mem (List.mem_filter.mpr ⟨hc, by simp⟩)
    exact ⟨_, _, List.head?_eq_some_head hne, List.getLast?_eq_some_getLast hne⟩
  refine ⟨r.nodup_asMapping, r.isSome_get?_iff, fun c hc => ?_,
    fun path => get?_elsewhere hown hr, fun hagree c _ f l hf hl => ?_, fun hsame path => ?_⟩
  · obtain ⟨f, l, hf, hl⟩ := hends c hc
    exact ⟨f, l, _, _, hf, hl, hfiles (List.mem_of_head? hf), hfiles (List.mem_of_getLast? hl),
      hget hf, hlookup hl⟩
  · have hroute : Naming.pathForm l.name = Naming.pathForm f.name :=
      (route_of_sharing (List.mem_of_getLast? hl)).trans
        (route_of_sharing (List.mem_of_head? hf)).symm
    rw [hfiles (List.mem_of_head? hf), hfiles (List.mem_of_getLast? hl)]
    refine congrArg Except.ok (List.ext_get rfl fun k hk _ => ?_)
    have hpath := path_file p ⟨k, hk⟩ hroute
    have hcontent := hget hf _ (componentFile_mem p f ⟨k, hk⟩)
    rw [hagree, hpath, hlookup hl _ (componentFile_mem p l ⟨k, hk⟩)] at hcontent
    exact Artifact.mk.injEq .. ▸ ⟨hpath, (Option.some.inj hcontent).symm⟩
  · by_cases hcomponent : ∃ c ∈ spec.components, path ∈ componentPaths c.name
    · obtain ⟨c, hc, hmem⟩ := hcomponent
      obtain ⟨a, ha, rfl⟩ := List.mem_map.mp (paths_ofComponent p c ▸ hmem)
      obtain ⟨k, rfl⟩ := exists_componentFile ha
      obtain ⟨f, l, hf, hl⟩ := hends c hc
      have heq := hsame c hc f l hf hl
      rw [hfiles (List.mem_of_head? hf), hfiles (List.mem_of_getLast? hl)] at heq
      have hfile : componentFile p f k = componentFile p l k :=
        List.get_of_eq (Except.ok.inj heq) k
      rw [get?_file hown hr c k, lookup_file hown hr c k, hf, hl, Option.map_some,
        Option.map_some, hfile]
    · exact get?_elsewhere hown hr fun c hc hmem => hcomponent ⟨c, hc, hmem⟩

end

/-- The two views of a generation, and when they agree. They do if the checks find no route that is
taken. -/
theorem Specification.generate_views {spec : Specification} {layout : Layout} {skeleton : Skeleton}
    {result : GenerationResult} (h : spec.generate layout skeleton = .ok result) :
    result.Views spec layout ∧
      ∃ issues, findIssues spec none = .ok issues ∧
        ((∀ i ∈ issues, i.code ≠ "duplicate-route") →
          ∀ path, result.get? path = result.asMapping.lookup path) := by
  obtain ⟨hne, hwritable, invocations, hinvocations⟩ := Specification.of_generate_ok h
  obtain ⟨own, hown⟩ := skeleton.artifacts_total spec layout
  obtain ⟨p, hp⟩ := exists_rendered hne layout
  have hcomponents : spec.components = spec.components.head hne :: spec.components.tail :=
    (List.cons_head_tail hne).symm
  have hresult := Specification.generate_eq hcomponents hinvocations hown hp
  rw [h, hwritable, Number.limited_true] at hresult
  have hviews : result.Views spec layout :=
    GenerationResult.views_of_rendered hown (by rw [Except.ok.inj hresult]) hp hwritable
  have hissues := Check.findIssues_eq_ok.mpr
    ⟨Specification.isTellable_of_isWritable hwritable, rfl⟩
  refine ⟨hviews, _, hissues, fun hfree => hviews.agree.mpr fun c _ f l hf hl => ?_⟩
  have hnodup := (Check.free_issuesOf_route spec none).mp hfree
  have hf := List.mem_of_head? hf
  have hl := List.mem_of_getLast? hl
  have hsame : f = l := List.inj_on_of_nodup_map hnodup (List.mem_of_mem_filter hf)
    (List.mem_of_mem_filter hl) ((route_of_sharing hf).trans (route_of_sharing hl).symm)
  rw [hsame]

def twins : Specification where
  projectName := "portal"
  components := [{ name := "Home" }, { name := "HOME" }]

/-- One view shows the first of the components, and the other the second. -/
theorem generate_views_twins :
    ∃ result, twins.generate {} .none = .ok result ∧ result.Views twins {} ∧
      ¬ ∀ path, result.get? path = result.asMapping.lookup path := by
  have hwritable : twins.isWritable {} = true := Number.isShort_of_lt (by decide)
  obtain ⟨p, hp⟩ := exists_rendered (by decide : twins.components ≠ []) {}
  have hresult : twins.generate {} .none = _ := Specification.generate_eq rfl rfl rfl hp
  rw [hwritable, Number.limited_true] at hresult
  obtain ⟨hviews, -⟩ := Specification.generate_views hresult
  refine ⟨_, hresult, hviews, fun hagree => ?_⟩
  have hfirst : ({ name := "Home" } : Component) ∈ twins.components := List.mem_cons_self
  have hsame := hviews.agree.mp hagree _ hfirst _ _ rfl rfl
  have hdiffer : (Component.files { name := "Home" } {} Component.standardDirectory).toOption ≠
      (Component.files { name := "HOME" } {} Component.standardDirectory).toOption := by
    decide +kernel
  exact hdiffer (congrArg Except.toOption hsame)

end Formwork
