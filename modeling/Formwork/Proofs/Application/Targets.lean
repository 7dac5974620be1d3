import Formwork.Proofs.Check.Verdict
import Formwork.Proofs.Generation.Result
import Formwork.Proofs.Writer.Confined

/-!
Where the files of an application are put. The path of a component's file is made of its route,
twice. A route is plain if its names can be names of directories that hold no generated file's name;
the files of components with different plain routes lie apart, and apart from the files that every
application has. The strict checks make routes different, so that an application of components with
plain routes is written cleanly unless a whole path is too long. A route that leads out of the
project, or that the file system cannot be asked about, is refused by the writer, and nothing at all
is written then.
-/

namespace Formwork.Application

open FileTree Writer

/-! ### Routes -/

/-- What the names of the files of a component end with. -/
def endings : List String := [".component.ts", ".component.html", ".component.css"]

/-- A name that a route can give to a directory. It is not the name of a generated file. -/
structure IsDirectoryName (n : String) : Prop extends IsName n where
  ne_empty : n ≠ ""
  ne_here : n ≠ "."
  ne_module : n ≠ "app.module.ts" ∧ n ≠ "app-routing.module.ts"
  no_ending : ∀ e ∈ endings, ¬ e.toList <:+ n.toList

theorem ending_of_mem {ending : String} (he : ending ∈ endings) :
    13 ≤ ending.toList.length ∧ '/' ∉ ending.toList ∧ '\x00' ∉ ending.toList ∧
      Text.holdsHalf ending = false ∧ nameSize ending ≤ 15 := by
  simp only [endings, List.mem_cons, List.not_mem_nil, or_false] at he
  rcases he with rfl | rfl | rfl <;> decide

/-- The longest name, in octets, that is still short enough with an ending. -/
def longestStem : Nat := 240

/-- A route of names of directories. The last one is the name of files as well. -/
structure PlainRoute (route : String) : Prop where
  names : ∀ n ∈ Path.names route, IsDirectoryName n
  last : ∀ n, (Path.names route).getLast? = some n → nameSize n ≤ longestStem

instance (n : String) : Decidable (IsDirectoryName n) :=
  decidable_of_iff (IsName n ∧ n ≠ "" ∧ n ≠ "." ∧
    (n ≠ "app.module.ts" ∧ n ≠ "app-routing.module.ts") ∧ ∀ e ∈ endings, ¬ e.toList <:+ n.toList)
    ⟨fun ⟨hname, hempty, hhere, hmodule, hending⟩ => ⟨hname, hempty, hhere, hmodule, hending⟩,
      fun h => ⟨h.toIsName, h.ne_empty, h.ne_here, h.ne_module, h.no_ending⟩⟩

instance (route : String) : Decidable (PlainRoute route) :=
  decidable_of_iff ((∀ n ∈ Path.names route, IsDirectoryName n) ∧
    ∀ n ∈ (Path.names route).getLast?, nameSize n ≤ longestStem)
    ⟨fun ⟨hnames, hlast⟩ => ⟨hnames, hlast⟩, fun h => ⟨h.names, h.last⟩⟩

def componentParts (route ending : String) : Place :=
  ["src", "app"] ++ (Path.names route ++ ((Path.names route).dropLast ++
    [((Path.names route).getLast?).getD "" ++ ending]))

theorem names_eq_concat (route : String) :
    Path.names route =
      (Path.names route).dropLast ++ [((Path.names route).getLast?).getD ""] := by
  cases hlast : (Path.names route).getLast? with
  | none => exact absurd (List.getLast?_eq_none_iff.mp hlast) (Path.names_ne_nil route)
  | some n => exact (List.dropLast_append_getLast? n hlast).symm

theorem isName_append_ending {n ending : String} (hn : IsName n)
    (hshort : nameSize n ≤ longestStem) (he : ending ∈ endings) : IsName (n ++ ending) := by
  obtain ⟨hlong, -, hnul, hhalf, hsize⟩ := ending_of_mem he
  refine ⟨fun hup => ?_, ?_, ?_, ?_⟩
  · have hlength := congrArg (fun s => s.toList.length) hup
    simp only [String.toList_append, List.length_append] at hlength
    have htwo : "..".toList.length = 2 := rfl
    omega
  · rw [String.toList_append, List.mem_append]
    exact fun h => h.elim hn.no_nul hnul
  · have hown := hn.no_half
    rw [Text.holdsHalf] at hown hhalf ⊢
    rw [String.toList_append, List.any_append, hown, hhalf]
    rfl
  · have hlongest : longestStem + 15 = longestName := rfl
    rw [nameSize] at hshort hsize ⊢
    rw [String.toList_append, Text.Utf8.nameOctets_append, List.length_append]
    omega

/-! ### The paths of the files of a component -/

section

variable {route ending : String}

theorem names_componentPath (he : ending ∈ endings) :
    Path.names ("src/app" ++ "/" ++ route ++ "/" ++ (route ++ ending)) =
      componentParts route ending := by
  have hdirectory : Path.names "src/app" = ["src", "app"] := by decide
  rw [Path.names_append_slash, Path.names_append_slash, hdirectory,
    Path.names_append (ending_of_mem he).2.1 (names_eq_concat route), componentParts,
    List.append_assoc]

theorem isName_of_mem_componentParts (h : PlainRoute route) (he : ending ∈ endings) {n : String}
    (hn : n ∈ componentParts route ending) : IsName n ∧ n ≠ "" ∧ n ≠ "." := by
  obtain ⟨last, hlast⟩ : ∃ last, (Path.names route).getLast? = some last :=
    Option.ne_none_iff_exists'.mp fun hnone =>
      Path.names_ne_nil route (List.getLast?_eq_none_iff.mp hnone)
  have hroute : ∀ n ∈ Path.names route, IsName n ∧ n ≠ "" ∧ n ≠ "." := fun n hn =>
    ⟨(h.names n hn).toIsName, (h.names n hn).ne_empty, (h.names n hn).ne_here⟩
  simp only [componentParts, List.mem_append, List.mem_cons, List.not_mem_nil, or_false] at hn
  rcases hn with (rfl | rfl) | hn | hn | rfl
  · exact ⟨by decide, by decide, by decide⟩
  · exact ⟨by decide, by decide, by decide⟩
  · exact hroute n hn
  · exact hroute n (List.mem_of_mem_dropLast hn)
  · rw [hlast, Option.getD_some]
    have hname := isName_append_ending (h.names last (List.mem_of_getLast? hlast)).toIsName
      (h.last last hlast) he
    have hlong : 13 ≤ (last ++ ending).toList.length := by
      rw [String.toList_append, List.length_append]
      exact Nat.le_add_left_of_le (ending_of_mem he).1
    refine ⟨hname, fun heq => ?_, fun heq => ?_⟩
    · rw [heq] at hlong
      exact absurd hlong (by decide)
    · rw [heq] at hlong
      exact absurd hlong (by decide)

theorem parts_componentPath (h : PlainRoute route) (he : ending ∈ endings) :
    (Path.ofString ("src/app" ++ "/" ++ route ++ "/" ++ (route ++ ending))).parts =
      componentParts route ending := by
  rw [Path.parts_ofString, names_componentPath he, List.filter_eq_self]
  intro n hn
  obtain ⟨-, hempty, hhere⟩ := isName_of_mem_componentParts h he hn
  simp [hempty, hhere]

end

/-! ### Files that lie apart -/

/-- The file of one component is on the way to the file of another one only if both are the same
file of one route. -/
theorem eq_of_componentParts_isPrefix {route route' ending ending' : String}
    (h : PlainRoute route') (he : ending ∈ endings)
    (hway : componentParts route ending <+: componentParts route' ending') :
    route = route' ∧ ending = ending' := by
  let stem := fun route => Path.names route ++ (Path.names route).dropLast
  let file := fun route ending => ((Path.names route).getLast?).getD "" ++ ending
  have hparts : ∀ route ending,
      componentParts route ending = ["src", "app"] ++ (stem route ++ [file route ending]) :=
    fun route ending => by simp [componentParts, stem, file]
  rw [hparts, hparts, List.prefix_append_right_inj] at hway
  rcases List.prefix_concat_iff.mp hway with heq | hshorter
  · -- a stem of `2 * n - 1` names begins with the `n` names of its route
    obtain ⟨hstem, hfile⟩ := List.append_inj' heq rfl
    have hnames : Path.names route = Path.names route' := by
      have hlength := congrArg List.length hstem
      simp only [stem, List.length_append, List.length_dropLast] at hlength
      have hpos := List.length_pos_iff.mpr (Path.names_ne_nil route)
      have hpos' := List.length_pos_iff.mpr (Path.names_ne_nil route')
      exact (List.append_inj hstem (by omega)).1
    have hroute := Path.names_injective hnames
    subst hroute
    exact ⟨rfl, String.append_right_inj _ |>.mp (List.cons.inj hfile).1⟩
  · -- the name of a file would be the name of a directory
    have hmem : file route ending ∈ stem route' :=
      hshorter.subset (List.mem_append_right _ List.mem_cons_self)
    have hname : file route ending ∈ Path.names route' := by
      rcases List.mem_append.mp hmem with hmem | hmem
      · exact hmem
      · exact List.mem_of_mem_dropLast hmem
    refine absurd ?_ ((h.names _ hname).no_ending ending he)
    rw [String.toList_append]
    exact List.suffix_append _ _

theorem componentParts_apart {route route' ending ending' : String} (h : PlainRoute route)
    (h' : PlainRoute route') (he : ending ∈ endings) (he' : ending' ∈ endings)
    (hne : route ≠ route' ∨ ending ≠ ending') :
    Apart (componentParts route ending) (componentParts route' ending') := by
  refine ⟨fun hway => ?_, fun hway => ?_⟩
  · obtain ⟨hroute, hending⟩ := eq_of_componentParts_isPrefix h' he hway
    exact hne.elim (· hroute) (· hending)
  · obtain ⟨hroute, hending⟩ := eq_of_componentParts_isPrefix h he' hway
    exact hne.elim (· hroute.symm) (· hending.symm)

/-- The names on the way to the files that are there in every application, and to those of a
workspace that is written directly. -/
def fixedParts : List Place :=
  [["package.json"], ["angular.json"], ["tsconfig.json"], ["tsconfig.app.json"],
    ["src", "index.html"], ["src", "main.ts"], ["src", "app", "app.component.ts"],
    ["src", "app", "app-routing.module.ts"], ["src", "app", "app.module.ts"],
    ["src", "app", "app.component.html"], ["src", "app", "app.component.css"],
    ["src", "styles.css"]]

theorem fixedParts_apart : fixedParts.Pairwise Apart := by decide

theorem isName_of_mem_fixedParts {p : Place} (hp : p ∈ fixedParts) :
    p ≠ [] ∧ ∀ n ∈ p, IsName n := by
  have hall : ∀ p ∈ fixedParts, p ≠ [] ∧ ∀ n ∈ p, IsName n := by decide
  exact hall p hp

theorem fixedParts_apart_component {p : Place} (hp : p ∈ fixedParts) {route : String}
    (h : PlainRoute route) (ending : String) : Apart p (componentParts route ending) := by
  -- the place has at least four names, the third of which is the first one of the route
  obtain ⟨first, more, hnames⟩ : ∃ first more, Path.names route = first :: more :=
    List.exists_cons_of_ne_nil (Path.names_ne_nil route)
  obtain ⟨name, rest, hrest⟩ : ∃ name rest, more ++ ((Path.names route).dropLast ++
      [((Path.names route).getLast?).getD "" ++ ending]) = name :: rest :=
    List.exists_cons_of_ne_nil (by simp)
  have hparts : componentParts route ending = "src" :: "app" :: first :: name :: rest := by
    rw [← hrest, componentParts]
    simp [hnames]
  have hfirst := h.names first (hnames ▸ List.mem_cons_self)
  have hcomponent : ∀ e ∈ endings, first ≠ "app" ++ e := fun e he heq =>
    hfirst.no_ending e he (by rw [heq, String.toList_append]; exact List.suffix_append _ _)
  have hts : first ≠ "app.component.ts" := hcomponent ".component.ts" (by decide)
  have hhtml : first ≠ "app.component.html" := hcomponent ".component.html" (by decide)
  have hcss : first ≠ "app.component.css" := hcomponent ".component.css" (by decide)
  obtain ⟨hmodule, hrouting⟩ := hfirst.ne_module
  rw [hparts, Apart]
  simp only [fixedParts, List.mem_cons, List.not_mem_nil, or_false] at hp
  rcases hp with rfl | rfl | rfl | rfl | rfl | rfl | rfl | rfl | rfl | rfl | rfl | rfl <;>
    simp [List.cons_prefix_cons, hts.symm, hhtml.symm, hcss.symm, hmodule.symm, hrouting.symm]

/-! ### The files of an application -/

def artifactParts (a : Artifact) : Place := (Path.ofString a.path).parts

/-- A path that is looked at from the project. -/
def IsRelative (a : Artifact) : Prop := (Path.ofString a.path).isAbsolute = false

/-- The paths of the files that are there in every application, behind those of a workspace that is
written directly. -/
def fixedPaths : List String :=
  ["package.json", "angular.json", "tsconfig.json", "tsconfig.app.json", "src/index.html",
    "src/main.ts", "src/app/app.component.ts", "src/app/app-routing.module.ts",
    "src/app/app.module.ts", "src/app/app.component.html", "src/app/app.component.css",
    "src/styles.css"]

theorem parts_fixedPaths :
    fixedPaths.map (fun path => (Path.ofString path).parts) = fixedParts := by
  decide

theorem isRelative_of_mem_fixedPaths {a : Artifact} (h : a.path ∈ fixedPaths) : IsRelative a := by
  have hall : ∀ path ∈ fixedPaths, (Path.ofString path).isAbsolute = false := by decide
  exact hall a.path h

theorem paths_own {skeleton : Skeleton} {spec : Specification} {layout : Layout}
    {own : List Artifact} (h : skeleton.artifacts spec layout = .ok own) :
    (own.map (·.path)).Sublist (fixedPaths.take 7) := by
  cases skeleton with
  | commands package installs =>
      cases Except.ok.inj h
      exact List.nil_sublist _
  | none =>
      cases Except.ok.inj h
      exact List.nil_sublist _
  | files =>
      obtain ⟨index, main, root, hfiles⟩ := Skeleton.workspace_total spec.projectName layout
      cases Except.ok.inj (h.symm.trans hfiles)
      exact List.Sublist.refl _

theorem paths_ofApplication (p : Pages) (spec : Specification) (layout : Layout)
    (first : Component) :
    (p.ofApplication spec layout first).map (·.path) = fixedPaths.drop 7 := rfl

theorem filePath_append (c : Component) (suffix : String) :
    Component.filePath Component.standardDirectory c.name ++ suffix =
      "src/app" ++ "/" ++ Naming.pathForm c.name ++ "/" ++
        (Naming.pathForm c.name ++ (".component" ++ suffix)) := by
  delta Component.filePath Component.standardDirectory
  simp only [String.append_assoc]

theorem isAbsolute_below_source (rest : String) :
    (Path.ofString ("src/app" ++ rest)).isAbsolute = false := by
  have hroot : Path.rootOf ("src/app" ++ rest).toList = "" := by
    rw [String.toList_append]
    rfl
  show (Path.rootOf ("src/app" ++ rest).toList != "") = false
  rw [hroot]
  decide

theorem artifactParts_ofComponent (p : Pages) {c : Component}
    (h : PlainRoute (Naming.pathForm c.name)) :
    (p.ofComponent c).map artifactParts =
      endings.map (componentParts (Naming.pathForm c.name)) := by
  have hparts : ∀ suffix, ".component" ++ suffix ∈ endings →
      (Path.ofString
        (Component.filePath Component.standardDirectory c.name ++ suffix)).parts =
          componentParts (Naming.pathForm c.name) (".component" ++ suffix) := fun suffix he => by
    rw [filePath_append, parts_componentPath h he]
  have hts := hparts ".ts" (by decide)
  have hhtml := hparts ".html" (by decide)
  have hcss := hparts ".css" (by decide)
  simp only [Pages.ofComponent, List.map_cons, List.map_nil, artifactParts, hts, hhtml, hcss,
    endings]
  rfl

theorem isRelative_ofComponent (p : Pages) (c : Component) :
    ∀ a ∈ p.ofComponent c, IsRelative a := by
  have hrelative : ∀ suffix, (Path.ofString
      (Component.filePath Component.standardDirectory c.name ++ suffix)).isAbsolute = false :=
    fun suffix => by
      rw [filePath_append, String.append_assoc, String.append_assoc, String.append_assoc]
      exact isAbsolute_below_source _
  simp only [Pages.ofComponent, List.forall_mem_cons, List.not_mem_nil, false_imp_iff,
    forall_true_iff, and_true]
  exact ⟨hrelative ".ts", hrelative ".html", hrelative ".css"⟩

theorem destination_eq {current : Place} {root : String} {a : Artifact} (hrelative : IsRelative a)
    (hnames : ∀ n ∈ artifactParts a, IsName n) :
    destination current root a = Path.follow current root ++ artifactParts a := by
  rw [destination, ← Path.resolve_join_ofString, ← Path.resolve_ofString]
  exact Path.resolve_join hrelative fun hup => (hnames ".." hup).ne_up rfl

theorem isPassable_path {a : Artifact} (hnames : ∀ n ∈ artifactParts a, IsName n) :
    Path.IsPassable a.path :=
  Path.isPassable_iff_of_ofString.mpr fun n hn => (hnames n hn).isPassable

section

variable (p : Pages) {spec : Specification} {layout : Layout} {skeleton : Skeleton}
  {own : List Artifact} (first : Component)

theorem artifactParts_components
    (hplain : ∀ c ∈ spec.components, PlainRoute (Naming.pathForm c.name)) :
    ((spec.components.map p.ofComponent).flatten).map artifactParts =
      spec.components.flatMap fun c => endings.map (componentParts (Naming.pathForm c.name)) := by
  rw [List.map_flatten, List.map_map, List.flatMap_def]
  refine congrArg List.flatten (List.map_congr_left fun c hc => ?_)
  rw [Function.comp_apply, artifactParts_ofComponent p (hplain c hc)]

theorem parts_of_paths {as : List Artifact} {paths : List String}
    (h : (as.map (·.path)).Sublist paths) :
    (as.map artifactParts).Sublist (paths.map fun path => (Path.ofString path).parts) := by
  have hparts : as.map artifactParts =
      (as.map (·.path)).map fun path => (Path.ofString path).parts := by
    rw [List.map_map]
    rfl
  rw [hparts]
  exact h.map _

theorem artifactParts_fixed (hown : skeleton.artifacts spec layout = .ok own) :
    (own.map artifactParts ++ (p.ofApplication spec layout first).map artifactParts).Sublist
      fixedParts := by
  have happlication : ((p.ofApplication spec layout first).map artifactParts).Sublist
      ((fixedPaths.drop 7).map fun path => (Path.ofString path).parts) :=
    parts_of_paths (by rw [paths_ofApplication])
  rw [← parts_fixedPaths, ← List.take_append_drop 7 fixedPaths, List.map_append]
  exact (parts_of_paths (paths_own hown)).append happlication

theorem files_apart (hown : skeleton.artifacts spec layout = .ok own)
    (hroutes : (spec.components.map fun c => Naming.pathForm c.name).Nodup)
    (hplain : ∀ c ∈ spec.components, PlainRoute (Naming.pathForm c.name)) :
    ((own ++ p.files spec layout first).map artifactParts).Pairwise Apart := by
  have hfixed := artifactParts_fixed p first hown
  have hmem : ∀ q, q ∈ own.map artifactParts ∨
      q ∈ (p.ofApplication spec layout first).map artifactParts → q ∈ fixedParts :=
    fun q hq => hfixed.subset (List.mem_append.mpr hq)
  obtain ⟨hownApart, happlicationApart, hcross⟩ :=
    List.pairwise_append.mp (fixedParts_apart.sublist hfixed)
  have hcomponents : (spec.components.flatMap fun c =>
      endings.map (componentParts (Naming.pathForm c.name))).Pairwise Apart := by
    refine List.pairwise_flatMap.mpr ⟨fun c hc => ?_, ?_⟩
    · refine List.pairwise_map.mpr (List.Pairwise.imp_of_mem ?_ (by decide : endings.Nodup))
      intro e e' he he' hne
      exact componentParts_apart (hplain c hc) (hplain c hc) he he' (.inr hne)
    · refine List.Pairwise.imp_of_mem ?_ (List.pairwise_map.mp hroutes)
      intro c c' hc hc' hne q hq q' hq'
      obtain ⟨e, he, rfl⟩ := List.mem_map.mp hq
      obtain ⟨e', he', rfl⟩ := List.mem_map.mp hq'
      exact componentParts_apart (hplain c hc) (hplain c' hc') he he' (.inl hne)
  have hapart : ∀ q ∈ fixedParts, ∀ q' ∈ spec.components.flatMap fun c =>
      endings.map (componentParts (Naming.pathForm c.name)), Apart q q' := fun q hq q' hq' => by
    obtain ⟨c, hc, hq'⟩ := List.mem_flatMap.mp hq'
    obtain ⟨e, -, rfl⟩ := List.mem_map.mp hq'
    exact fixedParts_apart_component hq (hplain c hc) e
  rw [Pages.files, List.map_append, List.map_append, artifactParts_components p hplain]
  refine List.pairwise_append.mpr ⟨hownApart, List.pairwise_append.mpr
    ⟨hcomponents, happlicationApart, fun q hq q' hq' => ?_⟩, fun q hq q' hq' => ?_⟩
  · exact (hapart q' (hmem q' (.inr hq')) q hq).symm
  · rcases List.mem_append.mp hq' with hq' | hq'
    · exact hapart q (hmem q (.inl hq)) q' hq'
    · exact hcross q hq q' hq'

/-- The names on the way to a file are fixed, or they are those of a file of a component. -/
theorem artifactParts_cases (hown : skeleton.artifacts spec layout = .ok own)
    (hplain : ∀ c ∈ spec.components, PlainRoute (Naming.pathForm c.name)) {a : Artifact}
    (ha : a ∈ own ++ p.files spec layout first) :
    artifactParts a ∈ fixedParts ∨ ∃ c ∈ spec.components, ∃ e ∈ endings,
      artifactParts a = componentParts (Naming.pathForm c.name) e := by
  have hfixed := artifactParts_fixed p first hown
  have hmem : artifactParts a ∈ (own ++ p.files spec layout first).map artifactParts :=
    List.mem_map_of_mem ha
  rw [Pages.files, List.map_append, List.map_append, artifactParts_components p hplain] at hmem
  rcases List.mem_append.mp hmem with hmem | hmem
  · exact .inl (hfixed.subset (List.mem_append_left _ hmem))
  rcases List.mem_append.mp hmem with hmem | hmem
  · obtain ⟨c, hc, hmem⟩ := List.mem_flatMap.mp hmem
    obtain ⟨e, he, heq⟩ := List.mem_map.mp hmem
    exact .inr ⟨c, hc, e, he, heq.symm⟩
  · exact .inl (hfixed.subset (List.mem_append_right _ hmem))

theorem files_names (hown : skeleton.artifacts spec layout = .ok own)
    (hplain : ∀ c ∈ spec.components, PlainRoute (Naming.pathForm c.name)) {a : Artifact}
    (ha : a ∈ own ++ p.files spec layout first) :
    artifactParts a ≠ [] ∧ ∀ n ∈ artifactParts a, IsName n := by
  rcases artifactParts_cases p first hown hplain ha with hfixed | ⟨c, hc, e, he, heq⟩
  · exact isName_of_mem_fixedParts hfixed
  · rw [heq]
    exact ⟨by simp [componentParts],
      fun n hn => (isName_of_mem_componentParts (hplain c hc) he hn).1⟩

theorem files_relative (hown : skeleton.artifacts spec layout = .ok own) :
    ∀ a ∈ own ++ p.files spec layout first, IsRelative a := by
  intro a ha
  rcases List.mem_append.mp ha with ha | ha
  · have hpath : a.path ∈ fixedPaths.take 7 := (paths_own hown).subset (List.mem_map_of_mem ha)
    exact isRelative_of_mem_fixedPaths (List.mem_of_mem_take hpath)
  rcases List.mem_append.mp ha with ha | ha
  · obtain ⟨files, hfiles, ha⟩ := List.mem_flatten.mp ha
    obtain ⟨c, -, rfl⟩ := List.mem_map.mp hfiles
    exact isRelative_ofComponent p c a ha
  · have hpath : a.path ∈ fixedPaths.drop 7 := List.mem_map_of_mem (f := (·.path)) ha
    exact isRelative_of_mem_fixedPaths (List.mem_of_mem_drop hpath)

end

end Formwork.Application

namespace Formwork

open Application FileTree Writer

def office : Specification where
  projectName := "office"
  components := [{ name := "Register" }, { name := "Admin/Users" }]

theorem office_short {own : List Artifact} {p : Pages}
    (hown : Skeleton.files.artifacts office {} = .ok own)
    (hplain : ∀ c ∈ office.components, PlainRoute (Naming.pathForm c.name)) {a : Artifact}
    (ha : a ∈ own ++ p.files office {} { name := "Register" }) :
    (pathTo (destination ["work"] "out" a)).size ≤ longestPath := by
  have hfixed : ∀ parts ∈ fixedParts, (pathTo (["work", "out"] ++ parts)).size ≤ longestPath := by
    decide
  have hcomponents : ∀ c ∈ office.components, ∀ e ∈ endings,
      (pathTo (["work", "out"] ++ componentParts (Naming.pathForm c.name) e)).size ≤
        longestPath := by
    decide
  have hroot : Path.follow ["work"] "out" = ["work", "out"] := by decide
  rw [destination_eq (files_relative p _ hown a ha) (files_names p _ hown hplain ha).2, hroot]
  rcases artifactParts_cases p _ hown hplain ha with hmem | ⟨c, hc, e, he, heq⟩
  · exact hfixed _ hmem
  · rw [heq]
    exact hcomponents c hc e he

def upward : Specification where
  projectName := "office"
  components := [{ name := "../../.." }]

end Formwork
