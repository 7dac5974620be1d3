import Formwork.Proofs.Application.Paths
import Formwork.Proofs.Run.Telling
import Formwork.Proofs.SpecificationFile.Loading

/-!
When a dry run succeeds. What is printed as it is may be read as markup, whatever it is meant for,
so the run of a specification that passes the checks depends on it. Where it has no bracket nothing
in it is read as a tag: the texts are those of the settings, the name of the project and the routes,
which the paths in the plan are made of.
-/

namespace Formwork.Run

open Application Console

/-! ### Texts without brackets -/

/-- Nothing that a dry run prints as it is has an opening bracket: the path and the output
directory, the package of the commands, the name of the project, and the routes. -/
structure Bracketless (given : Settings) (path : Value) (spec : Specification) : Prop where
  path : '[' ∉ path.display.toList
  output : '[' ∉ given.outputDirectory.text.toList
  package : '[' ∉ given.cliPackage.toList
  project : '[' ∉ spec.projectName.toList
  routes : ∀ c ∈ spec.components, '[' ∉ (Naming.pathForm c.name).toList

theorem forall_mem_setContent {P : String × String → Prop} {path content : String}
    {rows : List (String × String)} (h : P (path, content)) (hrows : ∀ row ∈ rows, P row) :
    ∀ row ∈ GenerationResult.setContent path content rows, P row := by
  induction rows with
  | nil => exact List.forall_mem_singleton.mpr h
  | cons row rows ih =>
      obtain ⟨hrow, hmore⟩ := List.forall_mem_cons.mp hrows
      rw [GenerationResult.setContent]
      split
      case isTrue hsame => exact List.forall_mem_cons.mpr ⟨hsame ▸ h, hmore⟩
      case isFalse => exact List.forall_mem_cons.mpr ⟨hrow, ih hmore⟩

theorem forall_mem_planRows {P : String × String → Prop} {result : GenerationResult}
    (hcommands : ∀ i ∈ result.invocations, ∀ n : Nat, P ("command " ++ toString n, i.commandLine))
    (hartifacts : ∀ a ∈ result.artifacts, P (a.path, toString a.content.length ++ " chars")) :
    ∀ row ∈ planRows result, P row := by
  have hfold : ∀ (more rows : List (String × String)), (∀ row ∈ more, P row) →
      (∀ row ∈ rows, P row) →
      ∀ row ∈ more.foldl (fun rows row => GenerationResult.setContent row.1 row.2 rows) rows,
        P row := fun more => by
    induction more with
    | nil => exact fun rows _ hrows => hrows
    | cons row more ih =>
        intro rows hmore hrows
        obtain ⟨hrow, hmore⟩ := List.forall_mem_cons.mp hmore
        exact ih _ hmore (forall_mem_setContent hrow hrows)
  refine hfold _ _ (List.forall_mem_map.mpr hartifacts) (List.forall_mem_map.mpr ?_)
  rintro ⟨i, n⟩ hi
  exact hcommands i (List.fst_mem_of_mem_zipIdx hi) n

theorem not_mem_intercalate {α : Type} {a : α} {separator : List α} {items : List (List α)}
    (hseparator : a ∉ separator) (hitems : ∀ item ∈ items, a ∉ item) :
    a ∉ separator.intercalate items := by
  induction items with
  | nil => simp [List.intercalate]
  | cons item items ih =>
      obtain ⟨hitem, hmore⟩ := List.forall_mem_cons.mp hitems
      cases items with
      | nil => simpa [List.intercalate] using hitem
      | cons next items =>
          rw [List.intercalate_cons_cons]
          simp [hitem, hseparator, ih hmore]

section

variable {path : Value} {spec : Specification} {given : Settings}

theorem Bracketless.commandLine (h : Bracketless given path spec) {invocations : List Invocation}
    (hinvocations : given.workspace.invocations spec given.layout = .value invocations) :
    ∀ i ∈ invocations, '[' ∉ i.commandLine.toList := by
  have hline : ∀ i : Invocation, (∀ word ∈ i.argv, '[' ∉ word.toList) →
      '[' ∉ i.commandLine.toList := fun i hwords => by
    rw [Invocation.commandLine, String.toList_intercalate]
    exact not_mem_intercalate (by decide) (List.forall_mem_map.mpr hwords)
  rw [Settings.workspace] at hinvocations
  cases hskeleton : given.skeleton with
  | direct =>
      rw [hskeleton] at hinvocations
      obtain rfl : [] = invocations := Schema.Reading.value.inj hinvocations
      exact fun i hi => absurd hi List.not_mem_nil
  | cli =>
      rw [hskeleton] at hinvocations
      obtain rfl : Skeleton.create given.cliPackage spec.projectName ::
          Skeleton.installations given.installsDependencies spec.projectName given.layout =
            invocations := Schema.Reading.value.inj hinvocations
      refine List.forall_mem_cons.mpr ⟨hline _ ?_, fun i hi => hline i ?_⟩
      · simp [Skeleton.create, h.package, h.project]
      · have hwords : i.argv ⊆ ["npm", "install", "bootstrap"] := by
          rcases List.mem_append.mp hi with hi | hi <;> split at hi
          all_goals simp_all [Skeleton.installDependencies, Skeleton.installBootstrap]
        exact fun word hword => (by decide : ∀ word ∈ ["npm", "install", "bootstrap"],
          '[' ∉ word.toList) word (hwords hword)

theorem Bracketless.artifactPath (h : Bracketless given path spec) {p : String}
    (hpath : p ∈ workspacePaths given.workspace ++
      (spec.components.flatMap (fun c => componentPaths c.name) ++ applicationPaths)) :
    '[' ∉ p.toList := by
  have hfixed : ∀ path ∈ fixedPaths, '[' ∉ path.toList := by decide
  have hsub := (workspacePaths_append given.workspace).subset
  rw [List.mem_append, List.mem_append] at hpath
  rcases hpath with hown | hcomponent | hshared
  · exact hfixed _ (hsub (List.mem_append_left _ hown))
  · obtain ⟨c, hc, hmem⟩ := List.mem_flatMap.mp hcomponent
    obtain ⟨ending, hending, rfl⟩ := List.mem_map.mp hmem
    have hend : ∀ ending ∈ endings, '[' ∉ ending.toList := by decide
    simp [String.toList_append, h.routes c hc, hend ending hending]
  · exact hfixed _ (hsub (List.mem_append_right _ hshared))

theorem banner_output (hpath : '[' ∉ path.display.toList)
    (houtput : '[' ∉ given.outputDirectory.text.toList) (limit : Nat) :
    ∃ out, (banner given.loose path).output limit = .ok out := by
  have hmarkup : ("[bold]ngscaffold[/bold]\nSpecification: " ++ path.display ++ "\nOutput: " ++
      given.outputDirectory.text).toList =
        [] ++ ("[bold]".toList ++ ("ngscaffold".toList ++ ("[/bold]".toList ++
          ("\nSpecification: ".toList ++ (path.display.toList ++ ("\nOutput: ".toList ++
            given.outputDirectory.text.toList)))))) := by simp [String.toList_append]
  refine Item.output_panel (Markup.wellFormed_emphasis (by simp) (by decide) ?_ hmarkup) limit
  simp [hpath, houtput]

theorem loadedLine_output (hproject : '[' ∉ spec.projectName.toList) (limit : Nat) :
    ∃ out, (loadedLine spec).output limit = .ok out := by
  have hmarkup : ("  Loaded [bold]" ++ spec.projectName ++ "[/bold] with " ++
      toString spec.components.length ++ " component(s)").toList =
        "  Loaded ".toList ++ ("[bold]".toList ++ (spec.projectName.toList ++
          ("[/bold]".toList ++ (" with ".toList ++ ((toString spec.components.length).toList ++
            " component(s)".toList))))) := by simp [String.toList_append]
  refine Item.output_text (Markup.wellFormed_emphasis (by simp) hproject ?_ hmarkup) limit
  simp [bracket_not_mem_toDigits]

theorem Bracketless.planTable_output (h : Bracketless given path spec) {result : GenerationResult}
    (hproject : result.projectName = spec.projectName)
    (hinvocations : given.workspace.invocations spec given.layout = .value result.invocations)
    (hpaths : result.artifacts.map (·.path) = workspacePaths given.workspace ++
      (spec.components.flatMap (fun c => componentPaths c.name) ++ applicationPaths))
    (limit : Nat) : ∃ out, (planTable result).output limit = .ok out := by
  refine Item.output_table ?_ ?_ limit
  · refine Markup.wellFormed_of_not_mem ?_
    simp [hproject, h.project]
  · refine forall_mem_planRows (fun i hi n => ?_) (fun a ha => ?_)
    · refine ⟨Markup.wellFormed_of_not_mem ?_,
        Markup.wellFormed_of_not_mem (h.commandLine hinvocations i hi)⟩
      simp [bracket_not_mem_toDigits]
    · refine ⟨Markup.wellFormed_of_not_mem (h.artifactPath ?_),
        Markup.wellFormed_of_not_mem ?_⟩
      · rw [← hpaths]
        exact List.mem_map_of_mem ha
      · simp [bracket_not_mem_toDigits]

theorem exists_generated (given : Settings) (hne : spec.components ≠ []) :
    ∃ result,
      spec.generate given.layout given.workspace =
        Number.limited (.template Template.tooLong) (spec.isWritable given.layout) result ∧
      result.projectName = spec.projectName ∧
      given.workspace.invocations spec given.layout = .value result.invocations ∧
      result.artifacts.map (·.path) = workspacePaths given.workspace ++
        (spec.components.flatMap (fun c => componentPaths c.name) ++ applicationPaths) := by
  cases hinvocations : given.workspace.invocations spec given.layout with
  | faulty faults =>
      have hungenerated : Ungenerated given.loose spec (.generation (.invocation faults)) :=
        .unrunnable (layout_loose given) (by rw [Settings.workspace_loose, hinvocations])
      exact absurd hungenerated.of_loose.2 (by simp)
  | value invocations =>
      obtain ⟨own, hown⟩ := given.workspace.artifacts_total spec given.layout
      obtain ⟨p, hp⟩ := exists_rendered hne given.layout
      have hcomponents : spec.components = spec.components.head hne :: spec.components.tail :=
        (List.cons_head_tail hne).symm
      refine ⟨_, Specification.generate_eq hcomponents hinvocations hown hp, rfl, rfl, ?_⟩
      rw [List.map_append, paths_workspace hown, paths_files]

end

end Formwork.Run

namespace Formwork

open Run Console

/-- A dry run with permissive settings, for a specification with a component. Whatever the issues of
the specification are, the run succeeds exactly if its numbers are short enough to be written and
the banner, the line that tells what was loaded and the table with the plan are shown. Where only
one of these three is not, the run ends with the fault of the first that is not. All three are shown
whenever the texts in them have no bracket. -/
theorem Session.run_shown_iff (given : Settings) (hpermissive : given.strict = false) (site : Site)
    (path : Value) {s : Session} (hfresh : s.progress = {}) {spec : Specification}
    (hspec : loaded? site path s.tree = some spec) (hne : spec.components ≠ []) :
    ∃ result,
      spec.generate given.layout given.workspace =
        Number.limited (.template Template.tooLong) (spec.isWritable given.layout) result ∧
      let outcome := (s.run site given.loose path true).1
      let success := (s.run site given.loose path true).2.progress.success
      let fault? := firstFault? site.width (unescaped given.loose path spec result)
      let short := spec.isTellable (some given.layout) && spec.isWritable given.layout
      (outcome = .ok () ∧ success = true ↔ short = true ∧ fault? = none) ∧
      (short = true → ∀ f, fault? = some f → outcome = .error (.markup f) ∧ success = false) ∧
      (Bracketless given path spec → fault? = none) := by
  obtain ⟨result, hgenerate, hproject, hinvocations, hpaths⟩ := exists_generated given hne
  refine ⟨result, hgenerate, ?_⟩
  intro outcome success fault? short
  have htells : short = true → outcome = told site (unescaped given.loose path spec result) () ∧
      success = fault?.isNone := fun hshort => by
    obtain ⟨htold, hwritable⟩ := Bool.and_eq_true_iff.mp hshort
    rw [hwritable, Number.limited_true] at hgenerate
    obtain ⟨houtcome, hsuccess⟩ :=
      run_told_of_prints (prints_stages hpermissive hspec hne htold hgenerate)
    rw [hfresh] at hsuccess
    exact ⟨houtcome, hsuccess.trans (Bool.or_false _)⟩
  have hfails : short = true → ∀ f, fault? = some f →
      outcome = .error (.markup f) ∧ success = false := fun hshort f hf =>
    ⟨(htells hshort).1.trans (told_of_some () hf), by rw [(htells hshort).2, hf]; rfl⟩
  refine ⟨⟨fun h => ?_, fun h => ?_⟩, hfails, fun h => ?_⟩
  · obtain ⟨spec', result', hprepared⟩ := prepared_of_success hfresh h.2
    obtain rfl : spec' = spec := Option.some.inj (hprepared.loaded.symm.trans hspec)
    have hshort : short = true :=
      Bool.and_eq_true_iff.mpr ⟨hprepared.isTellable, hprepared.isWritable⟩
    refine ⟨hshort, ?_⟩
    cases hfault : fault? with
    | none => rfl
    | some f => exact absurd (h.1.symm.trans (hfails hshort f hfault).1) (by simp)
  · exact ⟨(htells h.1).1.trans (told_of_none () h.2), by rw [(htells h.1).2, h.2]; rfl⟩
  · refine firstFault?_eq_none ?_
    rw [unescaped, List.forall_mem_cons, List.forall_mem_cons, List.forall_mem_singleton]
    exact ⟨banner_output h.path h.output _, loadedLine_output h.project _,
      h.planTable_output hproject hinvocations hpaths _⟩

def unruly : Specification where
  projectName := "[/bold]x"
  components := [{ name := "A" }]

def unrulyText : List Char :=
  "\x7b\"projectName\":\"[/bold]x\",\"components\":[\x7b\"name\":\"A\"\x7d]\x7d".toList

/-- The line of an unruly name ends its dry run, although the specification passes the checks. -/
theorem Session.run_shown_iff_unruly :
    let run := ({ tree := single "m.json" unrulyText } : Session).run ⟨[], 80, fun _ => ""⟩
      ({ skeleton := .direct } : Settings).loose (.str "m.json") true
    run.1 = .error (.markup (.neverOpened "[/bold]" 23)) ∧ run.2.progress.success = false := by
  have hobject : Json.decode unrulyText = .ok (.map [(.text "projectName", .text "[/bold]x"),
      (.text "components", .list [.map [(.text "name", .text "A")]])]) := by rfl
  have hspec : loaded? ⟨[], 80, fun _ => ""⟩ (.str "m.json") (single "m.json" unrulyText) =
      some unruly :=
    loaded_single (by rfl) (by rfl) (by decide) <| by
      rw [SpecificationFile.ofText_of_mapping (SpecificationFile.decode_json hobject) (by rfl)]
      rfl
  obtain ⟨result, -, -, hfails, -⟩ := Session.run_shown_iff { skeleton := .direct } rfl
    ⟨[], 80, fun _ => ""⟩ (.str "m.json") (s := { tree := single "m.json" unrulyText }) rfl hspec
    (by decide)
  have hbanner : (banner ({ skeleton := .direct } : Settings).loose (.str "m.json")).fault? 80 =
      none := Item.fault?_eq_none (banner_output (by decide) (by decide) 80)
  have hmarkup : "  Loaded [bold]" ++ unruly.projectName ++ "[/bold] with " ++
      toString unruly.components.length ++ " component(s)" =
        "  Loaded [bold][/bold]x[/bold] with 1 component(s)" := by decide
  have hpieces : Markup.pieces "  Loaded [bold][/bold]x[/bold] with 1 component(s)".toList =
      [.plain "  Loaded ".toList, .tag 9 "bold".toList, .tag 15 ('/' :: "bold".toList),
        .plain ['x'], .tag 23 ('/' :: "bold".toList), .plain " with 1 component(s)".toList] := by
    decide +kernel
  have hbold := Markup.styleTag_emphasis
  have hrender : Markup.render "  Loaded [bold][/bold]x[/bold] with 1 component(s)" =
      .error (.neverOpened "[/bold]" 23) := by
    refine Markup.Fails.render ?_
    rw [hpieces]
    refine (Markup.Fails.opening hbold (fun start => ?_) 9).plain _
    exact ((Markup.fails_unopened hbold 23).plain _).closing hbold start 15
  have hline : (loadedLine unruly).fault? 80 = some (.neverOpened "[/bold]" 23) := by
    rw [loadedLine, hmarkup]
    exact Item.fault?_text_of_render hrender 80
  have hshort : (unruly.isTellable (some ({ skeleton := .direct } : Settings).layout) &&
      unruly.isWritable ({ skeleton := .direct } : Settings).layout) = true :=
    Bool.and_eq_true_iff.mpr ⟨Number.isShort_of_lt (by decide), Number.isShort_of_lt (by decide)⟩
  refine hfails hshort _ ?_
  rw [unescaped, firstFault?, List.findSome?_cons, hbanner, List.findSome?_cons, hline]

end Formwork
