import Formwork.Proofs.Run.Coherence

/-!
What a dry run tells. Headings, issues and numbers can always be shown, for issues are escaped. The
path and the output directory, the name of the project and the rows of the plan are printed as they
are. So the stages are gone through with the things that may not be shown: a dry run of what passes
the checks succeeds if all of them are shown, and otherwise ends with the fault of the first that is
not.
-/

namespace Formwork.Run

open Console

variable {α β : Type}

/-! ### Steps and what they may fail to show -/

/-- What steps come to that fail only on things that are not shown. -/
def told (site : Site) (items : List Item) (a : α) : Except RunError α :=
  match firstFault? site.width items with
  | none => .ok a
  | some f => .error (.markup f)

theorem told_of_none {site : Site} {items : List Item} (a : α)
    (h : firstFault? site.width items = none) : told site items a = .ok a := by
  rw [told, h]

theorem told_of_some {site : Site} {items : List Item} (a : α) {f : RenderError}
    (h : firstFault? site.width items = some f) : told site items a = .error (.markup f) := by
  rw [told, h]

/-- Steps on a tree that only read, and that come to a value if some things are shown, and to the
fault of the first that is not otherwise. -/
def Prints (site : Site) (t : FileTree) (m : RunM α) (items : List Item) (a : α) : Prop :=
  ∀ s, s.tree = t → Unchanged s (runIn m s).2 ∧ (runIn m s).1 = told site items a

section

variable {site : Site} {t : FileTree}

theorem prints_pure (a : α) : Prints site t (pure a) [] a := fun s _ => ⟨.refl s, rfl⟩

theorem prints_note {change : Progress → Progress} (h : ∀ p, (change p).success = p.success) :
    Prints site t (note change) [] () :=
  fun s _ => ⟨⟨rfl, rfl, rfl, h s.progress⟩, rfl⟩

theorem prints_complete (stage : Stage) : Prints site t (complete stage) [] () :=
  prints_note fun _ => rfl

theorem prints_get {f : Session → RunM α} {items : List Item} {a : α}
    (hf : ∀ s, s.tree = t → Prints site t (f s) items a) : Prints site t (get >>= f) items a :=
  fun s hs => hf s hs s hs

theorem prints_say (item : Item) : Prints site t (say site item) [item] () := by
  intro s _
  refine ⟨(computes_say site item s).1, ?_⟩
  rw [say, told, firstFault?, List.findSome?_singleton, Item.fault?]
  cases item.output site.width <;> rfl

theorem Prints.bind {m : RunM α} {f : α → RunM β} {items items' : List Item} {a : α} {b : β}
    (hm : Prints site t m items a) (hf : Prints site t (f a) items' b) :
    Prints site t (m >>= f) (items ++ items') b := by
  intro s hs
  obtain ⟨hsame, houtcome⟩ := hm s hs
  rw [told, firstFault?_append]
  cases hrun : runIn m s with
  | mk outcome s₁ =>
      rw [hrun] at hsame houtcome
      cases hfault : firstFault? site.width items with
      | some fault =>
          obtain rfl : outcome = _ := houtcome.trans (told_of_some a hfault)
          rw [runIn_bind_error hrun]
          exact ⟨hsame, rfl⟩
      | none =>
          obtain rfl : outcome = _ := houtcome.trans (told_of_none a hfault)
          obtain ⟨hsame', houtcome'⟩ := hf s₁ (hsame.tree.trans hs)
          rw [runIn_bind_ok hrun]
          exact ⟨hsame.trans hsame', houtcome'⟩

theorem prints_sayAll (items : List Item) : Prints site t (sayAll site items) items () := by
  induction items with
  | nil => exact prints_pure ()
  | cons item items ih => exact (prints_say item).bind ih

theorem Prints.of_shown {m : RunM α} {items : List Item} {a : α} (hm : Prints site t m items a)
    (hshown : ∀ item ∈ items, ∃ out, item.output site.width = .ok out) : Prints site t m [] a := by
  intro s hs
  obtain ⟨hsame, houtcome⟩ := hm s hs
  exact ⟨hsame, houtcome.trans (told_of_none a (firstFault?_eq_none hshown))⟩

theorem prints_shown {markup : String} (h : Markup.WellFormed markup) :
    Prints site t (say site (.text markup)) [] () :=
  (prints_say _).of_shown (by simpa using Item.output_text h site.width)

theorem prints_heading (stage : Stage) : Prints site t (sayAll site (Report.stage stage)) [] () :=
  (prints_sayAll _).of_shown (Report.stage_output stage site.width)

end

/-! ### The stages -/

def loadedLine (spec : Specification) : Item :=
  .text ("  Loaded [bold]" ++ spec.projectName ++ "[/bold] with " ++
    toString spec.components.length ++ " component(s)")

def planTable (result : GenerationResult) : Item :=
  .table ⟨.str ("Plan for " ++ result.projectName), planRows result⟩

section

variable {site : Site} {t : FileTree} {path : Value} {spec : Specification} {given : Settings}

theorem prints_load (h : loaded? site path t = some spec) :
    Prints site t (load site path) [loadedLine spec] spec := by
  obtain ⟨place, hplace, hload⟩ := Option.bind_eq_some_iff.mp h
  refine (prints_heading .load).bind ?_
  cases hpath : path.asPath with
  | error m =>
      rw [hpath] at hplace
      exact absurd hplace (by simp [Except.toOption])
  | ok text =>
      rw [hpath] at hplace
      obtain rfl : Path.ofString text = place := Option.some.inj hplace
      rw [pathOf, hpath, pure_bind]
      refine prints_get fun s hs => ?_
      rw [hs]
      cases hspec : SpecificationFile.load site.account t site.current (Path.ofString text) with
      | error e =>
          rw [hspec] at hload
          exact absurd hload (by simp [Except.toOption])
      | ok spec' =>
          rw [hspec] at hload
          obtain rfl : spec' = spec := Option.some.inj hload
          exact (prints_say _).bind ((prints_note (by intro p; rfl)).bind
            ((prints_complete .load).bind (prints_pure spec')))

theorem prints_issues (issues : List Issue) :
    Prints site t (sayAll site (issues.map fun i =>
      Report.warning ("  " ++ Markup.escape i.text))) [] () := by
  refine (prints_sayAll _).of_shown (List.forall_mem_map.mpr fun i _ => ?_)
  exact colored_escape_output "yellow" "  " (by decide) (by decide) i.text site.width

theorem prints_validate (hpermissive : given.strict = false) (hne : spec.components ≠ [])
    (htold : spec.isTellable (some given.layout) = true) :
    Prints site t (validate site given.loose spec) [] () := by
  have hmode : given.loose.isStrict = false := hpermissive
  have hlayout : layoutOf given.loose = pure given.layout := rfl
  obtain ⟨issues, hissues⟩ :=
    Check.ok_iff_harmless.mpr ⟨htold, Check.harmless_issuesOf_false.mpr hne⟩
  have hnotes : Prints site t (note (fun p => { p with warnings := issues.map Issue.text }) >>=
      fun _ => complete .validate) [] () :=
    (prints_note (by intro p; rfl)).bind (prints_complete .validate)
  refine (prints_heading .validate).bind ?_
  rw [hlayout, pure_bind, hmode, hissues]
  refine (prints_issues (issues.filter (isTold false))).bind ?_
  show Prints site t (if issues.isEmpty then _ else _) [] ()
  split
  · exact (prints_shown Markup.wellFormed_noIssues).bind hnotes
  · exact hnotes

theorem prints_generate {result : GenerationResult}
    (hresult : spec.generate given.layout given.workspace = .ok result) :
    Prints site t (generate site given.loose spec) [] result := by
  have hlayout : layoutOf given.loose = pure given.layout := rfl
  refine (prints_heading .generate).bind ?_
  rw [hlayout, pure_bind, Settings.workspace_loose, hresult]
  refine (prints_shown (Markup.wellFormed_of_not_mem ?_)).bind
    ((prints_note (by intro p; rfl)).bind ((prints_complete .generate).bind (prints_pure result)))
  simp [String.toList_append, bracket_not_mem_toDigits]

theorem prints_reportPlan (result : GenerationResult) :
    Prints site t (reportPlan site result) [planTable result] () := by
  have hwarning := colored_escape_output "yellow"
    "Dry run: skipping command execution and file writes." (by decide) (by decide) "" site.width
  refine ((prints_say _).of_shown (List.forall_mem_singleton.mpr hwarning)).bind ?_
  exact (prints_say (planTable result)).bind
    (((prints_say .blank).of_shown (by simpa using Item.output_blank site.width)).bind
      (prints_pure ()))

/-! ### The run -/

/-- What a dry run prints as it is. The rest is made of fixed words and numbers, or escaped. -/
def unescaped (settings : LooseSettings) (path : Value) (spec : Specification)
    (result : GenerationResult) : List Item :=
  [banner settings path, loadedLine spec, planTable result]

theorem prints_stages {result : GenerationResult} (hpermissive : given.strict = false)
    (hspec : loaded? site path t = some spec) (hne : spec.components ≠ [])
    (htold : spec.isTellable (some given.layout) = true)
    (hresult : spec.generate given.layout given.workspace = .ok result) :
    Prints site t (prepare site given.loose path >>= reportPlan site)
      [loadedLine spec, planTable result] () := by
  have hprepare : Prints site t (prepare site given.loose path) [loadedLine spec] result :=
    (prints_load hspec).bind
      ((prints_validate hpermissive hne htold).bind (prints_generate hresult))
  exact hprepare.bind (prints_reportPlan result)

/-- The stages of a dry run note a success behind them. Their failure is none that is noted. -/
theorem stages_told {settings : LooseSettings} {items : List Item}
    (h : Prints site t (prepare site settings path >>= reportPlan site) items ()) {s : Session}
    (hs : s.tree = t) :
    ∃ s', runIn (tryCatch (stagesWith Writer.writeAll site settings path true) (recover site)) s =
        (told site items (), s') ∧
      s'.progress.success = ((firstFault? site.width items).isNone || s.progress.success) := by
  have hstages : stagesWith Writer.writeAll site settings path true =
      (prepare site settings path >>= reportPlan site) >>= fun _ =>
        note fun p => { p with success := true } := (bind_assoc _ _ _).symm
  obtain ⟨hsame, houtcome⟩ := h s hs
  rw [hstages]
  cases hrun : runIn (prepare site settings path >>= reportPlan site) s with
  | mk outcome s₁ =>
      rw [hrun] at hsame houtcome
      cases hfault : firstFault? site.width items with
      | some f =>
          obtain rfl : outcome = _ := houtcome.trans (told_of_some () hfault)
          rw [runIn_tryCatch_error (runIn_bind_error hrun), runIn_recover_unexpected site rfl,
            told_of_some () hfault]
          exact ⟨s₁, rfl, hsame.success⟩
      | none =>
          obtain rfl : outcome = _ := houtcome.trans (told_of_none () hfault)
          rw [runIn_tryCatch_ok ((runIn_bind_ok hrun).trans (runIn_note _ s₁)),
            told_of_none () hfault]
          exact ⟨_, rfl, rfl⟩

theorem run_told_of_prints {settings : LooseSettings} {items : List Item} {s : Session}
    (h : Prints site s.tree (prepare site settings path >>= reportPlan site) items ()) :
    (s.run site settings path true).1 = told site (banner settings path :: items) () ∧
      (s.run site settings path true).2.progress.success =
        ((firstFault? site.width (banner settings path :: items)).isNone ||
          s.progress.success) := by
  have hitems : firstFault? site.width (banner settings path :: items) =
      (firstFault? site.width [banner settings path]).or (firstFault? site.width items) :=
    firstFault?_append site.width [banner settings path] items
  have hprints : Prints site s.tree (say site (banner settings path)) [banner settings path] () :=
    prints_say _
  obtain ⟨hsame, hbanner⟩ := hprints s rfl
  rw [run_eq_runWith, runWith, told, hitems]
  cases hsay : runIn (say site (banner settings path)) s with
  | mk outcome s₁ =>
      rw [hsay] at hsame hbanner
      cases hfault : firstFault? site.width [banner settings path] with
      | some f =>
          obtain rfl : outcome = _ := hbanner.trans (told_of_some () hfault)
          rw [runIn_bind_error hsay]
          exact ⟨rfl, hsame.success⟩
      | none =>
          obtain rfl : outcome = _ := hbanner.trans (told_of_none () hfault)
          obtain ⟨s₂, hrun, hsuccess⟩ := stages_told h hsame.tree
          rw [runIn_bind_ok hsay, hrun]
          exact ⟨rfl, hsuccess.trans (by rw [hsame.success]; rfl)⟩

end

end Formwork.Run
