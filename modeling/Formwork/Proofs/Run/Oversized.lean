import Formwork.Proofs.Run.Plan
import Formwork.Proofs.Yaml.Words

/-!
A number that is too long to be written. A permissive run tells the issues of a specification, and
no issue holds the default of a field. So a default passes the checks whatever its length is, and
the run stops when it is to be written.
-/

namespace Formwork.Run

open Console

section

variable {α : Type} {site : Site} {t : FileTree} {path : Value} {spec : Specification}
  {given : Settings}

theorem Prints.completed {m : RunM α} {items : List Item} {a : α} {c : α → Completion}
    (hprints : Prints site t m items a)
    (hshown : ∀ item ∈ items, ∃ out, item.output site.width = .ok out) (hc : Completes m c)
    {s : Session} (hs : s.tree = t) :
    ∃ s', runIn m s = (.ok a, s') ∧ s'.tree = t ∧ s'.progress = (c a).note s.progress := by
  obtain ⟨hsame, houtcome⟩ := hprints s hs
  rw [told_of_none a (firstFault?_eq_none hshown)] at houtcome
  rcases hc s with ⟨a', s', hrun, hprogress⟩ | ⟨e, s', hrun, -⟩
  · rw [hrun] at houtcome hsame
    obtain rfl : a' = a := Except.ok.inj houtcome
    exact ⟨s', hrun, hsame.tree.trans hs, hprogress⟩
  · rw [hrun] at houtcome
    exact absurd houtcome (by simp)

/-- The stage of the generation fails on what is too long to be written, and notes nothing. -/
theorem generate_tooLong (site : Site) (hvalid : validated? given.loose spec = some ())
    (hlong : spec.isWritable given.layout = false) (s : Session) :
    ∃ s', runIn (generate site given.loose spec) s =
        (.error (.generation (.template Template.tooLong)), s') ∧ s'.progress = s.progress := by
  obtain ⟨result, s', -, -, -, hresult⟩ | ⟨e, s', hrun, hprogress, -⟩ :=
    (completes_generate site given.loose spec).computed (computes_generate site given.loose spec) s
  · exact absurd ((isWritable_of_generated hresult).symm.trans hlong) (by simp)
  · obtain ⟨-, rfl⟩ := (generate_error hvalid hrun).of_loose
    exact ⟨s', hrun, hprogress⟩

/-- The checks of a permissive run let numbers pass that are too long to be written, and the run
does not come back. -/
theorem run_oversized (given : Settings) (hpermissive : given.strict = false)
    (hspec : loaded? site path t = some spec) (hne : spec.components ≠ [])
    (htold : spec.isTellable (some given.layout) = true)
    (hlong : spec.isWritable given.layout = false) (hpath : '[' ∉ path.display.toList)
    (houtput : '[' ∉ given.outputDirectory.text.toList)
    (hproject : '[' ∉ spec.projectName.toList) (dry : Bool) {s : Session} (hs : s.tree = t)
    (hfresh : s.progress = {}) :
    (s.run site given.loose path dry).1 = .error (.generation (.template Template.tooLong)) ∧
      (s.run site given.loose path dry).2.progress.stages = [.load, .validate] := by
  obtain ⟨out, hbanner⟩ := banner_output hpath houtput site.width
  obtain ⟨s₁, hload, ht₁, hp₁⟩ := (prints_load hspec).completed
    (List.forall_mem_singleton.mpr (loadedLine_output hproject _)) (completes_load site path)
    (s := { s with console := s.console ++ out }) hs
  obtain ⟨s₂, hvalidate, -, hp₂⟩ := (prints_validate hpermissive hne htold).completed
    (List.forall_mem_nil _) (completes_validate site given.loose spec) ht₁
  obtain ⟨issues, hissues⟩ :=
    Check.ok_iff_harmless.mpr ⟨htold, Check.harmless_issuesOf_false.mpr hne⟩
  have hvalid : validated? given.loose spec = some () := by
    have hmode : given.loose.isStrict = false := hpermissive
    show (checkSpecification spec (some given.layout) given.loose.isStrict).toOption.map _ = _
    rw [hmode, hissues]
    rfl
  obtain ⟨s₃, hgenerate, hp₃⟩ := generate_tooLong site hvalid hlong s₂
  have hstages : runIn (stagesWith Writer.writeAll site given.loose path dry)
      { s with console := s.console ++ out } =
        (.error (.generation (.template Template.tooLong)), s₃) :=
    runIn_bind_error
      ((runIn_bind_ok hload).trans ((runIn_bind_ok hvalidate).trans hgenerate))
  have hsay : runIn (say site (banner given.loose path)) s =
      (.ok (), { s with console := s.console ++ out }) := by
    rw [say, hbanner]
    rfl
  rw [run_eq_runWith, runWith, runIn_bind_ok hsay, runIn_tryCatch_error hstages,
    runIn_recover_unexpected site rfl]
  refine ⟨rfl, ?_⟩
  rw [hp₃, hp₂, hp₁, hfresh]
  rfl

end

/-! ### A specification with a long default -/

/-- A word that stands for an integer of more than 4300 digits. -/
def longWord : List Char := '0' :: 'x' :: List.replicate 3600 'f'

def longBundle : ValidationBundle where
  defaultValue := some (.number (.int (Nat.pow 16 3600 - 1 : Nat)))

def longDefault : Specification where
  projectName := "p"
  components := [{ name := "a", fields := [{ name := "b", validations := some longBundle }] }]

def longDefaultText : List Char :=
  Yaml.integerNamed longWord (" projectName: p, components: [\x7bname: a, fields: " ++
    "[\x7bname: b, validations: \x7bdefaultValue: *n\x7d\x7d]\x7d]\x7d").toList

theorem isWritable_longBundle : longBundle.isWritable = false := by
  have hlong : Number.isShort (Nat.pow 16 3600 - 1 : Nat) = false := by decide +kernel
  simp only [longBundle, ValidationBundle.isWritable, DefaultValue.isWritable, Number.isWritable,
    Option.all_some, hlong, Bool.and_false]

theorem decode_longDefault :
    (Yaml.decode longDefaultText).map (·.map fun d =>
      (SpecificationFile.accept (.ofString "m.yaml") (SpecificationFile.topLevel d)).toOption) =
        .ok (some (some longDefault)) := by
  have hword : longWord.all Yaml.isWordChar = true := by decide +kernel
  rw [Yaml.decode, longDefaultText,
    Yaml.tokenize_integerNamed _ (List.all_eq_true.mp hword) (by decide +kernel)
      (by decide +kernel)]
  decide +kernel

theorem loaded_longDefault :
    loaded? ⟨[], 80, fun _ => ""⟩ (.str "m.yaml") (single "m.yaml" longDefaultText) =
      some longDefault := by
  have hread (text : List Char) : (single "m.yaml" text).read [] (.ofString "m.yaml") =
      .ok (Text.Utf8.encode text) := rfl
  have hreturn : '\r' ∉ longDefaultText := by decide +kernel
  have hformat : SpecificationFile.formats.lookup
      (Text.lower (Path.ofString "m.yaml").suffix) = some .yaml := by rfl
  refine loaded_single hformat (hread longDefaultText) hreturn ?_
  have hdecoded := decode_longDefault
  cases hdecode : Yaml.decode longDefaultText with
  | error e =>
      rw [hdecode] at hdecoded
      exact absurd hdecoded (by simp [Except.map])
  | ok found =>
      rw [hdecode] at hdecoded
      obtain ⟨d, rfl, haccept⟩ := Option.map_eq_some_iff.mp (Except.ok.inj hdecoded)
      exact SpecificationFile.ofText_of_accept hdecode haccept

end Formwork.Run

namespace Formwork

open Run

/-- A run of a specification with a long default passes the checks, and is not generated. -/
theorem Session.run_not_generated :
    ∃ (given : Settings) (tree : FileTree),
      let after := (({ tree } : Session).run ⟨[], 80, fun _ => ""⟩ given.loose (.str "m.yaml")
        true).2
      .validate ∈ after.progress.stages ∧ .generate ∉ after.progress.stages := by
  let given : Settings := { skeleton := .direct }
  have hstopped (stages : List Stage) (h : stages = [.load, .validate]) :
      .validate ∈ stages ∧ .generate ∉ stages := by
    subst h
    decide
  have htold : longDefault.isTellable (some given.layout) = true :=
    Number.isShort_of_lt (by decide)
  have hlong : longDefault.isWritable given.layout = false := by
    simp [longDefault, Specification.isWritable, Component.isWritable, Field.isWritable,
      isWritable_longBundle]
  obtain ⟨-, hstages⟩ := run_oversized given rfl loaded_longDefault
    (List.cons_ne_nil _ _) htold hlong (by decide) (by decide) (by decide) true
    (s := { tree := single "m.yaml" longDefaultText }) rfl rfl
  exact ⟨given, single "m.yaml" longDefaultText, hstopped _ hstages⟩

end Formwork
