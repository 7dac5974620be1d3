import Formwork.Proofs.FileTree.Paths
import Formwork.Proofs.Generation.History
import Formwork.Template.Library
import Mathlib.Data.List.Nodup

/-!
What can stop a generation. A generation that makes its workspace in one of the known ways has a
result exactly if there is a component and no number is too long to be written. Nothing else can
stop it: every template is found, and rendered, since the scope that is built for it has all that it
looks at, in the branches that are taken and in those that are not; every control has its template;
every state follows the one before it; and the grid is never divided by zero.
-/

namespace Formwork

/-- The known ways to make a workspace, the first with a package that is a text. -/
inductive Skeleton.IsBuiltIn : Skeleton → Prop
  | commands (package : String) (installs : Bool) : IsBuiltIn (.commands (.value package) installs)
  | files : IsBuiltIn .files
  | none : IsBuiltIn .none

theorem Skeleton.IsBuiltIn.ne_faulty {s : Skeleton} (h : s.IsBuiltIn)
    (faults : List Schema.Fault) (installs : Bool) : s ≠ .commands (.faulty faults) installs := by
  cases h <;> simp

/-! ### Columns -/

/-- Division, for divisors other than zero only. -/
def dividedBy? (n d : Int) : Option Int := if d = 0 then none else some (n / d)

/-- The text of the class around each field, unless a number of columns cannot be divided by. -/
def Layout.columnText? (l : Layout) : Option String :=
  if l.useBootstrap then
    if l.columns ≤ 0 then some "col-md"
    else (dividedBy? gridColumns l.columns).map fun width => "col-md-" ++ toString width
  else some ("custom-col-" ++ toString l.columns)

theorem Layout.columnText?_eq (l : Layout) : l.columnText? = some l.columnText := by
  rw [columnText?, columnText]
  split
  · split
    · rfl
    · have hne : l.columns ≠ 0 := by omega
      rw [dividedBy?, if_neg hne, Option.map_some]
  · rfl

/-! ### Names of templates -/

namespace Template

def leadsDown (name : String) : Bool :=
  (Path.splitSlashes name.toList).all fun part => part ≠ [] ∧ part ≠ ['.'] ∧ part ≠ ['.', '.']

theorem namePath?_of_leadsDown {name : String} (h : leadsDown name = true) :
    namePath? name = some ((Path.splitSlashes name.toList).map String.ofList) := by
  have hparts : ∀ part ∈ Path.splitSlashes name.toList,
      part ≠ [] ∧ part ≠ ['.'] ∧ part ≠ ['.', '.'] := by
    simpa [leadsDown] using h
  have hpart : ∀ (part cs : List Char), part ≠ cs → String.ofList part ≠ String.ofList cs :=
    fun part cs hne heq => hne (String.ofList_injective heq)
  have hup : ((Path.splitSlashes name.toList).map String.ofList).contains ".." = false := by
    rw [← Bool.not_eq_true, List.contains_iff_mem]
    intro hmem
    obtain ⟨part, hmem, heq⟩ := List.mem_map.mp hmem
    exact hpart part ['.', '.'] (hparts part hmem).2.2 heq
  rw [namePath?, hup, if_neg Bool.false_ne_true, List.filter_eq_self.mpr]
  intro piece hpiece
  obtain ⟨part, hmem, rfl⟩ := List.mem_map.mp hpiece
  obtain ⟨hempty, hdot, -⟩ := hparts part hmem
  exact decide_eq_true ⟨hpart part [] hempty, hpart part ['.'] hdot⟩

theorem eq_of_namePath? {a b : String} (ha : leadsDown a = true) (hb : leadsDown b = true)
    (h : namePath? a = namePath? b) : a = b := by
  rw [namePath?_of_leadsDown ha, namePath?_of_leadsDown hb, Option.some.injEq] at h
  have hparts := List.map_injective_iff.mpr (fun _ _ heq => String.ofList_injective heq) h
  rw [← String.toList_inj, ← Path.intercalate_splitSlashes a.toList, hparts,
    Path.intercalate_splitSlashes]

theorem leadsDown_standard : ∀ t ∈ standard, leadsDown t.name = true := by
  rw [← List.all_eq_true]
  decide +kernel

theorem nodup_names_standard : (standard.map (·.name)).Nodup := by decide +kernel

theorem named_of_mem {t : Template} (ht : t ∈ standard) : named standard t.name = .ok t := by
  have hpath := namePath?_of_leadsDown (leadsDown_standard t ht)
  obtain ⟨u, hu⟩ : ∃ u,
      (standard.find? fun u => namePath? u.name == namePath? t.name) = some u := by
    rw [← Option.isSome_iff_exists, List.find?_isSome]
    exact ⟨t, ht, beq_self_eq_true _⟩
  have hmem : u ∈ standard := List.mem_of_find?_eq_some hu
  have hname : u.name = t.name := eq_of_namePath? (leadsDown_standard u hmem)
    (leadsDown_standard t ht) (by simpa using List.find?_some hu)
  -- the paths of two standard templates differ, so the first that is found is the one meant
  have hsame : u = t := List.inj_on_of_nodup_map nodup_names_standard hmem ht hname
  rw [named, hpath]
  rw [hpath, hsame] at hu
  simp only [hu]

end Template

theorem FieldKind.control_mem (k : FieldKind) : k.control.template ∈ Template.standard := by
  cases k <;> simp [control, Template.standard]

/-! ### Templates -/

/-- The error blocks have a text for every field, whether the control of the field shows errors or
not. -/
theorem Field.errors_total (f : Field) (compiled : CompiledField) :
    ∃ text, Template.Fields.errorsAlone.render (f.markupScope compiled) = .ok text :=
  Template.render_of_closed Field.signature (f.markupScope_fits compiled) rfl

/-- Everything that is rendered for an application has a text: the markup of each field, for any
constraints, with the error blocks in it; the three files of each component, if the numbers in them
can be written; the routing module and the module of the application; the shell with menu and
footer, and the style sheets; and the files of a workspace. -/
structure Specification.Rendered (spec : Specification) (layout : Layout) : Prop where
  field : ∀ (f : Field) (compiled : CompiledField), ∃ text, f.markupWith compiled = .ok text
  errors : ∀ (f : Field) (compiled : CompiledField),
    ∃ text, Template.Fields.errorsAlone.render (f.markupScope compiled) = .ok text
  module : ∀ c : Component,
    ∃ text, c.module = Number.limited Template.tooLong c.isWritable text
  markup : ∀ c : Component,
    ∃ text, c.markup layout = Number.limited Template.tooLong layout.isWritable text
  style : ∃ text,
    Component.style layout = Number.limited Template.tooLong layout.isWritable text
  routing : ∃ text, Route.module spec.components = .ok text
  application : ∃ text, Generator.applicationModule spec.components = .ok text
  menu : ∃ text, AppShell.menu spec.components spec.menuType layout = .ok text
  footer : ∃ text, AppShell.footer spec.footerContent layout = .ok text
  shell : ∃ text,
    AppShell.markup spec.components spec.menuType spec.footerContent layout = .ok text
  shellStyle : ∃ text, AppShell.style spec.menuType layout = .ok text
  globalStyle : ∃ text, Generator.globalStyle layout = .ok text
  workspace : ∃ files, Skeleton.workspace spec.projectName layout = .ok files

theorem Specification.rendered {spec : Specification} (hne : spec.components ≠ [])
    (layout : Layout) : spec.Rendered layout where
  field := Field.markupWith_total
  errors := Field.errors_total
  module c := by
    obtain ⟨methods, hmodule⟩ := Application.componentForm_eq c
    exact ⟨_, hmodule⟩
  markup c := c.markup_limited layout
  style := ⟨_, Application.style_eq layout⟩
  routing := by
    obtain ⟨first, rest, hcomponents⟩ := List.exists_cons_of_ne_nil hne
    rw [hcomponents, Application.routingModule_eq]
    exact ⟨_, rfl⟩
  application := ⟨_, Application.rootModule_eq spec.components⟩
  menu := ⟨_, Application.menu_eq hne spec.menuType layout⟩
  footer := AppShell.footer_total spec.footerContent layout
  shell := by
    obtain ⟨footer, hshell⟩ := Application.shell_eq hne spec.menuType spec.footerContent layout
    exact ⟨_, hshell⟩
  shellStyle := AppShell.style_total spec.menuType layout
  globalStyle := Generator.globalStyle_total layout
  workspace := by
    obtain ⟨index, main, root, hfiles⟩ := Skeleton.workspace_total spec.projectName layout
    exact ⟨_, hfiles⟩

namespace Generator

theorem generate_cases {g : Generator} (h : g.skeleton.IsBuiltIn) :
    (g.spec.components = [] ∧ g.generate = (g.reset, .error
      (.specification (.because "specification must declare at least one component")))) ∨
    (g.spec.components ≠ [] ∧ g.spec.isWritable g.layout = false ∧
      g.generate.2 = .error (.template Template.tooLong)) ∨
    (g.spec.components ≠ [] ∧ g.spec.isWritable g.layout = true ∧
      ∃ result, result.states = GenerationState.all ∧
        g.generate = ({ g with state := .done, history := GenerationState.all }, .ok result)) := by
  have houtcome := g.generate_outcome
  generalize g.generate = outcome at houtcome ⊢
  cases houtcome with
  | refused hempty => exact .inl ⟨hempty, rfl⟩
  | unrunnable _ hfaulty =>
      -- only a package that is no text makes the commands faulty
      obtain ⟨faults, installs, hskeleton⟩ := Skeleton.eq_of_faulty hfaulty
      exact absurd hskeleton (h.ne_faulty faults installs)
  | oversized hne _ hlong => exact .inr (.inl ⟨hne, hlong, rfl⟩)
  | finished hne _ hwritable => exact .inr (.inr ⟨hne, hwritable, _, rfl, rfl⟩)

section

variable {g : Generator}

theorem exists_generate_ok_iff (h : g.skeleton.IsBuiltIn) :
    (∃ result, g.generate.2 = .ok result) ↔
      g.spec.components ≠ [] ∧ g.spec.isWritable g.layout = true := by
  obtain ⟨hempty, heq⟩ | ⟨-, hlong, heq⟩ | ⟨hne, hwritable, result, -, heq⟩ := generate_cases h
  · simp [heq, hempty]
  · simp [heq, hlong]
  · exact iff_of_true ⟨result, by rw [heq]⟩ ⟨hne, hwritable⟩

theorem eq_of_generate_error (h : g.skeleton.IsBuiltIn) {e : GenerationError}
    (herror : g.generate.2 = .error e) :
    (g.spec.components = [] ∧ g.generate.1 = g.reset ∧
      e = .specification (.because "specification must declare at least one component")) ∨
    (g.spec.components ≠ [] ∧ g.spec.isWritable g.layout = false ∧
      e = .template Template.tooLong) := by
  obtain ⟨hempty, heq⟩ | ⟨hne, hlong, heq⟩ | ⟨-, -, result, -, heq⟩ := generate_cases h
  · rw [heq] at herror ⊢
    exact .inl ⟨hempty, rfl, (Except.error.inj herror).symm⟩
  · exact .inr ⟨hne, hlong, Except.error.inj (herror.symm.trans heq)⟩
  · rw [heq] at herror
    exact absurd herror (by simp)

theorem states_of_generate_ok (h : g.skeleton.IsBuiltIn) {result : GenerationResult}
    (hok : g.generate.2 = .ok result) :
    g.generate.1.state = .done ∧ result.states = GenerationState.all := by
  obtain ⟨-, heq⟩ | ⟨-, -, heq⟩ | ⟨-, -, result', hstates, heq⟩ := generate_cases h
  · rw [heq] at hok
    exact absurd hok (by simp)
  · exact absurd (heq.symm.trans hok) (by simp)
  · rw [heq] at hok ⊢
    exact ⟨rfl, Except.ok.inj hok ▸ hstates⟩

end

/-- A generation has a result exactly if there is a component and no number in what is generated is
too long to be written. Without a component it is refused for that, with nothing made, and there is
no error besides these two: with a component everything is rendered that the numbers allow, and all
states are passed in their order. Every control has its template, every template is found under its
name, and no column count of zero is divided by. -/
theorem generate_ok_iff {g : Generator} (h : g.skeleton.IsBuiltIn) :
    ((∃ result, g.generate.2 = .ok result) ↔
      g.spec.components ≠ [] ∧ g.spec.isWritable g.layout = true) ∧
    (∀ e, g.generate.2 = .error e →
      (g.spec.components = [] ∧ g.generate.1 = g.reset ∧
        e = .specification (.because "specification must declare at least one component")) ∨
      (g.spec.components ≠ [] ∧ g.spec.isWritable g.layout = false ∧
        e = .template Template.tooLong)) ∧
    (∀ result, g.generate.2 = .ok result →
      g.generate.1.state = .done ∧ result.states = GenerationState.all) ∧
    (g.spec.components ≠ [] → g.spec.Rendered g.layout) ∧
    (∀ f : Field, f.control.template ∈ Template.standard) ∧
    (∀ t ∈ Template.standard, Template.named Template.standard t.name = .ok t) ∧
    g.layout.columnText? = some g.layout.columnText :=
  ⟨exists_generate_ok_iff h, fun _ => eq_of_generate_error h, fun _ => states_of_generate_ok h,
    fun hne => g.spec.rendered hne g.layout, fun f => f.kind.control_mem,
    fun _ => Template.named_of_mem, g.layout.columnText?_eq⟩

/-- A form on a grid of no columns, whose workspace is made by commands. -/
def noColumns : Generator where
  spec :=
    { projectName := "demo"
      components := [{ name := "Signup", fields := [{ name := "mail", required := true }] }] }
  layout := { useBootstrap := true, columns := 0 }

/-- A grid of no columns is no obstacle. -/
theorem generate_ok_iff_noColumns :
    noColumns.skeleton.IsBuiltIn ∧ noColumns.spec.components ≠ [] ∧
      (∃ result, noColumns.generate.2 = .ok result) ∧
      noColumns.spec.Rendered noColumns.layout := by
  have hbuiltIn : noColumns.skeleton.IsBuiltIn := .commands Skeleton.standardPackage true
  have hne : noColumns.spec.components ≠ [] := List.cons_ne_nil _ _
  obtain ⟨hiff, -, -, hrendered, -⟩ := generate_ok_iff hbuiltIn
  exact ⟨hbuiltIn, hne, hiff.mpr ⟨hne, rfl⟩, hrendered hne⟩

/-- The specification has a component, and its field has a default that is too long. -/
theorem no_result_of_long_default :
    ∃ g : Generator, g.skeleton.IsBuiltIn ∧ g.spec.components ≠ [] ∧
      ∀ result, g.generate.2 ≠ .ok result := by
  let bundle : ValidationBundle := { defaultValue := some (.number (.int Number.firstLong)) }
  let g : Generator :=
    { spec :=
        { projectName := "demo"
          components :=
            [{ name := "Signup", fields := [{ name := "age", validations := some bundle }] }] }
      skeleton := .files }
  refine ⟨g, .files, List.cons_ne_nil _ _, fun result hok => ?_⟩
  have hwritable := ((exists_generate_ok_iff (g := g) .files).mp ⟨result, hok⟩).2
  have hlong : bundle.isWritable = false := by
    simp [bundle, ValidationBundle.isWritable, DefaultValue.isWritable, Number.isWritable]
  simp [g, Specification.isWritable, Component.isWritable, Field.isWritable, hlong] at hwritable

end Generator

end Formwork
