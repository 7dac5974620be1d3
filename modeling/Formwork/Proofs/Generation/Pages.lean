import Formwork.Generator
import Formwork.Proofs.Template.Shape

/-!
The pages of an application are rendered. For every template there is a signature that the scope
built for it fits, and under which the template is closed; so no name, member or filter of a
template can fail, whatever the specification and the layout are. Only the files of a component hold
numbers.
-/

namespace Formwork

open Template

theorem Template.render_of_closed {t : Template} {s : Scope} (sig : Signature) (hs : s.Fits sig)
    (ht : closedAll sig t.pieces = true) : ∃ text, t.render s = .ok text :=
  renderAll_of_closed hs t.pieces ht

/-! ### Fields -/

def Field.signature : Signature :=
  [("name", .text), ("label", .text), ("marker", .text), ("options", .list .text),
    ("compiled", .record [("required_message", .text), ("pattern_message", .text)]),
    ("show_required_error", .value), ("show_pattern_error", .value)]

theorem FieldKind.control_closed (k : FieldKind) :
    closedAll Field.signature k.control.template.pieces = true := by
  cases k <;> rfl

theorem Field.markupScope_fits (f : Field) (compiled : CompiledField) :
    (f.markupScope compiled).Fits Field.signature := by
  refine Scope.fits_of_forall_mem fun m hm => ?_
  simp only [Field.signature, List.mem_cons, List.not_mem_nil, or_false] at hm
  rcases hm with rfl | rfl | rfl | rfl | rfl | rfl | rfl
  case inr.inr.inr.inl =>
    refine ⟨_, rfl, ?_⟩
    intro v hv
    obtain ⟨option, -, rfl⟩ := List.mem_map.mp hv
    trivial
  case inr.inr.inr.inr.inl => exact ⟨_, rfl, ⟨_, rfl, trivial⟩, ⟨_, rfl, trivial⟩, trivial⟩
  all_goals exact ⟨_, rfl, by trivial⟩

theorem Field.markupWith_total (f : Field) (compiled : CompiledField) :
    ∃ text, f.markupWith compiled = .ok text := by
  obtain ⟨body, hbody⟩ := Template.render_of_closed Field.signature
    (f.markupScope_fits compiled) f.kind.control_closed
  obtain ⟨text, htext⟩ := Template.render_of_closed [("body", .text)]
    (t := Template.Fields.container)
    (s := .ofMembers [("body", .str (Text.dropFinalNewlines body))])
    (Scope.fits_of_forall_mem fun m hm => by
      cases List.mem_singleton.mp hm
      exact ⟨_, rfl, trivial⟩) rfl
  refine ⟨Text.dropFinalNewlines text, ?_⟩
  rw [Field.markupWith, show f.control = f.kind.control from rfl, hbody]
  simp only [bind, Except.bind, htext]
  rfl

/-! ### Components -/

def Component.markupSignature : Signature :=
  [("fragments", .list .text), ("layout_class", .text), ("column_class", .text),
    ("actions_class", .text),
    ("buttons", .list (.record [("label", .text), ("type", .text), ("css_class", .text)]))]

theorem Layout.columnClass_eq (l : Layout) :
    l.columnClass = Number.limited {} l.isWritable l.columnText :=
  rfl

theorem Component.markup_limited (c : Component) (layout : Layout) :
    ∃ text, c.markup layout = Number.limited tooLong layout.isWritable text := by
  have hfields : ∀ f ∈ c.fields, ∃ text, f.markup = .ok text :=
    fun f _ => f.markupWith_total (.ofField f)
  obtain ⟨fragments, hfragments⟩ := mapM_total hfields
  rw [Component.markup, hfragments, layout.columnClass_eq, Number.limited_mapError]
  cases layout.isWritable with
  | false => exact ⟨"", rfl⟩
  | true =>
      refine Template.render_of_closed Component.markupSignature
        (Scope.fits_of_forall_mem fun m hm => ?_) rfl
      simp only [Component.markupSignature, List.mem_cons, List.not_mem_nil, or_false] at hm
      rcases hm with rfl | rfl | rfl | rfl | rfl
      case inl =>
        refine ⟨_, rfl, ?_⟩
        intro v hv
        obtain ⟨fragment, -, rfl⟩ := List.mem_map.mp hv
        trivial
      case inr.inr.inr.inr =>
        refine ⟨_, rfl, ?_⟩
        intro v hv
        obtain ⟨button, -, rfl⟩ := List.mem_map.mp hv
        exact ⟨⟨_, rfl, trivial⟩, ⟨_, rfl, trivial⟩, ⟨_, rfl, trivial⟩, trivial⟩
      all_goals exact ⟨_, rfl, trivial⟩

/-- What the template of the module of a component looks at behind the controls. -/
def Component.methodsSignature : Signature := [("has_option_lists", .value)]

theorem Component.moduleScope_fits (c : Component) (controls : List Value) :
    (c.moduleScope controls).Fits Component.methodsSignature := by
  refine Scope.fits_of_forall_mem fun m hm => ?_
  rw [Component.methodsSignature, List.mem_singleton] at hm
  rw [hm]
  exact ⟨_, rfl, rfl⟩

/-! ### The application -/

theorem AppShell.style_total (orientation : Orientation) (layout : Layout) :
    ∃ text, AppShell.style orientation layout = .ok text := by
  obtain ⟨text, htext⟩ := Template.render_of_closed
    [("use_bootstrap", .value), ("menu_type", .text)] (t := Template.App.shellStyle)
    (s := .ofMembers [("use_bootstrap", .bool layout.useBootstrap),
      ("menu_type", .str orientation.name)])
    (Scope.fits_of_forall_mem fun m hm => by
      simp only [List.mem_cons, List.not_mem_nil, or_false] at hm
      rcases hm with rfl | rfl <;> exact ⟨_, rfl, by trivial⟩) rfl
  exact ⟨text, by rw [AppShell.style, htext]; rfl⟩

theorem AppShell.footer_total (content : Option String) (layout : Layout) :
    ∃ text, AppShell.footer content layout = .ok text := by
  cases content with
  | none => exact ⟨"", rfl⟩
  | some content =>
      rw [AppShell.footer]
      split
      · exact ⟨"", rfl⟩
      · obtain ⟨text, htext⟩ := Template.render_of_closed
          [("footer_content", .text), ("footer_class", .text)] (t := Template.App.footer)
          (s := .ofMembers [("footer_content", .str content),
            ("footer_class",
              .str (if layout.useBootstrap then "mt-4 text-center" else "custom-footer"))])
          (Scope.fits_of_forall_mem fun m hm => by
            simp only [List.mem_cons, List.not_mem_nil, or_false] at hm
            rcases hm with rfl | rfl <;> exact ⟨_, rfl, trivial⟩) rfl
        exact ⟨Text.dropFinalNewlines text, by rw [htext]; rfl⟩

theorem Generator.globalStyle_total (layout : Layout) :
    ∃ text, Generator.globalStyle layout = .ok text := by
  obtain ⟨text, htext⟩ := Template.render_of_closed [("use_bootstrap", .value)]
    (t := Template.App.globalStyle)
    (s := .ofMembers [("use_bootstrap", .bool layout.useBootstrap)])
    (Scope.fits_of_forall_mem fun m hm => by
      cases List.mem_singleton.mp hm
      exact ⟨_, rfl, rfl⟩) rfl
  exact ⟨text, by rw [Generator.globalStyle, htext]; rfl⟩

/-! ### The workspace -/

/-- What the templates of a workspace may look at. -/
def Skeleton.signature : Signature := [("project_name", .text), ("project_title", .text)]

theorem Skeleton.scope_fits (project : String) :
    (Skeleton.scope project).Fits Skeleton.signature := by
  refine Scope.fits_of_forall_mem fun m hm => ?_
  simp only [Skeleton.signature, List.mem_cons, List.not_mem_nil, or_false] at hm
  rcases hm with rfl | rfl <;> exact ⟨_, rfl, trivial⟩

theorem Skeleton.workspace_total (project : String) (layout : Layout) :
    ∃ index main root, Skeleton.workspace project layout = .ok
      [Skeleton.valueFile "package.json" (Skeleton.packageFile project layout),
        Skeleton.valueFile "angular.json" (Skeleton.workspaceFile project),
        Skeleton.valueFile "tsconfig.json" Skeleton.compilerFile,
        Skeleton.valueFile "tsconfig.app.json" Skeleton.applicationCompilerFile,
        ⟨"src/index.html", index⟩, ⟨"src/main.ts", main⟩, ⟨"src/app/app.component.ts", root⟩] := by
  obtain ⟨index, hindex⟩ := Template.render_of_closed Skeleton.signature
    (t := Template.App.indexPage) (Skeleton.scope_fits project) rfl
  obtain ⟨main, hmain⟩ := Template.render_of_closed Skeleton.signature
    (t := Template.App.mainModule) (Skeleton.scope_fits project) rfl
  obtain ⟨root, hroot⟩ := Template.render_of_closed Skeleton.signature
    (t := Template.App.rootComponent) (Skeleton.scope_fits project) rfl
  refine ⟨index, main, root, ?_⟩
  rw [Skeleton.workspace, hindex, hmain, hroot]
  rfl

theorem Skeleton.artifacts_total (s : Skeleton) (spec : Specification) (layout : Layout) :
    ∃ own, s.artifacts spec layout = .ok own := by
  cases s with
  | commands package installs => exact ⟨[], rfl⟩
  | none => exact ⟨[], rfl⟩
  | files =>
      obtain ⟨index, main, root, h⟩ := Skeleton.workspace_total spec.projectName layout
      exact ⟨_, h⟩

end Formwork
