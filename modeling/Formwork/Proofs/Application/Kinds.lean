import Formwork.Proofs.Check.Duplicates
import Formwork.Proofs.Generation.Alike

/-!
Declarations of kinds. A field declares its kind in words, and what is generated from it depends on
the control that the words are resolved to, and on nothing else of them. So every declaration may be
replaced by the name of its control: files and commands stay as they are, and of the issues only the
warnings about kinds that are not known go away.
-/

namespace Formwork

/-! ### Resolved declarations -/

def Field.resolved (f : Field) : Field := { f with declaredKind := f.kind.name }

def Component.resolved (c : Component) : Component :=
  { c with fields := c.fields.map Field.resolved }

def Specification.resolved (s : Specification) : Specification :=
  { s with components := s.components.map Component.resolved }

theorem FieldKind.declared?_name (k : FieldKind) : declared? k.name = some k := by
  cases k <;> decide

theorem FieldKind.isKnown_name (k : FieldKind) : isKnown k.name = true := by
  rw [isKnown, declared?_name]
  rfl

theorem FieldKind.resolve_name (k : FieldKind) : resolve k.name = k := by
  rw [resolve, declared?_name]
  rfl

namespace Field

@[simp] theorem kind_resolved (f : Field) : f.resolved.kind = f.kind := by
  rw [resolved, kind, FieldKind.resolve_name]

@[simp] theorem control_resolved (f : Field) : f.resolved.control = f.control := by
  rw [control, control, kind_resolved]

theorem ofField_resolved (f : Field) :
    CompiledField.ofField f.resolved = CompiledField.ofField f := by
  simp only [CompiledField.ofField, Directive.ofField, resolved]

/-! ### What is generated -/

theorem initialValue_resolved (f : Field) : f.resolved.initialValue = f.initialValue := by
  rw [initialValue, initialValue, control_resolved, resolved]

theorem markup_resolved (f : Field) : f.resolved.markup = f.markup := by
  have hscope : f.resolved.markupScope (.ofField f) = f.markupScope (.ofField f) := by
    rw [markupScope, markupScope, control_resolved, resolved]
  rw [markup, markup, ofField_resolved, markupWith, markupWith, control_resolved, hscope]

end Field

theorem Component.module_resolved (c : Component) : c.resolved.module = c.module := by
  have hentry : ∀ f : Field, controlEntry f.resolved = controlEntry f := fun f =>
    funext fun validators => by
      rw [controlEntry, controlEntry, Field.initialValue_resolved, Field.resolved]
  have hscope : c.resolved.moduleScope = c.moduleScope := funext fun controls => by
    simp only [moduleScope, resolved, List.any_map, Function.comp_def, Field.kind_resolved]
  rw [module, module, hscope, resolved, List.mapM_map]
  simp only [Function.comp_def, hentry, Field.ofField_resolved]

theorem Component.markup_resolved (c : Component) (layout : Layout) :
    c.resolved.markup layout = c.markup layout := by
  simp only [markup, resolved, List.mapM_map, Function.comp_def, Field.markup_resolved]

theorem Specification.alike_resolved (spec : Specification) : spec.Alike spec.resolved where
  projectName := rfl
  menuType := rfl
  footerContent := rfl
  components := by
    rw [resolved, List.forall₂_map_right_iff, List.forall₂_same]
    exact fun c _ => ⟨rfl, rfl, c.module_resolved, c.markup_resolved⟩

/-! ### What is found -/

def Issue.warnsOfKind (i : Issue) : Bool := i.code == "unknown-type" && i.severity == .warning

namespace Check

def settled (issues : List Issue) : List Issue := issues.filter fun i => !i.warnsOfKind

theorem settled_append (is js : List Issue) : settled (is ++ js) = settled is ++ settled js :=
  List.filter_append is js

theorem settled_of_free {issues : List Issue} (h : Free "unknown-type" issues) :
    settled issues = issues := by
  refine List.filter_eq_self.mpr fun i hi => ?_
  rw [Issue.warnsOfKind, beq_eq_false_iff_ne.mpr (h i hi)]
  rfl

theorem free_routeIssues_of_ne {code : String} (hcode : code ≠ "duplicate-route")
    (seen : NamesSeen) (name : String) : Free code (routeIssues seen name) := by
  rw [routeIssues]
  split
  · exact (free_singleton code _).mpr hcode.symm
  · exact free_nil code

/-- Without the warning there is nothing else: an unknown kind is a text box, which needs no
options. With a known kind there is no warning in either case. -/
theorem fieldKindIssues_resolved (place : String) (f : Field) :
    fieldKindIssues place f.resolved = settled (fieldKindIssues place f) := by
  have hknown : FieldKind.isKnown f.resolved.declaredKind = true := by
    rw [Field.resolved, FieldKind.isKnown_name]
  have hoptions : f.resolved.options = f.options := by rw [Field.resolved]
  rw [fieldKindIssues, fieldKindIssues, hknown, Field.kind_resolved, hoptions]
  cases hdeclared : FieldKind.declared? f.declaredKind with
  | none =>
      have htextbox : f.kind = .textbox := by
        rw [Field.kind, FieldKind.resolve, hdeclared, Option.getD_none]
      rw [FieldKind.isKnown, hdeclared, htextbox]
      rfl
  | some kind =>
      rw [FieldKind.isKnown, hdeclared]
      cases f.kind.takesOptions && f.options.isEmpty <;> rfl

theorem issuesOfFields_resolved (component : String) (seen : List String) (fields : List Field) :
    issuesOfFields component seen (fields.map Field.resolved) =
      settled (issuesOfFields component seen fields) := by
  induction fields generalizing seen with
  | nil => rfl
  | cons f fields ih =>
      have hname : f.resolved.name = f.name := by rw [Field.resolved]
      have hnames : ∀ place, fieldNameIssues place seen f.resolved =
          fieldNameIssues place seen f := fun place => by
        rw [fieldNameIssues, fieldNameIssues, hname]
      have hranges : ∀ place, rangeIssues place f.resolved = rangeIssues place f :=
        fun place => by rw [rangeIssues, rangeIssues, Field.resolved]
      simp only [List.map_cons, issuesOfFields, settled_append, hname]
      rw [hnames, hranges, fieldKindIssues_resolved, ih,
        settled_of_free (free_fieldNameIssues (by decide) _ _ _),
        settled_of_free (free_rangeIssues (by decide) _ _)]

theorem issuesOfComponents_resolved (seen : NamesSeen) (components : List Component) :
    issuesOfComponents seen (components.map Component.resolved) =
      settled (issuesOfComponents seen components) := by
  induction components generalizing seen with
  | nil => rfl
  | cons c components ih =>
      simp only [List.map_cons, issuesOfComponents, settled_append, Component.resolved]
      rw [issuesOfFields_resolved, ih, settled_of_free (free_routeIssues_of_ne (by decide) _ _),
        settled_of_free (free_classIssues (by decide) _ _)]

theorem issuesOf_resolved (spec : Specification) (layout : Option Layout) :
    issuesOf spec.resolved layout = settled (issuesOf spec layout) := by
  have hempty : emptinessIssues (spec.components.map Component.resolved) =
      emptinessIssues spec.components := by
    rw [emptinessIssues, emptinessIssues, List.isEmpty_map]
  rw [issuesOf, issuesOf, Specification.resolved, issuesOfComponents_resolved, hempty,
    settled_append, settled_append, settled_of_free (free_emptinessIssues (by decide) _),
    settled_of_free (free_columnsIssues (by decide) _)]

theorem isTellable_resolved (spec : Specification) (layout : Option Layout) :
    spec.resolved.isTellable layout = spec.isTellable layout := by
  have hfield : ∀ f : Field, f.resolved.isTellable = f.isTellable := fun f => by
    rw [Field.isTellable, Field.isTellable, Field.resolved]
  simp only [Specification.isTellable, Specification.resolved, Component.resolved, List.all_map,
    Function.comp_def, hfield]

theorem findIssues_resolved (spec : Specification) (layout : Option Layout) :
    findIssues spec.resolved layout = (findIssues spec layout).map settled := by
  rw [findIssues_eq, findIssues_eq, isTellable_resolved, issuesOf_resolved, Number.limited_map]

end Check

/-- Declarations of kinds count by the controls that they are resolved to. With the names of these
controls in their place the same files and commands are generated, and the same issues are found in
the same order, except that no kind is warned about. -/
theorem Specification.resolved_alike (spec : Specification) :
    (∀ (layout : Layout) (skeleton : Skeleton),
      spec.resolved.generate layout skeleton = spec.generate layout skeleton) ∧
    ∀ layout : Option Layout,
      findIssues spec.resolved layout =
        (findIssues spec layout).map fun issues => issues.filter fun i => !i.warnsOfKind :=
  ⟨spec.alike_resolved.generate, Check.findIssues_resolved spec⟩

end Formwork
