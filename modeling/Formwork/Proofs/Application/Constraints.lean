import Formwork.Proofs.Check.Issues
import Formwork.Proofs.Generation.Alike

/-!
The constraints that count for a field. Its directives are exactly those that its constraints ask
for, in one fixed order and none twice. A bundle takes the place of the constraints on the field
itself, and takes it everywhere: the directives are all that the module, the marker and the error
blocks know of them, and the checks look at the bundle alone. So behind a bundle the constraints on
the field may be anything, and files, commands and issues stay as they are.
-/

namespace Formwork

open scoped List

/-! ### Constraints that are given -/

/-- A directive for a constraint that a bundle gives. A length of zero is a length, and an empty
pattern is none. -/
inductive ValidationBundle.Sets (b : ValidationBundle) : Directive → Prop
  | required (h : b.required = true) : b.Sets ⟨.required, .null⟩
  | minLength {n : Nat} (h : b.minLength = some n) : b.Sets ⟨.minLength, .int n⟩
  | maxLength {n : Nat} (h : b.maxLength = some n) : b.Sets ⟨.maxLength, .int n⟩
  | pattern {regex : String} (h : b.regex = some regex) (hne : regex ≠ "") :
    b.Sets ⟨.pattern, .str regex⟩
  | min {low high : Number} (h : b.range = some (low, high)) : b.Sets ⟨.min, low.toValue⟩
  | max {low high : Number} (h : b.range = some (low, high)) : b.Sets ⟨.max, high.toValue⟩

/-- A directive for a constraint of a field: one of its bundle, or, where there is no bundle, one
that stands on the field itself. -/
inductive Field.Sets (f : Field) : Directive → Prop
  | bundle {b : ValidationBundle} {d : Directive} (hb : f.validations = some b) (h : b.Sets d) :
    f.Sets d
  | required (hb : f.validations = none) (h : f.required = true) : f.Sets ⟨.required, .null⟩
  | pattern {regex : String} (hb : f.validations = none) (h : f.regex = some regex)
    (hne : regex ≠ "") : f.Sets ⟨.pattern, .str regex⟩

namespace Directive

theorem mem_requiredIf {condition : Bool} {d : Directive} :
    d ∈ requiredIf condition ↔ condition = true ∧ d = ⟨.required, .null⟩ := by
  cases condition <;> simp [requiredIf]

theorem mem_patternOf {regex : Option String} {d : Directive} :
    d ∈ patternOf regex ↔ ∃ pattern, regex = some pattern ∧ pattern ≠ "" ∧
      d = ⟨.pattern, .str pattern⟩ := by
  cases regex with
  | none => simp [patternOf]
  | some pattern => by_cases h : pattern = "" <;> simp [patternOf, h]

theorem mem_lengthOf {kind : DirectiveKind} {length : Option Nat} {d : Directive} :
    d ∈ lengthOf kind length ↔ ∃ n : Nat, length = some n ∧ d = ⟨kind, .int n⟩ := by
  cases length <;> simp [lengthOf]

theorem mem_rangeOf {range : Option (Number × Number)} {d : Directive} :
    d ∈ rangeOf range ↔ ∃ low high, range = some (low, high) ∧
      (d = ⟨.min, low.toValue⟩ ∨ d = ⟨.max, high.toValue⟩) := by
  cases range with
  | none => simp [rangeOf]
  | some range =>
      obtain ⟨low, high⟩ := range
      simp [rangeOf]

theorem mem_ofBundle {b : ValidationBundle} {d : Directive} : d ∈ ofBundle b ↔ b.Sets d := by
  simp only [ofBundle, List.mem_append, mem_requiredIf, mem_lengthOf, mem_patternOf, mem_rangeOf]
  constructor
  · rintro ((((⟨h, rfl⟩ | ⟨n, h, rfl⟩) | ⟨n, h, rfl⟩) | ⟨regex, h, hne, rfl⟩) |
      ⟨low, high, h, rfl | rfl⟩)
    · exact .required h
    · exact .minLength h
    · exact .maxLength h
    · exact .pattern h hne
    · exact .min h
    · exact .max h
  · rintro (h | h | h | ⟨h, hne⟩ | h | h)
    · exact .inl (.inl (.inl (.inl ⟨h, rfl⟩)))
    · exact .inl (.inl (.inl (.inr ⟨_, h, rfl⟩)))
    · exact .inl (.inl (.inr ⟨_, h, rfl⟩))
    · exact .inl (.inr ⟨_, h, hne, rfl⟩)
    · exact .inr ⟨_, _, h, .inl rfl⟩
    · exact .inr ⟨_, _, h, .inr rfl⟩

theorem mem_ofField {f : Field} {d : Directive} : d ∈ ofField f ↔ f.Sets d := by
  cases hb : f.validations with
  | some b =>
      rw [ofField, hb, mem_ofBundle]
      constructor
      · exact .bundle hb
      · rintro (⟨hb', h⟩ | ⟨hnone, -⟩ | ⟨hnone, -, -⟩)
        · exact Option.some.inj (hb'.symm.trans hb) ▸ h
        · exact absurd (hnone.symm.trans hb) (by simp)
        · exact absurd (hnone.symm.trans hb) (by simp)
  | none =>
      simp only [ofField, hb, List.mem_append, mem_requiredIf, mem_patternOf]
      constructor
      · rintro (⟨h, rfl⟩ | ⟨regex, h, hne, rfl⟩)
        · exact .required hb h
        · exact .pattern hb h hne
      · rintro (⟨hb', -⟩ | ⟨-, h⟩ | ⟨-, h, hne⟩)
        · exact absurd (hb'.symm.trans hb) (by simp)
        · exact .inl ⟨h, rfl⟩
        · exact .inr ⟨_, h, hne, rfl⟩

/-! ### The order of directives -/

def kinds (ds : List Directive) : List DirectiveKind := ds.map (·.kind)

theorem kinds_requiredIf (condition : Bool) : kinds (requiredIf condition) <+ [.required] := by
  cases condition
  · exact List.nil_sublist _
  · exact List.Sublist.refl _

theorem kinds_patternOf (regex : Option String) : kinds (patternOf regex) <+ [.pattern] := by
  cases regex with
  | none => exact List.nil_sublist _
  | some pattern =>
      rw [patternOf]
      split
      · exact List.nil_sublist _
      · exact List.Sublist.refl _

theorem kinds_lengthOf (kind : DirectiveKind) (length : Option Nat) :
    kinds (lengthOf kind length) <+ [kind] := by
  cases length with
  | none => exact List.nil_sublist _
  | some n => exact List.Sublist.refl _

theorem kinds_rangeOf (range : Option (Number × Number)) :
    kinds (rangeOf range) <+ [.min, .max] := by
  cases range with
  | none => exact List.nil_sublist _
  | some range => exact List.Sublist.refl _

/-- The directives of a field leave out some kinds, and keep the others in the order of all. -/
theorem kinds_ofField (f : Field) : kinds (ofField f) <+ DirectiveKind.all := by
  cases hb : f.validations with
  | some b =>
      simp only [ofField, hb, ofBundle, kinds, List.map_append]
      exact ((((kinds_requiredIf b.required).append (kinds_lengthOf .minLength b.minLength)).append
        (kinds_lengthOf .maxLength b.maxLength)).append (kinds_patternOf b.regex)).append
        (kinds_rangeOf b.range)
  | none =>
      -- the field itself has no lengths and no range, so two kinds are left
      have hflat : kinds (ofField f) <+ [.required] ++ [.pattern] := by
        simp only [ofField, hb, kinds, List.map_append]
        exact (kinds_requiredIf f.required).append (kinds_patternOf f.regex)
      exact hflat.trans (by decide)

end Directive

/-! ### Constraints that are hidden -/

/-- A field, and the same field with other constraints of its own where a bundle hides them. -/
inductive Field.HiddenChange (f : Field) : Field → Prop
  | same : f.HiddenChange f
  | hidden {b : ValidationBundle} (hb : f.validations = some b) (required : Bool)
    (regex : Option String) : f.HiddenChange { f with required, regex }

inductive Component.HiddenChange (c : Component) : Component → Prop
  | fields {fields : List Field} (h : List.Forall₂ Field.HiddenChange c.fields fields) :
    c.HiddenChange { c with fields }

inductive Specification.HiddenChange (s : Specification) : Specification → Prop
  | components {components : List Component}
    (h : List.Forall₂ Component.HiddenChange s.components components) :
    s.HiddenChange { s with components }

namespace Field.HiddenChange

variable {f g : Field}

theorem name (h : f.HiddenChange g) : g.name = f.name := by cases h <;> rfl

theorem kind (h : f.HiddenChange g) : g.kind = f.kind := by cases h <;> rfl

theorem options (h : f.HiddenChange g) : g.options = f.options := by cases h <;> rfl

theorem validations (h : f.HiddenChange g) : g.validations = f.validations := by cases h <;> rfl

theorem compiled (h : f.HiddenChange g) : CompiledField.ofField g = CompiledField.ofField f := by
  cases h with
  | same => rfl
  | hidden hb required regex => simp only [CompiledField.ofField, Directive.ofField, hb]

theorem control (h : f.HiddenChange g) : g.control = f.control := by
  rw [Field.control, Field.control, h.kind]

theorem initialValue (h : f.HiddenChange g) : g.initialValue = f.initialValue := by
  rw [Field.initialValue, Field.initialValue, h.validations, h.control]

theorem controlEntry (h : f.HiddenChange g) :
    Component.controlEntry g = Component.controlEntry f := funext fun validators => by
  rw [Component.controlEntry, Component.controlEntry, h.name, h.initialValue]

theorem markup (h : f.HiddenChange g) : g.markup = f.markup := by
  have hscope : g.markupScope (.ofField f) = f.markupScope (.ofField f) := by
    simp only [markupScope, h.name, h.control, h.options]
  rw [Field.markup, Field.markup, h.compiled, markupWith, markupWith, h.control, hscope]

theorem issues (h : f.HiddenChange g) (place : String) (seen : List String) :
    fieldNameIssues place seen g = fieldNameIssues place seen f ∧
      fieldKindIssues place g = fieldKindIssues place f ∧
      fieldRangeIssues place g = fieldRangeIssues place f := by
  have hdeclared : g.declaredKind = f.declaredKind := by cases h <;> rfl
  refine ⟨?_, ?_, ?_⟩
  · rw [fieldNameIssues, fieldNameIssues, h.name]
  · rw [fieldKindIssues, fieldKindIssues, hdeclared, h.kind, h.options]
  · rw [fieldRangeIssues, fieldRangeIssues, h.validations]

end Field.HiddenChange

theorem fieldIssues_hiddenChange {fields fields' : List Field}
    (h : List.Forall₂ Field.HiddenChange fields fields') (component : String)
    (seen : List String) :
    fieldIssues component seen fields' = fieldIssues component seen fields := by
  induction h generalizing seen with
  | nil => rfl
  | cons hfg _ ih =>
      obtain ⟨hnames, hkinds, hranges⟩ := hfg.issues (fieldPlace component _) seen
      rw [fieldIssues, fieldIssues, hfg.name, hnames, hkinds, hranges, ih]

theorem Component.HiddenChange.alike {c d : Component} (h : c.HiddenChange d) : c.Alike d := by
  obtain @⟨fields, hfields⟩ := h
  have hkinds : fields.map Field.kind = c.fields.map Field.kind :=
    map_eq_of_related (fun _ _ hfg => hfg.kind) hfields
  -- the module asks for the kinds and the markup for the markup of each field, in their order
  have hlists : (fields.any fun f => f.kind == .checkboxlist) =
      c.fields.any fun f => f.kind == .checkboxlist := by
    simpa only [List.any_map, Function.comp_def] using
      congrArg (List.any · (· == FieldKind.checkboxlist)) hkinds
  have hentry : ∀ f g : Field, f.HiddenChange g →
      (do return controlEntry g (← (CompiledField.ofField g).validators)) =
        do return controlEntry f (← (CompiledField.ofField f).validators) := fun f g hfg => by
    rw [hfg.controlEntry, hfg.compiled]
  have hentries := mapM_eq_of_related hentry hfields
  have hfragments : fields.mapM Field.markup = c.fields.mapM Field.markup :=
    mapM_eq_of_related (fun _ _ hfg => hfg.markup) hfields
  exact
    { name := rfl
      menuLabel := rfl
      module := by simp only [module, moduleScope, hentries, hlists]
      markup := fun layout => by simp only [markup, hfragments] }

theorem componentIssues_hiddenChange {components components' : List Component}
    (h : List.Forall₂ Component.HiddenChange components components') (seen : NamesSeen) :
    componentIssues seen components' = componentIssues seen components := by
  induction h generalizing seen with
  | nil => rfl
  | cons hcd _ ih =>
      -- what is noted of a component is its name, and that is the same
      obtain ⟨hfields⟩ := hcd
      rw [componentIssues, componentIssues, fieldIssues_hiddenChange hfields, ih]

theorem Specification.HiddenChange.alike {s t : Specification} (h : s.HiddenChange t) :
    s.Alike t := by
  obtain ⟨hcomponents⟩ := h
  exact
    { projectName := rfl
      menuType := rfl
      footerContent := rfl
      components := hcomponents.imp fun _ _ hcd => hcd.alike }

theorem findIssues_hiddenChange {s t : Specification} (h : s.HiddenChange t)
    (layout : Option Layout) : findIssues t layout = findIssues s layout := by
  obtain ⟨hcomponents⟩ := h
  have hempty : ∀ {cs ds : List Component}, List.Forall₂ Component.HiddenChange cs ds →
      emptinessIssues ds = emptinessIssues cs := fun h => by cases h <;> rfl
  rw [findIssues, findIssues, hempty hcomponents, componentIssues_hiddenChange hcomponents]

/-- The directives of a field are those that its constraints ask for, in the order required,
lengths, pattern, range, and none twice; with a bundle they are those of the bundle. What stands on
a field beside its bundle counts for nothing: files, commands and issues do not depend on it. -/
theorem constraints_in_force :
    (∀ f : Field,
      (Directive.ofField f).map (·.kind) <+
        [.required, .minLength, .maxLength, .pattern, .min, .max] ∧
      ((Directive.ofField f).map (·.kind)).Nodup ∧
      ∀ d, d ∈ Directive.ofField f ↔ f.Sets d) ∧
    ∀ s t : Specification, s.HiddenChange t →
      (∀ (layout : Layout) (skeleton : Skeleton),
        t.generate layout skeleton = s.generate layout skeleton) ∧
      ∀ layout : Option Layout, findIssues t layout = findIssues s layout :=
  ⟨fun f => ⟨Directive.kinds_ofField f, (Directive.kinds_ofField f).nodup (by decide),
      fun _ => Directive.mem_ofField⟩,
    fun _ _ h => ⟨h.alike.generate, findIssues_hiddenChange h⟩⟩

def bundledPage (required : Bool) (regex : Option String) : Specification where
  projectName := "demo"
  components :=
    [{ name := "Signup"
       fields :=
        [{ name := "mail", required, regex, validations := some { minLength := some 0 } }] }]

/-- A bundle without them hides that the field is required and has a pattern. -/
theorem constraints_in_force_bundledPage :
    (bundledPage false none).HiddenChange (bundledPage true (some "^a")) ∧
    (∀ (layout : Layout) (skeleton : Skeleton),
      (bundledPage true (some "^a")).generate layout skeleton =
        (bundledPage false none).generate layout skeleton) ∧
    ∀ layout : Option Layout,
      findIssues (bundledPage true (some "^a")) layout =
        findIssues (bundledPage false none) layout := by
  have hchange : (bundledPage false none).HiddenChange (bundledPage true (some "^a")) :=
    .components (.cons (.fields (.cons (.hidden rfl true (some "^a")) .nil)) .nil)
  exact ⟨hchange, constraints_in_force.2 _ _ hchange⟩

end Formwork
