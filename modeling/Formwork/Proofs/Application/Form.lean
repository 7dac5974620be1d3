import Formwork.Proofs.Application.Text
import Formwork.Proofs.TypeScript.Items
import Mathlib.Data.List.Forall2

/-!
The form of a component, as its module holds it. The module has a line for each field: the name,
the value that the control starts with, and the validators. A name is quoted, and the literals and
the validators are items, so a line can be taken apart whatever characters the texts in it have.
Two components with one module therefore have one form.
-/

namespace Formwork.Application

open Template TypeScript

structure Control where
  name : String
  initial : Value
  directives : List Directive

def Control.ofField (f : Field) : Control where
  name := f.name
  initial := f.initialValue
  directives := Directive.ofField f

def Control.validators (c : Control) : List String := c.directives.map Directive.validatorText

def Control.text (c : Control) : String :=
  "      " ++ literalText (.str c.name) ++ ": [" ++ literalText c.initial ++ ", [" ++
    ", ".intercalate c.validators ++ "]],"

/-- The body of the class of a component: the form group with its controls, and the methods. -/
structure FormClass where
  controls : List Control
  methods : String

def FormClass.opening : List String :=
  ["  form: FormGroup;", "", "  constructor(private fb: FormBuilder) \x7b",
    "    this.form = this.fb.group(\x7b"]

def FormClass.text (f : FormClass) : String :=
  lines FormClass.opening ++ lines (f.controls.map Control.text) ++ lines ["    \x7d);"] ++
    f.methods

/-! ### The page is the text -/

def entryOf (f : Field) : Value := Component.controlEntry f (Control.ofField f).validators

/-- The places of the name and of the validators hold texts, whatever the numbers in them are. -/
theorem eval_control (s : Scope) (f : Field) (isLast : Bool) :
    (Expr.filtered (.member (.named "control") "name") .literal).eval
        (s.round "control" (.value (entryOf f)) isLast) =
      .ok (.value (.str (literalText (.str f.name)))) ∧
    (Expr.filtered (.member (.named "control") "validators") (.join ", ")).eval
        (s.round "control" (.value (entryOf f)) isLast) =
      .ok (.value (.str (", ".intercalate (Control.ofField f).validators))) := by
  refine ⟨rfl, ?_⟩
  rw [Expr.eval]
  show (do
    let v ← (Template.Filter.join ", ").apply (.list ((Control.ofField f).validators.map .str))
    return Datum.value v) = _
  rw [apply_join]
  rfl

theorem renderAll_control (s : Scope) (f : Field) (isLast : Bool) :
    renderAll (s.round "control" (.value (entryOf f)) isLast) Template.Pages.control =
      Number.limited tooLong f.initialValue.isWritable ((Control.ofField f).text ++ "\n") := by
  obtain ⟨hname, hvalidators⟩ := eval_control s f isLast
  have hinitial : (Expr.member (.named "control") "initial").eval
      (s.round "control" (.value (entryOf f)) isLast) = .ok (.value f.initialValue) := rfl
  rw [Template.Pages.control, renderAll_text, renderAll_value hname, renderAll_text,
    renderAll_cons_limited (render_literal_limited hinitial)]
  simp only [renderAll_text, renderAll_value hvalidators, renderAll_line, renderAll_nil,
    preceded_ok, Number.limited_bind_ok, preceded_limited, Control.text, Control.ofField,
    String.append_assoc, String.append_empty]

/-- What the module template looks at, where the arguments of the directives can be written. -/
theorem controls_limited (c : Component) :
    ((c.fields.mapM fun f =>
        return Component.controlEntry f (← (CompiledField.ofField f).validators)).mapError
      Template.Error.oversized) =
    Number.limited tooLong
      (c.fields.all fun f => (Directive.ofField f).all (·.argument.isWritable))
      (c.fields.map entryOf) := by
  rw [Number.mapM_limited fun f _ => ?_, Number.limited_mapError]
  · rfl
  · rw [Directive.validators_eq]
    exact Number.limited_bind_pure _ _ _ _

/-- The module of a component is its class with the controls of its fields, in their order. It is
written if the numbers in the component can be. -/
theorem componentForm_eq (c : Component) :
    ∃ methods, c.module = Number.limited tooLong c.isWritable (ComponentModule.text
      { className := Naming.classForm c.name ++ "Component"
        selector := "app-" ++ Naming.pathForm c.name
        slug := Naming.pathForm c.name
        body := FormClass.text { controls := c.fields.map Control.ofField, methods } }) := by
  let s : Scope := c.moduleScope (c.fields.map entryOf)
  obtain ⟨methods, hmethods⟩ :
      ∃ methods, renderAll s (Template.Pages.classModule.pieces.drop 23) = .ok methods :=
    renderAll_of_closed (c.moduleScope_fits (c.fields.map entryOf)) _ rfl
  refine ⟨methods, ?_⟩
  have hitems : (Datum.value (.list (c.fields.map entryOf))).items =
      .ok (c.fields.map fun f => .value (entryOf f)) := by
    rw [Datum.items, List.map_map]
    rfl
  have hrounds := mapM_rounds_eq s "control" Template.Pages.control
    (fun f : Field => .value (entryOf f)) _ (renderAll_control s) c.fields
  rw [Number.mapM_limited fun _ _ => rfl] at hrounds
  have hcontrols : (Expr.named "controls").eval s =
      .ok (.value (.list (c.fields.map entryOf))) := eval_named rfl
  have hloop := render_each_limited hcontrols hitems hrounds
  have hbody : renderAll s (Template.Pages.classModule.pieces.drop 17) =
      Number.limited tooLong (c.fields.all (·.initialValue.isWritable))
        (FormClass.text { controls := c.fields.map Control.ofField, methods }) := by
    show renderAll s
      (line "  form: FormGroup;" :: line "" :: line "  constructor(private fb: FormBuilder) \x7b" ::
        line "    this.form = this.fb.group(\x7b" ::
        .each "control" (.named "controls") Template.Pages.control :: line "    \x7d);" ::
        Template.Pages.classModule.pieces.drop 23) = _
    simp only [renderAll_line, renderAll_cons_limited hloop, hmethods, preceded_ok,
      Number.limited_bind_ok, preceded_limited]
    rw [join_map_line fun f => (Control.ofField f).text]
    simp only [FormClass.text, FormClass.opening, List.map_map, lines_cons, lines_nil,
      String.append_assoc, String.append_empty]
    rfl
  -- a field is written where its directives and the value it starts with are
  have hall : c.isWritable =
      ((c.fields.all fun f => (Directive.ofField f).all (·.argument.isWritable)) &&
        c.fields.all (·.initialValue.isWritable)) := by
    rw [Component.isWritable, Bool.eq_iff_iff, Bool.and_eq_true, List.all_eq_true,
      List.all_eq_true, List.all_eq_true]
    simp only [Field.isWritable_eq, Bool.and_eq_true]
    exact forall₂_and
  rw [Component.module, controls_limited, hall]
  exact Number.limited_bind (componentModule_of_body hbody)

/-! ### Taking the form apart -/

theorem Control.toList_line_append (c : Control) (rest : List Char) :
    (c.text ++ "\n").toList ++ rest =
      "      ".toList ++ (quotedChars c.name.toList ++ (": [".toList ++
        (literalChars c.initial ++ ',' :: (" [".toList ++
          row (c.validators.map String.toList) ("],\n".toList ++ rest))))) := by
  rw [← intercalate_append_bracket]
  simp [Control.text, literalText, literalChars_str]

/-- Controls that are written alike. -/
structure Control.Alike (c d : Control) : Prop where
  name : c.name = d.name
  initial : literalText c.initial = literalText d.initial
  validators : c.validators = d.validators

theorem Control.validators_whole (c : Control) :
    ∀ cs ∈ c.validators.map String.toList, Whole cs ∧ cs ≠ [] := by
  intro cs hcs
  rw [validators, List.map_map] at hcs
  obtain ⟨d, -, rfl⟩ := List.mem_map.mp hcs
  exact ⟨d.validatorText_whole, d.validatorText_ne_nil⟩

theorem Control.line_inj {c d : Control} {rest rest' : List Char}
    (h : (c.text ++ "\n").toList ++ rest = (d.text ++ "\n").toList ++ rest') :
    c.Alike d ∧ rest = rest' := by
  rw [toList_line_append, toList_line_append] at h
  obtain ⟨hname, hafterName⟩ := quotedChars_append_inj (List.append_cancel_left h)
  have hcomma : endsItem ',' = true := rfl
  obtain ⟨hinitial, -, hafterInitial⟩ := (whole_literalChars c.initial).append_inj
    (whole_literalChars d.initial) hcomma hcomma (List.append_cancel_left hafterName)
  obtain ⟨hvalidators, hafter⟩ := row_inj c.validators_whole d.validators_whole
    (List.append_cancel_left hafterInitial)
  refine ⟨⟨String.toList_injective hname, ?_, ?_⟩, List.append_cancel_left hafter⟩
  · rw [literalText, literalText, hinitial]
  · exact List.map_injective_iff.mpr (fun _ _ => String.toList_injective) hvalidators

theorem Control.line_ne_closing (c : Control) (rest rest' : List Char) :
    (c.text ++ "\n").toList ++ rest ≠ "    \x7d);\n".toList ++ rest' := by
  rw [toList_line_append]
  simp

theorem toList_controls_cons (c : Control) (cs : List Control) (rest : List Char) :
    (lines ((c :: cs).map Control.text)).toList ++ rest =
      (c.text ++ "\n").toList ++ ((lines (cs.map Control.text)).toList ++ rest) := by
  rw [List.map_cons, lines_cons, String.toList_append, List.append_assoc]

theorem controls_inj {cs ds : List Control} {rest rest' : List Char}
    (h : (lines (cs.map Control.text)).toList ++ ("    \x7d);\n".toList ++ rest) =
      (lines (ds.map Control.text)).toList ++ ("    \x7d);\n".toList ++ rest')) :
    List.Forall₂ Control.Alike cs ds := by
  induction cs generalizing ds with
  | nil =>
      cases ds with
      | nil => exact .nil
      | cons d ds =>
          rw [toList_controls_cons] at h
          exact absurd h.symm (d.line_ne_closing _ _)
  | cons c cs ih =>
      rw [toList_controls_cons] at h
      cases ds with
      | nil => exact absurd h (c.line_ne_closing _ _)
      | cons d ds =>
          rw [toList_controls_cons] at h
          obtain ⟨halike, hrest⟩ := Control.line_inj h
          exact .cons halike (ih hrest)

theorem FormClass.text_inj {f g : FormClass} (h : f.text = g.text) :
    List.Forall₂ Control.Alike f.controls g.controls := by
  have hchars := congrArg String.toList h
  simp only [FormClass.text, String.toList_append, List.append_assoc] at hchars
  exact controls_inj (List.append_cancel_left hchars)

end Formwork.Application

namespace Formwork

open Application TypeScript

/-- Directives that are written alike: they are of one kind and have one literal, and their pattern,
if they have one, is the same text. -/
structure Directive.Alike (d e : Directive) : Prop where
  kind : d.kind = e.kind
  argument : literalText d.argument = literalText e.argument
  pattern : d.kind = .pattern → ∃ pattern, d.argument = .str pattern ∧ e.argument = .str pattern

theorem Directive.alike_of_validatorText {d e : Directive} (hd : d.HasArgument)
    (he : e.HasArgument) (h : d.validatorText = e.validatorText) : d.Alike e := by
  obtain ⟨hkind, hliteral⟩ := validatorText_inj h
  by_cases hrequired : d.kind = .required
  · refine ⟨hkind, ?_, fun hpattern => ?_⟩
    · rw [hd.required hrequired, he.required (hkind ▸ hrequired)]
    · exact absurd (hrequired.symm.trans hpattern) (by decide)
  · refine ⟨hkind, hliteral hrequired, fun hpattern => ?_⟩
    obtain ⟨p, hp⟩ := hd.pattern hpattern
    obtain ⟨q, hq⟩ := he.pattern (hkind ▸ hpattern)
    have hsame : literalText (.str p) = literalText (.str q) := by
      rw [← hp, ← hq]
      exact hliteral hrequired
    exact ⟨p, hp, by rw [hq, literalText_str_injective hsame]⟩

/-- Fields whose controls are written alike: they have one name, start with one literal, and are
checked by the same validators, which come from directives that are alike. -/
structure Field.Alike (f g : Field) : Prop where
  name : f.name = g.name
  initial : ∃ text, literal f.initialValue = .ok text ∧ literal g.initialValue = .ok text
  validators : ∃ texts, (CompiledField.ofField f).validators = .ok texts ∧
    (CompiledField.ofField g).validators = .ok texts
  directives : List.Forall₂ Directive.Alike (Directive.ofField f) (Directive.ofField g)

theorem Field.written_of_isWritable {f : Field} (h : f.isWritable = true) :
    literal f.initialValue = .ok (literalText f.initialValue) ∧
      (CompiledField.ofField f).validators =
        .ok ((Directive.ofField f).map Directive.validatorText) := by
  rw [Field.isWritable_eq, Bool.and_eq_true] at h
  refine ⟨if_pos h.2, ?_⟩
  rw [Directive.validators_eq, h.1, Number.limited_true]

theorem Field.alike_of_control {f g : Field} (hf : f.isWritable = true) (hg : g.isWritable = true)
    (h : (Control.ofField f).Alike (.ofField g)) : f.Alike g := by
  have hvalidators : (Directive.ofField f).map Directive.validatorText =
      (Directive.ofField g).map Directive.validatorText := h.validators
  have hsame : List.Forall₂ (fun d e => Directive.validatorText d = Directive.validatorText e)
      (Directive.ofField f) (Directive.ofField g) := by
    rwa [← List.forall₂_eq_eq_eq, List.forall₂_map_left_iff, List.forall₂_map_right_iff]
      at hvalidators
  obtain ⟨hinitial, hwritten⟩ := Field.written_of_isWritable hf
  obtain ⟨hinitial', hwritten'⟩ := Field.written_of_isWritable hg
  refine ⟨h.name, ⟨_, hinitial, hinitial'.trans (congrArg Except.ok h.initial.symm)⟩,
    ⟨_, hwritten, hwritten'.trans (congrArg Except.ok hvalidators.symm)⟩,
    List.forall₂_iff_zip.mpr ⟨hsame.length_eq, fun {d e} hmem => ?_⟩⟩
  obtain ⟨hd, he⟩ := List.of_mem_zip hmem
  exact Directive.alike_of_validatorText (Directive.hasArgument_of_mem_ofField hd)
    (Directive.hasArgument_of_mem_ofField he) ((List.forall₂_iff_zip.mp hsame).2 hmem)

/-- The module of a component loses nothing of its form. Two components with one name and one
module have equally many fields, and the fields are alike in their order, whatever characters
their names, patterns, defaults and options have. -/
theorem Component.fields_alike_of_module {c d : Component} {text : String} (hname : c.name = d.name)
    (hc : c.module = .ok text) (hd : d.module = .ok text) :
    List.Forall₂ Field.Alike c.fields d.fields := by
  obtain ⟨methods, hform⟩ := componentForm_eq c
  obtain ⟨methods', hform'⟩ := componentForm_eq d
  obtain ⟨hwritable, htext⟩ := Number.limited_eq_ok.mp (hform.symm.trans hc)
  obtain ⟨hwritable', htext'⟩ := Number.limited_eq_ok.mp (hform'.symm.trans hd)
  -- what stands in front of the body depends on the name only
  rw [← htext', hname] at htext
  have hcontrols := FormClass.text_inj ((String.append_right_inj _).mp htext)
  rw [List.forall₂_map_left_iff, List.forall₂_map_right_iff] at hcontrols
  refine List.forall₂_iff_zip.mpr ⟨hcontrols.length_eq, fun {f g} hmem => ?_⟩
  obtain ⟨hf, hg⟩ := List.of_mem_zip hmem
  exact Field.alike_of_control (List.all_eq_true.mp hwritable f hf)
    (List.all_eq_true.mp hwritable' g hg) ((List.forall₂_iff_zip.mp hcontrols).2 hmem)

/-- A page whose field has quotes, brackets, commas and backslashes in its name and its pattern. The
constraints stand on the field itself, or in a bundle. -/
def awkwardPage (bundled : Bool) : Component :=
  let pattern := "^[',\\]+\n$"
  { name := "Sign in"
    fields :=
      [if bundled then
        { name := "it's], \\", validations := some { required := true, regex := some pattern } }
      else { name := "it's], \\", required := true, regex := some pattern }] }

theorem fields_alike_awkwardPage :
    ∃ text, (awkwardPage true).name = (awkwardPage false).name ∧
      (awkwardPage true).module = .ok text ∧ (awkwardPage false).module = .ok text ∧
      awkwardPage true ≠ awkwardPage false ∧
      List.Forall₂ Field.Alike (awkwardPage true).fields (awkwardPage false).fields := by
  obtain ⟨methods, hmodule⟩ := componentForm_eq (awkwardPage true)
  have hsame : (awkwardPage false).module = (awkwardPage true).module := rfl
  exact ⟨_, rfl, hmodule, hsame.trans hmodule, by decide,
    Component.fields_alike_of_module rfl hmodule (hsame.trans hmodule)⟩

end Formwork
