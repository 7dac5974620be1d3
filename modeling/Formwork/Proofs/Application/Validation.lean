import Formwork.Proofs.Application.Form

/-!
Validation in the module of a component and in its markup. The module has the expressions that check
a field; the markup marks the label of a field that has to be filled, and has a line for each error
that it tells. The two files are made apart, and they are in step: what the markup shows of the
validation of a field is settled by the expressions in the module and the kind of the control.
-/

namespace Formwork.Application

open Template TypeScript

/-! ### Markup -/

/-- The group that a field is shown as: a control with its label, and the errors that it tells. -/
structure FieldGroup where
  kind : FieldKind
  name : String
  options : List String
  marked : Bool
  requiredError : Option String
  patternError : Option String

namespace FieldGroup

def caption (g : FieldGroup) : String :=
  Naming.labelForm g.name ++ if g.marked then " *" else ""

def opening (g : FieldGroup) : String :=
  match g.kind with
  | .textbox | .textarea | .dropdown => "<label for=\"" ++ g.name ++ "\">"
  | .checkboxlist | .radiobuttonlist => "<label>"
  | .checkbox =>
    lines ["<label>"] ++ "  <input type=\"checkbox\" id=\"" ++ g.name ++ "\" formControlName=\"" ++
      g.name ++ "\" /> "
  | .radiobutton =>
    lines ["<label>"] ++ "  <input type=\"radio\" id=\"" ++ g.name ++ "\" name=\"" ++ g.name ++
      "\" formControlName=\"" ++ g.name ++ "\" [value]=\"true\" /> "

def dropdownChoice (option : String) : String :=
  "  <option value=\"" ++ option ++ "\">" ++ option ++ "</option>"

def checkboxChoice (name option : String) : String :=
  "  <label><input type=\"checkbox\" name=\"" ++ name ++ "\" value=\"" ++ option ++
    "\" [checked]=\"form.get(" ++ literalText (.str name) ++ ")?.value?.includes(" ++
    literalText (.str option) ++ ")\" (change)=\"toggleOption(" ++ literalText (.str name) ++
    ", " ++ literalText (.str option) ++ ", $event)\" /> " ++ option ++ "</label>"

def radioChoice (name option : String) : String :=
  "  <label><input type=\"radio\" name=\"" ++ name ++ "\" formControlName=\"" ++ name ++
    "\" value=\"" ++ option ++ "\" /> " ++ option ++ "</label>"

/-- What stands behind the text of the label, up to the errors. -/
def closing (g : FieldGroup) : String :=
  match g.kind with
  | .textbox =>
    lines ["</label>", "<input type=\"text\" id=\"" ++ g.name ++ "\" formControlName=\"" ++
      g.name ++ "\" class=\"form-control\" />"]
  | .textarea =>
    lines ["</label>", "<textarea id=\"" ++ g.name ++ "\" formControlName=\"" ++ g.name ++
      "\" class=\"form-control\"></textarea>"]
  | .dropdown =>
    lines ["</label>", "<select id=\"" ++ g.name ++ "\" formControlName=\"" ++ g.name ++
      "\" class=\"form-control\">", "  <option value=\"\">-- Select --</option>"] ++
      lines (g.options.map dropdownChoice) ++ lines ["</select>"]
  | .checkbox | .radiobutton => lines ["", "</label>"]
  | .checkboxlist =>
    lines ["</label>", "<div>"] ++ lines (g.options.map (checkboxChoice g.name)) ++ lines ["</div>"]
  | .radiobuttonlist =>
    lines ["</label>", "<div>"] ++ lines (g.options.map (radioChoice g.name)) ++ lines ["</div>"]

def errorLine (name error message : String) : String :=
  "<div *ngIf=\"form.get(" ++ literalText (.str name) ++ ")?.hasError('" ++ error ++
    "') && form.get(" ++ literalText (.str name) ++ ")?.touched\" class=\"text-danger\">" ++
    message ++ "</div>"

def errors (g : FieldGroup) : List String :=
  (g.requiredError.map (errorLine g.name "required")).toList ++
    (g.patternError.map (errorLine g.name "pattern")).toList

def body (g : FieldGroup) : String := g.opening ++ g.caption ++ g.closing ++ lines g.errors

def text (g : FieldGroup) : String :=
  lines ["<div class=\"form-group\">"] ++ "  " ++ Text.indent 2 (Text.dropFinalNewlines g.body) ++
    "\n</div>"

/-- The group of a field. -/
def ofField (f : Field) : FieldGroup where
  kind := f.kind
  name := f.name
  options := f.options
  marked := (CompiledField.ofField f).isRequired
  requiredError :=
    if f.control.showsRequired && (CompiledField.ofField f).isRequired then
      some (CompiledField.ofField f).requiredMessage
    else none
  patternError :=
    if f.control.showsPattern && (CompiledField.ofField f).pattern?.isSome then
      some (CompiledField.ofField f).patternMessage
    else none

end FieldGroup

structure FormPage where
  formClass : String
  columnClass : String
  groups : List FieldGroup
  actionsClass : String
  buttons : List ButtonSpec

namespace FormPage

def column (columnClass : String) (g : FieldGroup) : String :=
  "    <div class=\"" ++ columnClass ++ "\">\n      " ++ Text.indent 6 g.text ++ "\n    </div>"

def button (b : ButtonSpec) : String :=
  "      <button type=\"" ++ b.type ++ "\" class=\"" ++ b.cssClass ++ "\">" ++ b.label ++
    "</button>"

def text (p : FormPage) : String :=
  lines ["<div class=\"container\">",
    "  <form [formGroup]=\"form\" (ngSubmit)=\"onSubmit()\" class=\"" ++ p.formClass ++ "\">"] ++
    lines (p.groups.map (column p.columnClass)) ++
    lines ["    <div class=\"" ++ p.actionsClass ++ "\">"] ++ lines (p.buttons.map button) ++
    lines ["    </div>", "  </form>", "</div>"]

def ofComponent (c : Component) (layout : Layout) : FormPage where
  formClass := layout.formClass
  columnClass := layout.columnText
  groups := c.fields.map FieldGroup.ofField
  actionsClass := layout.actionsClass
  buttons := layout.buttons c.buttons

end FormPage

/-! ### The markup is the text -/

theorem renderAll_literalSlot {s : Scope} {name t : String}
    (h : s.names.lookup name = some (.value (.str t))) (rest : List Piece) :
    renderAll s (literalSlot name :: rest) =
      preceded (literalText (.str t)) (renderAll s rest) := by
  have heval : (Expr.filtered (.named name) .literal).eval s =
      .ok (.value (.str (literalText (.str t)))) := by
    rw [Expr.eval, eval_named h]
    rfl
  exact renderAll_value heval rest

section

variable (f : Field)

abbrev fieldScope : Scope := f.markupScope (.ofField f)

theorem lookup_name : (fieldScope f).names.lookup "name" = some (.value (.str f.name)) := rfl

theorem lookup_compiled :
    (fieldScope f).names.lookup "compiled" = some (.value (.object
      [("required_message", .str (CompiledField.ofField f).requiredMessage),
        ("pattern_message", .str (CompiledField.ofField f).patternMessage)])) := rfl

theorem renderAll_name (rest : List Piece) :
    renderAll (fieldScope f) (slot "name" :: rest) =
      preceded f.name (renderAll (fieldScope f) rest) :=
  renderAll_slot (lookup_name f) rest

theorem renderAll_literalName (rest : List Piece) :
    renderAll (fieldScope f) (literalSlot "name" :: rest) =
      preceded (literalText (.str f.name)) (renderAll (fieldScope f) rest) :=
  renderAll_literalSlot (lookup_name f) rest

theorem renderAll_label (rest : List Piece) :
    renderAll (fieldScope f) (slot "label" :: rest) =
      preceded (Naming.labelForm f.name) (renderAll (fieldScope f) rest) :=
  renderAll_slot rfl rest

theorem renderAll_marker (rest : List Piece) :
    renderAll (fieldScope f) (slot "marker" :: rest) =
      preceded (if (FieldGroup.ofField f).marked then " *" else "")
        (renderAll (fieldScope f) rest) :=
  renderAll_slot rfl rest

/-! #### Errors -/

theorem renderAll_errorBlock {member message : String} (error : String)
    (hmember : Value.member? [("required_message", .str (CompiledField.ofField f).requiredMessage),
      ("pattern_message", .str (CompiledField.ofField f).patternMessage)] member =
        some (.str message)) :
    renderAll (fieldScope f) (Fields.errorBlock error member) =
      .ok (FieldGroup.errorLine f.name error message ++ "\n") := by
  rw [Fields.errorBlock, renderAll_text, renderAll_literalName, renderAll_text,
    renderAll_literalName, renderAll_text, renderAll_slotOf (lookup_compiled f) hmember,
    renderAll_line, renderAll_nil]
  unfold FieldGroup.errorLine
  simp only [preceded_ok, String.append_assoc, String.append_empty]

theorem renderAll_errors :
    renderAll (fieldScope f) Fields.errors = .ok (lines (FieldGroup.ofField f).errors) := by
  rw [Fields.errors,
    renderAll_whenTrue (d := .value (.bool _)) (eval_named rfl) _ _
      fun _ => renderAll_errorBlock f "required" rfl,
    renderAll_whenTrue (d := .value (.bool _)) (eval_named rfl) _ _
      fun _ => renderAll_errorBlock f "pattern" rfl, renderAll_nil]
  simp only [preceded_ok, Datum.toValue, Value.truthy, FieldGroup.errors, FieldGroup.ofField]
  cases f.control.showsRequired && (CompiledField.ofField f).isRequired <;>
    cases f.control.showsPattern && (CompiledField.ofField f).pattern?.isSome <;>
      simp [lines_cons, lines_nil]

/-! #### Controls -/

theorem renderAll_choices {body : List Piece} {text : String → String}
    (h : ∀ option isLast, renderAll ((fieldScope f).round "option" (.value (.str option)) isLast)
      body = .ok (text option ++ "\n")) (rest : List Piece) :
    renderAll (fieldScope f) (.each "option" (.named "options") body :: rest) =
      preceded (lines (f.options.map text)) (renderAll (fieldScope f) rest) := by
  have hitems : (Datum.value (.list (f.options.map .str))).items =
      .ok (f.options.map fun option => .value (.str option)) := by
    rw [Datum.items, List.map_map]
    rfl
  have hrounds := mapM_rounds (fieldScope f) "option" body
    (fun option : String => .value (.str option)) (fun option => text option ++ "\n") h f.options
  rw [renderAll_each (eval_named rfl) hitems hrounds, join_map_line]

theorem lookup_choice_name (option : String) (isLast : Bool) :
    ((fieldScope f).round "option" (.value (.str option)) isLast).names.lookup "name" =
      some (.value (.str f.name)) := rfl

theorem lookup_choice (option : String) (isLast : Bool) :
    ((fieldScope f).round "option" (.value (.str option)) isLast).names.lookup "option" =
      some (.value (.str option)) := rfl

theorem renderAll_dropdownChoice (option : String) (isLast : Bool) :
    renderAll ((fieldScope f).round "option" (.value (.str option)) isLast)
      Fields.dropdownChoice = .ok (FieldGroup.dropdownChoice option ++ "\n") := by
  have hoption := renderAll_slot (lookup_choice f option isLast)
  unfold FieldGroup.dropdownChoice
  simp only [Fields.dropdownChoice, renderAll_text, renderAll_line, renderAll_nil, hoption,
    preceded_ok, String.append_assoc, String.append_empty]

theorem renderAll_checkboxChoice (option : String) (isLast : Bool) :
    renderAll ((fieldScope f).round "option" (.value (.str option)) isLast)
      Fields.checkboxChoice = .ok (FieldGroup.checkboxChoice f.name option ++ "\n") := by
  have hname := renderAll_slot (lookup_choice_name f option isLast)
  have hoption := renderAll_slot (lookup_choice f option isLast)
  have hliteralName := renderAll_literalSlot (lookup_choice_name f option isLast)
  have hliteralOption := renderAll_literalSlot (lookup_choice f option isLast)
  unfold FieldGroup.checkboxChoice
  simp only [Fields.checkboxChoice, renderAll_text, renderAll_line, renderAll_nil, hname, hoption,
    hliteralName, hliteralOption, preceded_ok, String.append_assoc,
    String.append_empty]

theorem renderAll_radioChoice (option : String) (isLast : Bool) :
    renderAll ((fieldScope f).round "option" (.value (.str option)) isLast)
      Fields.radioChoice = .ok (FieldGroup.radioChoice f.name option ++ "\n") := by
  have hname := renderAll_slot (lookup_choice_name f option isLast)
  have hoption := renderAll_slot (lookup_choice f option isLast)
  unfold FieldGroup.radioChoice
  simp only [Fields.radioChoice, renderAll_text, renderAll_line, renderAll_nil, hname, hoption,
    preceded_ok, String.append_assoc, String.append_empty]

theorem renderAll_field :
    renderAll (fieldScope f) f.control.template.pieces = .ok (FieldGroup.ofField f).body := by
  have hname : (FieldGroup.ofField f).name = f.name := rfl
  have hoptions : (FieldGroup.ofField f).options = f.options := rfl
  have hkind : (FieldGroup.ofField f).kind = f.kind := by simp only [FieldGroup.ofField]
  have hcontrol : f.control = f.kind.control := rfl
  unfold FieldGroup.body FieldGroup.opening FieldGroup.closing
  rw [FieldGroup.caption, hname, hoptions, hkind, hcontrol]
  cases f.kind
  all_goals
    simp only [FieldKind.control, Fields.textbox, Fields.textarea, Fields.dropdown,
      Fields.checkbox, Fields.checkboxlist, Fields.radiobutton, Fields.radiobuttonlist,
      Fields.tiedLabel, Fields.groupLabel, Fields.caption, List.cons_append, List.nil_append,
      renderAll_text, renderAll_line, renderAll_name, renderAll_label, renderAll_marker,
      renderAll_choices f (renderAll_dropdownChoice f),
      renderAll_choices f (renderAll_checkboxChoice f),
      renderAll_choices f (renderAll_radioChoice f), renderAll_errors, preceded_ok, lines_cons,
      lines_nil, String.append_assoc, String.append_empty]

end

theorem fieldMarkup_eq (f : Field) : f.markup = .ok (FieldGroup.ofField f).text := by
  let g := FieldGroup.ofField f
  let s : Scope := .ofMembers [("body", .str (Text.dropFinalNewlines g.body))]
  have hindent : (Expr.filtered (.named "body") (.indent 2)).eval s =
      .ok (.value (.str (Text.indent 2 (Text.dropFinalNewlines g.body)))) := rfl
  have hpage : renderAll s Fields.container.pieces = .ok (g.text ++ "\n") := by
    rw [Fields.container, renderAll_line, renderAll_text, renderAll_value hindent, renderAll_line,
      renderAll_line, renderAll_nil, FieldGroup.text]
    simp only [preceded_ok, lines_cons, lines_nil,
      String.append_assoc, String.append_empty, String.empty_append]
    rfl
  -- the last line feed of the template is dropped, and no other character
  have htrim : Text.dropFinalNewlines (g.text ++ "\n") = g.text := by
    have hend : "\n</div>".toList = ['\n', '<', '/', 'd', 'i', 'v'] ++ ['>'] := rfl
    rw [FieldGroup.text, String.append_assoc]
    exact dropFinalNewlines_line _ "\n</div>" hend (by decide)
  have hbody : f.control.template.render (fieldScope f) = .ok g.body := renderAll_field f
  have htext : Fields.container.render s = .ok (g.text ++ "\n") := hpage
  rw [Field.markup, Field.markupWith, hbody]
  simp only [bind, Except.bind, s] at htext ⊢
  rw [htext]
  exact congrArg Except.ok htrim

section

variable (c : Component) (layout : Layout)

def pageScope : Scope :=
  .ofMembers
    [("fragments", .list ((c.fields.map fun f => (FieldGroup.ofField f).text).map .str)),
      ("layout_class", .str layout.formClass), ("column_class", .str layout.columnText),
      ("actions_class", .str layout.actionsClass),
      ("buttons", .list ((layout.buttons c.buttons).map Component.buttonEntry))]

theorem renderAll_column (g : FieldGroup) (isLast : Bool) :
    renderAll ((pageScope c layout).round "fragment" (.value (.str g.text)) isLast)
      Template.Pages.column = .ok (FormPage.column layout.columnText g ++ "\n") := by
  let round := (pageScope c layout).round "fragment" (.value (.str g.text)) isLast
  have hclass : round.names.lookup "column_class" = some (.value (.str layout.columnText)) := rfl
  have hindent : (Expr.filtered (.named "fragment") (.indent 6)).eval round =
      .ok (.value (.str (Text.indent 6 g.text))) := rfl
  rw [Template.Pages.column, renderAll_text, renderAll_slot hclass, renderAll_line, renderAll_text,
    renderAll_value hindent, renderAll_line, renderAll_line, renderAll_nil]
  unfold FormPage.column
  simp only [preceded_ok, String.append_assoc, String.append_empty,
    String.empty_append]
  rfl

theorem renderAll_columns (rest : List Piece) :
    renderAll (pageScope c layout)
        (.each "fragment" (.named "fragments") Template.Pages.column :: rest) =
      preceded (lines ((FormPage.ofComponent c layout).groups.map
        (FormPage.column layout.columnText))) (renderAll (pageScope c layout) rest) := by
  have hitems : (Datum.value (.list
      ((c.fields.map fun f => (FieldGroup.ofField f).text).map .str))).items =
        .ok ((FormPage.ofComponent c layout).groups.map fun g => .value (.str g.text)) := by
    simp only [Datum.items, List.map_map, FormPage.ofComponent]
    rfl
  have hrounds := mapM_rounds (pageScope c layout) "fragment" Template.Pages.column
    (fun g : FieldGroup => .value (.str g.text))
    (fun g => FormPage.column layout.columnText g ++ "\n") (renderAll_column c layout)
    (FormPage.ofComponent c layout).groups
  rw [renderAll_each (eval_named rfl) hitems hrounds, join_map_line]

theorem renderAll_button (b : ButtonSpec) (isLast : Bool) :
    renderAll ((pageScope c layout).round "button" (.value (Component.buttonEntry b)) isLast)
      Template.Pages.button = .ok (FormPage.button b ++ "\n") := by
  have hbutton : ((pageScope c layout).round "button" (.value (Component.buttonEntry b))
      isLast).names.lookup "button" = some (.value (Component.buttonEntry b)) := rfl
  rw [Template.Pages.button, renderAll_text, renderAll_slotOf hbutton rfl, renderAll_text,
    renderAll_slotOf hbutton rfl, renderAll_text, renderAll_slotOf hbutton rfl, renderAll_line,
    renderAll_nil]
  unfold FormPage.button
  simp only [preceded_ok, String.append_assoc, String.append_empty]

theorem renderAll_buttons (rest : List Piece) :
    renderAll (pageScope c layout)
        (.each "button" (.named "buttons") Template.Pages.button :: rest) =
      preceded (lines ((layout.buttons c.buttons).map FormPage.button))
        (renderAll (pageScope c layout) rest) := by
  have hitems : (Datum.value (.list ((layout.buttons c.buttons).map Component.buttonEntry))).items =
      .ok ((layout.buttons c.buttons).map fun b => .value (Component.buttonEntry b)) := by
    rw [Datum.items, List.map_map]
    rfl
  have hrounds := mapM_rounds (pageScope c layout) "button" Template.Pages.button
    (fun b => .value (Component.buttonEntry b)) (fun b => FormPage.button b ++ "\n")
    (renderAll_button c layout) (layout.buttons c.buttons)
  rw [renderAll_each (eval_named rfl) hitems hrounds, join_map_line]

/-- The markup of a component has the groups of its fields, in their order. It is written if the
number of columns can be. -/
theorem formPage_eq :
    c.markup layout =
      Number.limited tooLong layout.isWritable (FormPage.ofComponent c layout).text := by
  have hfragments : c.fields.mapM Field.markup =
      .ok (c.fields.map fun f => (FieldGroup.ofField f).text) := by
    rw [funext fieldMarkup_eq]
    exact List.mapM_pure
  have hpage : renderAll (pageScope c layout) Template.Pages.markup.pieces =
      .ok (FormPage.ofComponent c layout).text := by
    have hform : (pageScope c layout).names.lookup "layout_class" =
        some (.value (.str layout.formClass)) := rfl
    have hactions : (pageScope c layout).names.lookup "actions_class" =
        some (.value (.str layout.actionsClass)) := rfl
    rw [Template.Pages.markup, renderAll_line, renderAll_text, renderAll_slot hform,
      renderAll_line, renderAll_columns, renderAll_text, renderAll_slot hactions, renderAll_line,
      renderAll_buttons, renderAll_line, renderAll_line, renderAll_line, renderAll_nil]
    unfold FormPage.text
    simp only [preceded_ok, FormPage.ofComponent, lines_cons, lines_nil, String.append_assoc,
      String.append_empty]
  rw [Component.markup, hfragments, layout.columnClass_eq, Number.limited_mapError]
  cases layout.isWritable
  · rfl
  · exact hpage

end

/-! ### Expressions that check -/

/-- An expression that checks a pattern. -/
def ChecksPattern (validator : String) : Prop :=
  "Validators.pattern(".toList <+: validator.toList

instance (validator : String) : Decidable (ChecksPattern validator) :=
  inferInstanceAs (Decidable (_ <+: _))

theorem validatorText_eq_required_iff (d : Directive) :
    d.validatorText = "Validators.required" ↔ d.kind = .required := by
  refine ⟨fun h => ?_, fun h => ?_⟩
  · have hsame : d.validatorText = (⟨.required, .null⟩ : Directive).validatorText := h
    exact (Directive.validatorText_inj hsame).1
  · rw [Directive.validatorText, Directive.validatorWith, h]

theorem checksPattern_validatorText_iff (d : Directive) :
    ChecksPattern d.validatorText ↔ d.kind = .pattern := by
  have hframe : "Validators.pattern(".toList = "Validators.".toList ++ "pattern(".toList := rfl
  rw [ChecksPattern, Directive.toList_validatorText, hframe, List.prefix_append_right_inj]
  refine ⟨fun ⟨rest, h⟩ => ?_, fun h => ?_⟩
  · -- the name of a validator ends at its bracket
    have hname := congrArg (List.takeWhile (· ≠ '(')) h
    rw [Directive.takeWhile_validatorName_append_call] at hname
    have hpattern : DirectiveKind.pattern.validatorName = d.kind.validatorName :=
      String.toList_injective hname
    exact (Directive.validatorName_injective hpattern).symm
  · rw [h, Directive.call, if_neg (by rw [h]; decide)]
    exact List.prefix_append "pattern(".toList _

/-- A field has to be filled exactly if its control is checked for that. -/
theorem isRequired_iff (f : Field) :
    (CompiledField.ofField f).isRequired = true ↔
      "Validators.required" ∈ (Control.ofField f).validators := by
  show (Directive.ofField f).any (·.kind == .required) = true ↔
    "Validators.required" ∈ (Directive.ofField f).map Directive.validatorText
  simp only [List.any_eq_true, beq_iff_eq, List.mem_map, validatorText_eq_required_iff]

/-- A field has a pattern exactly if its control is checked for one. -/
theorem isSome_pattern?_iff (f : Field) :
    (CompiledField.ofField f).pattern?.isSome = true ↔
      ∃ v ∈ (Control.ofField f).validators, ChecksPattern v := by
  show (((Directive.ofField f).find? (·.kind == .pattern)).map (·.argument.display)).isSome = true ↔
    ∃ v ∈ (Directive.ofField f).map Directive.validatorText, ChecksPattern v
  simp only [Option.isSome_map, List.find?_isSome, beq_iff_eq, List.mem_map,
    exists_exists_and_eq_and, checksPattern_validatorText_iff]

/-! ### Module and markup -/

/-- A group shows the validation of a field, of which a module has the given expressions. -/
structure FieldGroup.InStep (f : Field) (validators : List String) (g : FieldGroup) : Prop where
  kind : g.kind = f.kind
  name : g.name = f.name
  options : g.options = f.options
  marked : g.marked = true ↔ "Validators.required" ∈ validators
  required : ∀ message, g.requiredError = some message ↔
    message = CompiledField.messageOr f.validationMessage
        (Naming.labelForm f.name ++ " is required") ∧
      "Validators.required" ∈ validators ∧
      f.kind ∈ [.textbox, .textarea, .dropdown, .radiobuttonlist]
  pattern : ∀ message, g.patternError = some message ↔
    message = CompiledField.messageOr f.validationMessage (f.name ++ " format is invalid") ∧
      (∃ v ∈ validators, ChecksPattern v) ∧ f.kind = .textbox

theorem showsRequired_iff (k : FieldKind) :
    k.control.showsRequired = true ↔ k ∈ [.textbox, .textarea, .dropdown, .radiobuttonlist] := by
  cases k <;> decide

theorem showsPattern_iff (k : FieldKind) : k.control.showsPattern = true ↔ k = .textbox := by
  cases k <;> decide

theorem error_eq_some_iff {shown possible : Bool} {message told : String} :
    (if shown && possible then some message else none) = some told ↔
      told = message ∧ possible = true ∧ shown = true := by
  cases shown <;> cases possible <;> simp [eq_comm]

theorem FieldGroup.inStep_ofField (f : Field) :
    FieldGroup.InStep f (Control.ofField f).validators (FieldGroup.ofField f) where
  kind := by simp only [FieldGroup.ofField]
  name := rfl
  options := rfl
  marked := isRequired_iff f
  required told := by
    have hmessage : (CompiledField.ofField f).requiredMessage = CompiledField.messageOr
        f.validationMessage (Naming.labelForm f.name ++ " is required") := by
      simp only [CompiledField.ofField]
    simp only [FieldGroup.ofField, Field.control, error_eq_some_iff, hmessage, isRequired_iff,
      showsRequired_iff]
  pattern told := by
    have hmessage : (CompiledField.ofField f).patternMessage = CompiledField.messageOr
        f.validationMessage (f.name ++ " format is invalid") := by
      simp only [CompiledField.ofField]
    simp only [FieldGroup.ofField, Field.control, error_eq_some_iff, hmessage,
      isSome_pattern?_iff, showsPattern_iff]

end Formwork.Application

namespace Formwork

open Application

/-- Module and markup of a component agree about the validation of its fields. The module has a
control for each field, with the expressions that check it, and the markup has a group for each
field, in the same order; only a number that is too long keeps either from being written. Whatever
the constraints of a field are and wherever they come from, its label is marked if and only if the
control is checked by `Validators.required`; the error for that is told by text boxes, text areas,
drop-down lists and lists of radio buttons, and the error for a pattern by text boxes whose control
is checked by a `Validators.pattern`, and by no others. -/
theorem Component.validation_in_step (c : Component) (layout : Layout) :
    ∃ (methods : String) (groups : List FieldGroup),
      c.module = Number.limited Template.tooLong c.isWritable (ComponentModule.text
        { className := Naming.classForm c.name ++ "Component"
          selector := "app-" ++ Naming.pathForm c.name
          slug := Naming.pathForm c.name
          body := FormClass.text { controls := c.fields.map Control.ofField, methods } }) ∧
      c.markup layout = Number.limited Template.tooLong layout.isWritable (FormPage.text
        { formClass := layout.formClass
          columnClass := layout.columnText
          groups
          actionsClass := layout.actionsClass
          buttons := layout.buttons c.buttons }) ∧
      List.Forall₂ (fun f g => FieldGroup.InStep f (Control.ofField f).validators g)
        c.fields groups := by
  obtain ⟨methods, hmodule⟩ := componentForm_eq c
  refine ⟨methods, c.fields.map FieldGroup.ofField, hmodule, formPage_eq c layout, ?_⟩
  rw [List.forall₂_map_right_iff, List.forall₂_same]
  exact fun f _ => FieldGroup.inStep_ofField f

-- a check box that has to be set is marked, and tells no error
example :
    let f : Field :=
      { name := "terms", declaredKind := " CheckBox", required := true, regex := some "a+" }
    (Control.ofField f).validators = ["Validators.required", "Validators.pattern('a+')"] ∧
      (FieldGroup.ofField f).marked = true ∧ (FieldGroup.ofField f).errors = [] := by
  decide +kernel

end Formwork
