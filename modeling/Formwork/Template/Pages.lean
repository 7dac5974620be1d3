import Formwork.Template.Basic

/-!
Templates of the files of a component: module, markup and style sheet. A brace that is text is
written as `\x7b` or `\x7d`.
-/

namespace Formwork.Template.Pages

def control : List Piece :=
  [.text "      ", .value (.filtered (.member (.named "control") "name") .literal), .text ": [",
    .value (.filtered (.member (.named "control") "initial") .literal), .text ", [",
    .value (.filtered (.member (.named "control") "validators") (.join ", ")), line "]],"]

/-- The method that keeps the selection of a list of check boxes. -/
def toggleMethod : List Piece :=
  [line "",
    line "  toggleOption(controlName: string, option: string, event: Event): void \x7b",
    line "    const control = this.form.get(controlName);",
    line "    if (!control) \x7b",
    line "      return;",
    line "    \x7d",
    line "    const checked = (event.target as HTMLInputElement).checked;",
    line "    const selected: string[] = control.value ?? [];",
    .text "    control.setValue(checked ? [...selected, option] : ",
    line "selected.filter((value) => value !== option));",
    line "    control.markAsTouched();",
    line "  \x7d"]

/-- The class of a component. -/
def classModule : Template where
  name := "component/component.ts.j2"
  pieces :=
    [line "import \x7b Component \x7d from '@angular/core';",
      line "import \x7b FormBuilder, FormGroup, Validators \x7d from '@angular/forms';",
      line "",
      line "@Component(\x7b",
      .text "  selector: '", slot "selector", line "',",
      .text "  templateUrl: './", slot "slug", line ".component.html',",
      .text "  styleUrls: ['./", slot "slug", line ".component.css']",
      line "\x7d)",
      .text "export class ", slot "class_name", line " \x7b",
      line "  form: FormGroup;",
      line "",
      line "  constructor(private fb: FormBuilder) \x7b",
      line "    this.form = this.fb.group(\x7b",
      .each "control" (.named "controls") control,
      line "    \x7d);",
      line "  \x7d",
      .whenTrue (.named "has_option_lists") toggleMethod,
      line "",
      line "  onSubmit(): void \x7b",
      line "    if (this.form.valid) \x7b",
      line "      console.log('Form submitted:', this.form.value);",
      line "    \x7d else \x7b",
      line "      this.form.markAllAsTouched();",
      line "      console.error('Form validation failed.');",
      line "    \x7d",
      line "  \x7d",
      line "\x7d"]

def column : List Piece :=
  [.text "    <div class=\"", slot "column_class", line "\">",
    .text "      ", .value (.filtered (.named "fragment") (.indent 6)), line "",
    line "    </div>"]

def button : List Piece :=
  [.text "      <button type=\"", slotOf "button" "type", .text "\" class=\"",
    slotOf "button" "css_class", .text "\">", slotOf "button" "label", line "</button>"]

/-- The form of a component. -/
def markup : Template where
  name := "component/component.html.j2"
  pieces :=
    [line "<div class=\"container\">",
      .text "  <form [formGroup]=\"form\" (ngSubmit)=\"onSubmit()\" class=\"", slot "layout_class",
      line "\">",
      .each "fragment" (.named "fragments") column,
      .text "    <div class=\"", slot "actions_class", line "\">",
      .each "button" (.named "buttons") button,
      line "    </div>",
      line "  </form>",
      line "</div>"]

/-- The rules of the custom grid. -/
def gridRules : List Piece :=
  [line ".custom-layout \x7b",
    line "  display: flex;",
    line "  flex-wrap: wrap;",
    line "  gap: 1rem;",
    line "\x7d",
    line "",
    .text ".custom-col-", slot "column_layout", line " \x7b",
    .text "  flex: 0 0 calc(100% / ", slot "column_layout", line " - 1rem);",
    line "\x7d",
    line "",
    line ".custom-actions \x7b",
    line "  flex: 0 0 100%;",
    line "\x7d",
    line "",
    line ".text-danger \x7b",
    line "  color: #dc3545;",
    line "\x7d"]

def style : Template where
  name := "component/component.css.j2"
  pieces :=
    [.whenFalse (.named "use_bootstrap") gridRules]

end Formwork.Template.Pages
