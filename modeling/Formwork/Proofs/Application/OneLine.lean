import Formwork.Proofs.Application.Constraints
import Formwork.Proofs.Application.Form
import Formwork.Proofs.TypeScript.Literals

/-!
Controls and their lines. The control of a field is one line of the form group exactly if no line
breaks in a text that is written in it: the name of the field, its default, and the pattern that it
has to match. Literals escape quotes and backslashes and leave line breaks as they are, and nothing
else of a control has any.
-/

namespace Formwork.TypeScript

/-! ### Line breaks of literals -/

theorem Numeral.any_breaksLine {cs : List Char} (h : Numeral cs) : cs.any breaksLine = false := by
  refine List.any_eq_false.mpr fun c hc hbreak => ?_
  have hnumeral := h c hc
  simp only [breaksLine, Bool.or_eq_true, decide_eq_true_eq] at hbreak
  rcases hbreak with rfl | rfl <;> exact absurd hnumeral (by decide)

theorem any_quotedChars (cs : List Char) : (quotedChars cs).any breaksLine = cs.any breaksLine := by
  have hquote : breaksLine '\'' = false := by decide
  have hbackslash : breaksLine '\\' = false := by decide
  have hescape : ∀ c, (escapeChar c).any breaksLine = breaksLine c := fun c => by
    rw [escapeChar]
    split <;> simp [hbackslash]
  rw [quotedChars]
  simp only [List.cons_append, List.any_cons, List.any_append, List.any_flatMap, hescape, hquote,
    List.any_nil, Bool.or_false, Bool.false_or]

theorem any_intercalate {α : Type} {p : α → Bool} {separator : List α}
    (hseparator : separator.any p = false) (items : List (List α)) :
    (separator.intercalate items).any p = items.any fun item => item.any p := by
  induction items with
  | nil => rfl
  | cons item items ih =>
      cases items with
      | nil => simp
      | cons next items =>
          rw [List.intercalate_cons_cons, List.any_append, List.any_append, ih, hseparator,
            Bool.or_false]
          rfl

mutual

theorem any_literalChars (v : Value) : (literalChars v).any breaksLine = v.breaksLine := by
  cases v with
  | null => decide
  | bool b => cases b <;> decide
  | int n =>
      rw [literalChars]
      exact (numeral_toString n).any_breaksLine
  | float x =>
      rw [literalChars]
      match x with
      | .nan => decide
      | .infinite negative => cases negative <;> decide
      | .finite negative m e => exact (isNumber_floatLiteral negative m e).2.any_breaksLine
  | str s => rw [literalChars_str, any_quotedChars, Value.breaksLine]
  | list items =>
      have hseparator : [',', ' '].any breaksLine = false := by decide
      have hopen : breaksLine '[' = false := by decide
      have hclose : breaksLine ']' = false := by decide
      rw [literalChars, Value.breaksLine, Value.anyBreaksLine_eq, literalItems_eq, List.cons_append,
        List.any_cons, List.any_append, any_intercalate hseparator, List.any_map, hopen,
        List.any_cons, hclose, List.any_nil, Bool.false_or, Bool.or_false, Bool.or_false]
      exact any_literalChars_items items
  | object members => rw [literalChars, any_quotedChars, Value.breaksLine]

theorem any_literalChars_items : ∀ items : List Value,
    (items.any fun v => (literalChars v).any breaksLine) = items.any Value.breaksLine
  | [] => rfl
  | v :: items => by
      rw [List.any_cons, List.any_cons, any_literalChars v, any_literalChars_items items]

end

theorem any_literalText (v : Value) : (literalText v).toList.any breaksLine = v.breaksLine := by
  rw [literalText, String.toList_ofList, any_literalChars]

end Formwork.TypeScript

namespace Formwork

open Application TypeScript

/-! ### Texts of a control -/

def DefaultValue.strings : DefaultValue → List String
  | .text s => [s]
  | .texts items => items
  | .bool _ | .number _ => []

/-- A text that is written in the control of a field: the name of the field, a text of the default
that its bundle gives, or the pattern that counts. -/
inductive Field.Writes (f : Field) : String → Prop
  | name : f.Writes f.name
  | default {standard : DefaultValue} {s : String}
    (h : f.validations.bind (·.defaultValue) = some standard) (hs : s ∈ standard.strings) :
    f.Writes s
  | pattern {regex : String} (h : f.Sets ⟨.pattern, .str regex⟩) : f.Writes regex

theorem DefaultValue.breaksLine_toValue (d : DefaultValue) :
    d.toValue.breaksLine = d.strings.any fun s => s.toList.any breaksLine := by
  cases d with
  | bool b => rfl
  | number n => cases n <;> rfl
  | text s => simp [toValue, Value.breaksLine, strings]
  | texts items =>
      rw [toValue, Value.breaksLine, Value.anyBreaksLine_eq, List.any_map, strings]
      rfl

theorem Field.breaksLine_initialValue (f : Field) : f.initialValue.breaksLine = true ↔
    ∃ standard, f.validations.bind (·.defaultValue) = some standard ∧
      ∃ s ∈ standard.strings, s.toList.any breaksLine = true := by
  have hvalue : f.initialValue.breaksLine =
      ((f.validations.bind (·.defaultValue)).map fun d => d.toValue.breaksLine).getD false := by
    rw [initialValue]
    cases hdefault : f.validations.bind (·.defaultValue) with
    | none =>
        rw [control]
        cases f.kind <;> rfl
    | some standard =>
        cases standard with
        | texts items => rfl
        | _ =>
            simp only
            split
            · simp [Value.breaksLine, Value.anyBreaksLine]
            · rfl
  rw [hvalue]
  cases f.validations.bind (·.defaultValue) with
  | none => simp
  | some standard => simp [DefaultValue.breaksLine_toValue]

theorem Directive.any_validatorText {d : Directive} (h : d.HasArgument) :
    d.validatorText.toList.any breaksLine = d.argument.breaksLine := by
  obtain ⟨kind, argument⟩ := d
  have hopen : ∀ kind : DirectiveKind,
      ("Validators." ++ kind.validatorName ++ "(").toList.any breaksLine = false := by
    intro kind
    cases kind <;> decide
  have hclose : ")".toList.any breaksLine = false := by decide
  cases kind with
  | required =>
      rw [show argument = .null from h.required rfl]
      decide
  | _ =>
      rw [validatorText, validatorWith, String.toList_append, String.toList_append,
        List.any_append, List.any_append,
        any_literalText, hopen, hclose, Bool.false_or, Bool.or_false]

theorem Field.any_directives_iff (f : Field) :
    ((Directive.ofField f).any fun d => d.argument.breaksLine) = true ↔
      ∃ regex, f.Sets ⟨.pattern, .str regex⟩ ∧ regex.toList.any breaksLine = true := by
  rw [List.any_eq_true]
  constructor
  · rintro ⟨d, hd, hbreaks⟩
    have hnumber : ∀ n : Number, n.toValue.breaksLine = false := by
      intro n
      cases n <;> rfl
    have hset := Directive.mem_ofField.mp hd
    have hpattern : ∃ regex, d = ⟨.pattern, .str regex⟩ := by
      cases hset with
      | required => cases hbreaks
      | pattern => exact ⟨_, rfl⟩
      | bundle _ h =>
          cases h with
          | pattern => exact ⟨_, rfl⟩
          | min | max => exact absurd hbreaks (by simp [hnumber])
          | _ => cases hbreaks
    obtain ⟨regex, rfl⟩ := hpattern
    exact ⟨regex, hset, hbreaks⟩
  · rintro ⟨regex, hset, hbreaks⟩
    exact ⟨_, Directive.mem_ofField.mpr hset, hbreaks⟩

theorem Application.Control.any_text (c : Control) (h : ∀ d ∈ c.directives, d.HasArgument) :
    c.text.toList.any breaksLine =
      (c.name.toList.any breaksLine || c.initial.breaksLine ||
        c.directives.any fun d => d.argument.breaksLine) := by
  have hcomma : ", ".toList.any breaksLine = false := by decide
  have hvalidators : (", ".intercalate c.validators).toList.any breaksLine =
      c.directives.any fun d => d.argument.breaksLine := by
    rw [String.toList_intercalate, any_intercalate hcomma, validators, List.map_map, List.any_map,
      Bool.eq_iff_iff, List.any_eq_true, List.any_eq_true]
    refine exists_congr fun d => and_congr_right fun hd => ?_
    rw [← Directive.any_validatorText (h d hd)]
    rfl
  rw [text]
  simp only [String.toList_append, List.any_append, any_literalText, hvalidators, Value.breaksLine]
  have hmargin : "      ".toList.any breaksLine = false := by decide
  have hname : ": [".toList.any breaksLine = false := by decide
  have hlist : ", [".toList.any breaksLine = false := by decide
  have hend : "]],".toList.any breaksLine = false := by decide
  rw [hmargin, hname, hlist, hend]
  simp only [Bool.or_false, Bool.false_or]

/-- A control is one line exactly if no line breaks in a text that is written in it. -/
theorem Field.any_control_iff (f : Field) : (Control.ofField f).text.toList.any breaksLine = true ↔
    ∃ s, f.Writes s ∧ s.toList.any breaksLine = true := by
  rw [Control.any_text _ fun d hd => Directive.hasArgument_of_mem_ofField hd, Bool.or_eq_true,
    Bool.or_eq_true]
  show (f.name.toList.any breaksLine = true ∨ f.initialValue.breaksLine = true) ∨
    ((Directive.ofField f).any fun d => d.argument.breaksLine) = true ↔ _
  rw [f.breaksLine_initialValue, f.any_directives_iff]
  constructor
  · rintro ((h | ⟨standard, hstandard, s, hs, h⟩) | ⟨regex, hset, h⟩)
    · exact ⟨f.name, .name, h⟩
    · exact ⟨s, .default hstandard hs, h⟩
    · exact ⟨regex, .pattern hset, h⟩
  · rintro ⟨s, hs, h⟩
    cases hs with
    | name => exact .inl (.inl h)
    | default hstandard hs => exact .inl (.inr ⟨_, hstandard, s, hs, h⟩)
    | pattern hset => exact .inr ⟨s, hset, h⟩

/-- Literals and the lines that they are written in. The literal of a value is one literal, of which
each word and number is well formed and each text is what the value has, unless a line breaks in a
text of the value; then it is no literal. A number that is too long has none. The form group of a
component has the controls of its fields, and a control stays on its line unless a line breaks in a
text that is written in it: the name of the field, its default, or its pattern. -/
theorem literals_on_one_line (v : Value) (c : Component) :
    literal v = Number.limited {} v.isWritable (literalText v) ∧
    (literal? (literalText v).toList =
      if v.breaksLine then none else some (Literal.ofValue v)) ∧
    (∃ methods, c.module = Number.limited Template.tooLong c.isWritable (ComponentModule.text
      { className := Naming.classForm c.name ++ "Component"
        selector := "app-" ++ Naming.pathForm c.name
        slug := Naming.pathForm c.name
        body := FormClass.text { controls := c.fields.map Control.ofField, methods } })) ∧
    ∀ f ∈ c.fields, (Control.ofField f).text.toList.any breaksLine = true ↔
      ∃ s, f.Writes s ∧ s.toList.any breaksLine = true := by
  refine ⟨rfl, ?_, componentForm_eq c, fun f _ => f.any_control_iff⟩
  rw [literalText, String.toList_ofList, literal?_literalChars]

end Formwork
