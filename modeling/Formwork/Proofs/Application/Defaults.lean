import Formwork.Proofs.Application.Form
import Formwork.Proofs.Schema.Values
import Formwork.Proofs.TypeScript.Strict

/-!
Defaults, from the document to the module. A truth value, a whole number, a text and a list of texts
are kept as they are when a field is read, and the control of the field starts with the literal of
what was kept; only a list of check boxes makes a list of a single default. The literal denotes the
default, kind and value, as long as no line breaks in a text of it: line breaks are not escaped, and
a quoted literal may not hold them.
-/

namespace Formwork

open Application TypeScript

/-! ### Defaults that are given -/

/-- A default in a document: a truth value, a whole number, a text or a list of texts. -/
inductive GivenDefault
  | bool (b : Bool)
  | int (n : Int)
  | text (s : String)
  | texts (items : List String)

namespace GivenDefault

def document : GivenDefault → Document
  | .bool b => .bool b
  | .int n => .int n
  | .text s => .text s
  | .texts items => .list (items.map .text)

def kept : GivenDefault → DefaultValue
  | .bool b => .bool b
  | .int n => .number (.int n)
  | .text s => .text s
  | .texts items => .texts items

def isList : GivenDefault → Bool
  | .texts _ => true
  | _ => false

def breaksLine : GivenDefault → Bool
  | .bool _ | .int _ => false
  | .text s => s.toList.any TypeScript.breaksLine
  | .texts items => items.any fun s => s.toList.any TypeScript.breaksLine

def literal (g : GivenDefault) : String := literalText g.kept.toValue

/-- What a control starts with. A list of check boxes starts with a list. -/
def seed (g : GivenDefault) (kind : FieldKind) : String :=
  if kind = .checkboxlist ∧ g.isList = false then "[" ++ g.literal ++ "]" else g.literal

/-- Whether a literal denotes a default: it is one of two words, the decimal digits of a number, a
quoted text, or a list of quoted texts. -/
def Denotes (cs : List Char) : GivenDefault → Prop
  | .bool b => cs = (if b then "true" else "false").toList
  | .int n => cs = (toString n).toList
  | .text s => Quotes cs s.toList
  | .texts items => ∃ literals, List.Forall₂ Quotes literals (items.map String.toList) ∧
    cs = '[' :: row literals []

theorem literalItems_append_bracket (items : List String) (rest : List Char) :
    literalItems (items.map .str) ++ ']' :: rest =
      row ((items.map String.toList).map quotedChars) rest := by
  induction items with
  | nil => rfl
  | cons s items ih =>
      cases items with
      | nil => simp [literalItems, row, literalChars_str]
      | cons t items =>
          simp only [List.map_cons] at ih ⊢
          rw [literalItems, row, ← ih, literalChars_str]
          · simp
          · simp
          · simp

theorem toList_literal_texts (items : List String) :
    (GivenDefault.texts items).literal.toList =
      '[' :: row ((items.map String.toList).map quotedChars) [] := by
  rw [← literalItems_append_bracket, literal, literalText, String.toList_ofList, kept,
    DefaultValue.toValue, literalChars]
  rfl

/-- The literal of a default denotes it exactly if no line breaks in a text of it. -/
theorem denotes_literal_iff (g : GivenDefault) :
    Denotes g.literal.toList g ↔ g.breaksLine = false := by
  cases g with
  | bool b => exact iff_of_true (by cases b <;> rfl) rfl
  | int n =>
      have hliteral : (GivenDefault.int n).literal = toString n := by
        simp [literal, literalText, kept, DefaultValue.toValue, Number.toValue, literalChars]
      exact iff_of_true (congrArg String.toList hliteral) rfl
  | text s =>
      have hliteral : (GivenDefault.text s).literal.toList = quotedChars s.toList := by
        rw [literal, literalText, String.toList_ofList, kept, DefaultValue.toValue,
          literalChars_str]
      rw [hliteral, Denotes, quotes_quotedChars_iff, breaksLine]
      exact and_iff_right rfl
  | texts items =>
      have hbreaks : (GivenDefault.texts items).breaksLine = false ↔
          ∀ text ∈ items.map String.toList, text.any TypeScript.breaksLine = false := by
        simp [breaksLine]
      rw [hbreaks, ← quotes_row_iff [], Denotes, toList_literal_texts]
      simp only [List.cons.injEq, true_and, eq_comm]

/-! ### Reading -/

theorem readItems_texts (items : List String) (first : Nat) :
    Schema.readItems Schema.readText first (items.map .text) = .value items := by
  induction items generalizing first with
  | nil => rfl
  | cons s items ih =>
      rw [List.map_cons, Schema.readItems, ih]
      rfl

/-- A default is read as what it is, and never at fault. -/
theorem readDefaultValue_document (g : GivenDefault) :
    Schema.readDefaultValue g.document = .value g.kept := by
  cases g with
  | bool b => rfl
  | int n => rfl
  | text s => rfl
  | texts items =>
      have hlist : Schema.readList Schema.readText (.list (items.map .text)) = .value items :=
        readItems_texts items 0
      rw [document, Schema.readDefaultValue, hlist]
      · rfl
      all_goals simp

/-! ### Seeds -/

theorem literal_wrapped (g : GivenDefault) :
    literalText (.list [g.kept.toValue]) = "[" ++ g.literal ++ "]" := by
  rw [literal, ← String.toList_inj]
  simp [literalText, literalChars, literalItems]

theorem initialValue_of_kept {g : GivenDefault} {f : Field}
    (h : f.validations.bind (·.defaultValue) = some g.kept) :
    f.initialValue = if f.kind = .checkboxlist ∧ g.isList = false then .list [g.kept.toValue]
      else g.kept.toValue := by
  have hholds : f.control.holdsList = decide (f.kind = .checkboxlist) := by
    rw [Field.control]
    cases f.kind <;> rfl
  rw [Field.initialValue, h, hholds]
  cases g <;> by_cases hkind : f.kind = .checkboxlist <;> simp [hkind, kept, isList]

theorem literal_initialValue {g : GivenDefault} {f : Field}
    (h : f.validations.bind (·.defaultValue) = some g.kept) :
    literalText f.initialValue = g.seed f.kind := by
  rw [initialValue_of_kept h, seed]
  split
  · exact g.literal_wrapped
  · rfl

end GivenDefault

/-! ### Fields -/

namespace Schema

theorem validations_of_readField {entries : List (Document × Document)} {d : Document} {f : Field}
    (hd : member? entries ["validations"] = some d) (hf : readField (.map entries) = .value f) :
    (readOptional readValidationBundle d).value? = some f.validations := by
  have hvalue : (readField (.map entries)).value? = some f := congrArg Reading.value? hf
  simp only [readField, readRecord, Reading.value?_seq, Reading.value?_mapped,
    Option.bind_eq_some_iff, Option.map_eq_some_iff] at hvalue
  obtain ⟨_, ⟨_, ⟨_, ⟨_, ⟨_, ⟨_, ⟨name, -, rfl⟩, kind, -, rfl⟩, required, -, rfl⟩, regex, -, rfl⟩,
    options, -, rfl⟩, message, -, rfl⟩, validations, hvalidations, rfl⟩ := hvalue
  rwa [readDefaulted, value?_readMember, hd] at hvalidations

theorem defaultValue_of_readValidationBundle {entries : List (Document × Document)} {d : Document}
    {b : ValidationBundle} (hd : member? entries ["defaultValue", "default_value"] = some d)
    (hb : (readValidationBundle (.map entries)).value? = some b) :
    (readOptional readDefaultValue d).value? = some b.defaultValue := by
  simp only [readValidationBundle, readRecord, Reading.value?_seq, Reading.value?_mapped,
    Option.bind_eq_some_iff, Option.map_eq_some_iff] at hb
  obtain ⟨_, ⟨_, ⟨_, ⟨_, ⟨_, ⟨required, -, rfl⟩, least, -, rfl⟩, most, -, rfl⟩, regex, -, rfl⟩,
    range, -, rfl⟩, standard, hstandard, rfl⟩ := hb
  rwa [readDefaulted, value?_readMember, hd] at hstandard

theorem kept_of_readField {entries bundle : List (Document × Document)} {g : GivenDefault}
    {f : Field} (hbundle : member? entries ["validations"] = some (.map bundle))
    (hdefault : member? bundle ["defaultValue", "default_value"] = some g.document)
    (hf : readField (.map entries) = .value f) :
    f.validations.bind (·.defaultValue) = some g.kept := by
  -- no default is null, so a default that is there is not taken for a missing one
  have hoptional : readOptional readDefaultValue g.document =
      (readDefaultValue g.document).map some := by
    cases g <;> rfl
  have hvalidations := validations_of_readField hbundle hf
  rw [show readOptional readValidationBundle (.map bundle) =
    (readValidationBundle (.map bundle)).map some from rfl, Reading.value?_map] at hvalidations
  obtain ⟨b, hb, hsome⟩ := Option.map_eq_some_iff.mp hvalidations
  have hkept := defaultValue_of_readValidationBundle hdefault hb
  rw [hoptional, g.readDefaultValue_document] at hkept
  rw [← hsome]
  exact (Option.some.inj hkept).symm

end Schema

/-- A default that a bundle gives is never at fault and is kept with its kind. A module holds the
controls of its fields, and the control of the field is seeded with the literal of the default, or,
in a list of check boxes, with the list of the literal where the default is no list. The literal
denotes the default exactly if no line breaks in a text of it. No module is written with a number
that is too long. -/
theorem Field.seeded_as_given {entries bundle : List (Document × Document)} {g : GivenDefault}
    {f : Field} (hbundle : Schema.member? entries ["validations"] = some (.map bundle))
    (hdefault : Schema.member? bundle ["defaultValue", "default_value"] = some g.document)
    (hf : Schema.readField (.map entries) = .value f) :
    Schema.readDefaultValue g.document = .value g.kept ∧
    f.validations.bind (·.defaultValue) = some g.kept ∧
    (∀ c : Component, ∃ methods, c.module = Number.limited Template.tooLong c.isWritable
      (ComponentModule.text
      { className := Naming.classForm c.name ++ "Component"
        selector := "app-" ++ Naming.pathForm c.name
        slug := Naming.pathForm c.name
        body := FormClass.text { controls := c.fields.map Control.ofField, methods } })) ∧
    (Control.ofField f).text =
      "      " ++ literalText (.str f.name) ++ ": [" ++ g.seed f.kind ++ ", [" ++
        ", ".intercalate (Control.ofField f).validators ++ "]]," ∧
    (g.Denotes g.literal.toList ↔ g.breaksLine = false) := by
  have hkept := Schema.kept_of_readField hbundle hdefault hf
  refine ⟨g.readDefaultValue_document, hkept, componentForm_eq, ?_, g.denotes_literal_iff⟩
  rw [← GivenDefault.literal_initialValue hkept]
  rfl

def twoLines : List (Document × Document) :=
  [(.text "name", .text "note"),
    (.text "validations", .map [(.text "defaultValue", .text "a\nb")])]

/-- A default of two lines is kept, and seeds the control with what is no literal. -/
theorem seeded_as_given_twoLines :
    ∃ f : Field, Schema.readField (.map twoLines) = .value f ∧
      f.validations.bind (·.defaultValue) = some (.text "a\nb") ∧
      (Control.ofField f).text = "      'note': ['a\nb', []]," ∧
      ¬ (GivenDefault.text "a\nb").Denotes (GivenDefault.text "a\nb").literal.toList := by
  let f : Field := { name := "note", validations := some { defaultValue := some (.text "a\nb") } }
  have hf : Schema.readField (.map twoLines) = .value f := rfl
  have hbundle : Schema.member? twoLines ["validations"] =
      some (.map [(.text "defaultValue", .text "a\nb")]) := rfl
  obtain ⟨-, hkept, -, htext, hdenotes⟩ :=
    Field.seeded_as_given (g := .text "a\nb") hbundle rfl hf
  refine ⟨f, hf, hkept, htext.trans (by decide), ?_⟩
  rw [hdenotes]
  decide

end Formwork
