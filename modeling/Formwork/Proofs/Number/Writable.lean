import Formwork.Check
import Formwork.FieldMarkup
import Formwork.Proofs.Number.Limited

/-!
The numbers in a specification. Some of them are written in every file that is generated from it,
and some only in an issue that is found. A number of too many digits is written in neither.
-/

namespace Formwork

def Number.isWritable : Number → Bool
  | .int n => isShort n
  | .float _ => true

def DefaultValue.isWritable : DefaultValue → Bool
  | .number n => n.isWritable
  | _ => true

def ValidationBundle.isWritable (b : ValidationBundle) : Bool :=
  b.minLength.all (Number.isShort ·) && b.maxLength.all (Number.isShort ·) &&
    b.range.all (fun r => r.1.isWritable && r.2.isWritable) &&
    b.defaultValue.all DefaultValue.isWritable

def Field.isWritable (f : Field) : Bool := f.validations.all ValidationBundle.isWritable

def Component.isWritable (c : Component) : Bool := c.fields.all Field.isWritable

/-- Whether every number that is written when a specification is generated is short enough: the
numbers in its bundles, and on the custom grid the number of columns. -/
def Specification.isWritable (spec : Specification) (layout : Layout) : Bool :=
  spec.components.all Component.isWritable && layout.isWritable

def Field.isTellable (f : Field) : Bool :=
  match f.validations.bind (·.range) with
  | some (low, high) => !high.lt low || (low.isWritable && high.isWritable)
  | none => true

/-- Whether every number that an issue may have to tell is short enough to be written: the bounds
of ranges that have no values, and the number of columns. -/
def Specification.isTellable (spec : Specification) (layout : Option Layout) : Bool :=
  (spec.components.all fun c => c.fields.all Field.isTellable) &&
    layout.all fun l => Number.isShort l.columns

namespace Number

@[simp] theorem isWritable_toValue (n : Number) : n.toValue.isWritable = n.isWritable := by
  cases n <;> simp [toValue, Value.isWritable, isWritable]

theorem areWritable_eq (items : List Value) :
    Value.areWritable items = items.all (·.isWritable) := by
  induction items with
  | nil => rw [Value.areWritable]; rfl
  | cons v rest ih => rw [Value.areWritable, ih, List.all_cons]

@[simp] theorem isWritable_str (s : String) : (Value.str s).isWritable = true := by
  simp [Value.isWritable]

@[simp] theorem isWritable_texts (items : List String) :
    (Value.list (items.map .str)).isWritable = true := by
  rw [Value.isWritable, areWritable_eq, List.all_map]
  simp [Function.comp_def]

end Number

@[simp] theorem DefaultValue.isWritable_toValue (d : DefaultValue) :
    d.toValue.isWritable = d.isWritable := by
  cases d with
  | bool b => simp [toValue, Value.isWritable, isWritable]
  | number n => exact n.isWritable_toValue
  | text s => exact Number.isWritable_str s
  | texts items => exact Number.isWritable_texts items

namespace Field

theorem isWritable_initialValue (f : Field) :
    f.initialValue.isWritable =
      (f.validations.bind (·.defaultValue)).all DefaultValue.isWritable := by
  rw [initialValue]
  cases f.validations.bind (·.defaultValue) with
  | none =>
      rw [Option.all_none, control]
      cases f.kind <;> simp [FieldKind.control, Value.isWritable, Value.areWritable]
  | some d =>
      have hlist : (Value.list [d.toValue]).isWritable = d.isWritable := by
        rw [Value.isWritable, Value.areWritable, Value.areWritable, Bool.and_true,
          d.isWritable_toValue]
      rw [Option.all_some]
      cases d with
      | texts items => exact DefaultValue.isWritable_toValue (.texts items)
      | bool b | number n | text s =>
          dsimp only
          split
          · exact hlist
          · exact DefaultValue.isWritable_toValue _

theorem all_directives (f : Field) :
    (Directive.ofField f).all (·.argument.isWritable) =
      f.validations.all fun b =>
        b.minLength.all (Number.isShort ·) && b.maxLength.all (Number.isShort ·) &&
          b.range.all fun r => r.1.isWritable && r.2.isWritable := by
  have hrequired : ∀ condition,
      (Directive.requiredIf condition).all (·.argument.isWritable) = true := fun condition => by
    cases condition <;> simp [Directive.requiredIf, Value.isWritable]
  have hpattern : ∀ pattern,
      (Directive.patternOf pattern).all (·.argument.isWritable) = true := fun pattern => by
    cases pattern with
    | none => rfl
    | some p =>
        rw [Directive.patternOf]
        split <;> simp
  have hlength : ∀ kind length, (Directive.lengthOf kind length).all (·.argument.isWritable) =
      length.all (Number.isShort ·) := fun kind length => by
    cases length <;> simp [Directive.lengthOf, Value.isWritable]
  have hrange : ∀ range, (Directive.rangeOf range).all (·.argument.isWritable) =
      range.all fun r => r.1.isWritable && r.2.isWritable := fun range => by
    cases range <;> simp [Directive.rangeOf]
  rw [Directive.ofField]
  cases f.validations with
  | none => rw [List.all_append, hrequired, hpattern]; rfl
  | some b =>
      simp only [Directive.ofBundle, List.all_append, hrequired, hpattern, hlength, hrange,
        Option.all_some, Bool.true_and, Bool.and_true]

/-- The module of a component holds what each control starts with and the arguments of its
directives, and these are all the numbers of a field. -/
theorem isWritable_eq (f : Field) :
    f.isWritable =
      ((Directive.ofField f).all (·.argument.isWritable) && f.initialValue.isWritable) := by
  rw [f.all_directives, f.isWritable_initialValue, isWritable]
  cases f.validations with
  | none => rfl
  | some b => rfl

theorem isTellable_of_isWritable {f : Field} (h : f.isWritable = true) : f.isTellable = true := by
  rw [isTellable]
  split
  case h_1 low high hrange =>
    obtain ⟨b, hb, hrange⟩ := Option.bind_eq_some_iff.mp hrange
    rw [isWritable, hb, Option.all_some, ValidationBundle.isWritable, hrange] at h
    simp only [Option.all_some, Bool.and_eq_true] at h
    rw [h.1.2.1, h.1.2.2]
    exact Bool.or_true _
  case h_2 => rfl

end Field

theorem Specification.isTellable_of_isWritable {spec : Specification} {layout : Layout}
    (h : spec.isWritable layout = true) : spec.isTellable none = true := by
  rw [isWritable, Bool.and_eq_true, List.all_eq_true] at h
  rw [isTellable, Option.all_none, Bool.and_true, List.all_eq_true]
  refine fun c hc => List.all_eq_true.mpr fun f hf => ?_
  exact Field.isTellable_of_isWritable (List.all_eq_true.mp (h.1 c hc) f hf)

end Formwork
