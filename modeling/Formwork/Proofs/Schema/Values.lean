import Formwork.Schema.Specification
import Formwork.SpecificationFile

/-!
What is read out of a document, whatever the faults are. A reading of several parts has a value
exactly if all of its parts have one, so of a record nothing counts but the values of its members,
and of a list nothing but the values of its items.
-/

namespace Formwork.Schema

variable {α β : Type}

namespace Reading

def value? : Reading α → Option α
  | .value a => some a
  | .faulty _ => none

@[simp] theorem value?_value (a : α) : (Reading.value a).value? = some a := rfl

@[simp] theorem value?_faulty (faults : List Fault) :
    (Reading.faulty faults : Reading α).value? = none :=
  rfl

@[simp] theorem value?_fail (cause : Cause) : (Reading.fail cause : Reading α).value? = none := rfl

@[simp] theorem value?_map (f : α → β) (x : Reading α) : (x.map f).value? = x.value?.map f := by
  cases x <;> rfl

@[simp] theorem value?_mapped (f : α → β) (x : Reading α) : (f <$> x).value? = x.value?.map f :=
  value?_map f x

@[simp] theorem value?_seq (f : Reading (α → β)) (x : Reading α) :
    (f <*> x).value? = f.value?.bind fun g => x.value?.map g := by
  cases f <;> cases x <;> rfl

@[simp] theorem value?_under (key : String) (x : Reading α) : (x.under key).value? = x.value? := by
  cases x <;> rfl

/-- Two readings that give the same value, or both give none. -/
def Alike (x y : Reading α) : Prop := x.value? = y.value?

theorem Alike.map (f : α → β) {x y : Reading α} (h : Alike x y) : Alike (f <$> x) (f <$> y) := by
  rw [Alike, value?_mapped, value?_mapped, h]

theorem Alike.seq {f g : Reading (α → β)} {x y : Reading α} (hf : Alike f g) (h : Alike x y) :
    Alike (f <*> x) (g <*> y) := by
  rw [Alike, value?_seq, value?_seq, hf, h]

end Reading

/-- The value of the first of several names that a member is found under. -/
def member? (entries : List (Document × Document)) (names : List String) : Option Document :=
  names.findSome? (Document.member? entries)

theorem value?_readMember (entries : List (Document × Document)) (names : List String)
    (read : Document → Reading α) (absent : Reading α) :
    (readMember entries names read absent).value? =
      match member? entries names with
      | some d => (read d).value?
      | none => absent.value? := by
  have hfound : (names.findSome? fun name => (Document.member? entries name).map (name, ·)).map
      Prod.snd = member? entries names := by
    rw [member?, List.map_findSome?]
    simp only [Function.comp_def, Option.map_map, Option.map_id']
  rw [readMember.eq_def, ← hfound]
  cases names.findSome? fun name => (Document.member? entries name).map (name, ·) with
  | some found => exact Reading.value?_under found.1 (read found.2)
  | none =>
      cases names with
      | nil => rfl
      | cons name _ => exact Reading.value?_under name absent

end Formwork.Schema

namespace Formwork

theorem Specification.ofDocument_eq_ok_iff {d : Document} {spec : Specification} :
    Specification.ofDocument d = .ok spec ↔ (Schema.readSpecification d).value? = some spec := by
  rw [Specification.ofDocument]
  cases Schema.readSpecification d with
  | value a =>
      exact ⟨fun h => congrArg some (Except.ok.inj h),
        fun h => congrArg Except.ok (Option.some.inj h)⟩
  | faulty faults => exact ⟨nofun, nofun⟩

end Formwork
