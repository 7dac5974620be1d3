import Mathlib.Data.List.Basic

/-!
Outcomes of computations that may fail. What is said of an outcome is said of the value, if there is
one, and of the error otherwise, and it is said of a sequence of steps by what each step needs.
-/

namespace Formwork

variable {α β ε : Type} {P : α → Prop} {Q : β → Prop} {E : ε → Prop}

def Ends (P : α → Prop) (E : ε → Prop) : Except ε α → Prop
  | .ok a => P a
  | .error e => E e

namespace Ends

@[simp] theorem ok_iff {a : α} : Ends P E (.ok a) ↔ P a := Iff.rfl

@[simp] theorem pure_iff {a : α} : Ends P E (pure a) ↔ P a := Iff.rfl

@[simp] theorem error_iff {e : ε} : Ends P E (.error e) ↔ E e := Iff.rfl

theorem bind {x : Except ε α} {f : α → Except ε β} (hx : Ends P E x)
    (hf : ∀ a, P a → Ends Q E (f a)) : Ends Q E (x >>= f) := by
  cases x with
  | ok a => exact hf a hx
  | error e => exact hx

theorem ite {p : Prop} [Decidable p] {x y : Except ε α} (hx : Ends P E x) (hy : Ends P E y) :
    Ends P E (if p then x else y) := by
  split
  · exact hx
  · exact hy

theorem map {f : α → β} {x : Except ε α} (hx : Ends P E x) (hf : ∀ a, P a → Q (f a)) :
    Ends Q E (x.map f) := by
  cases x with
  | ok a => exact hf a hx
  | error e => exact hx

theorem mono {P' : α → Prop} {E' : ε → Prop} {x : Except ε α} (hx : Ends P E x)
    (hP : ∀ a, P a → P' a) (hE : ∀ e, E e → E' e) : Ends P' E' x := by
  cases x with
  | ok a => exact hP a hx
  | error e => exact hE e hx

theorem mapM {f : α → Except ε β} {items : List α}
    (hf : ∀ a ∈ items, Ends (fun _ => True) E (f a)) : Ends (fun _ => True) E (items.mapM f) := by
  induction items with
  | nil => exact trivial
  | cons a items ih =>
      rw [List.mapM_cons]
      have hmore := ih fun a' ha' => hf a' (List.mem_cons_of_mem _ ha')
      exact (hf a List.mem_cons_self).bind fun _ _ => hmore.bind fun _ _ => trivial

theorem foldlM {f : β → α → Except ε β} {items : List α}
    (hf : ∀ b, Q b → ∀ a ∈ items, Ends Q E (f b a)) {b : β} (hb : Q b) :
    Ends Q E (items.foldlM f b) := by
  induction items generalizing b with
  | nil => exact hb
  | cons a items ih =>
      rw [List.foldlM_cons]
      exact (hf b hb a List.mem_cons_self).bind fun b' hb' =>
        ih (fun b hb a ha => hf b hb a (List.mem_cons_of_mem _ ha)) hb'

end Ends

theorem bind_eq_ok {α β ε : Type} {x : Except ε α} {f : α → Except ε β} {b : β} :
    x >>= f = .ok b ↔ ∃ a, x = .ok a ∧ f a = .ok b := by
  cases x <;> simp [bind, Except.bind]

theorem mapError_eq_ok {α ε ε' : Type} {x : Except ε α} {f : ε → ε'} {a : α} :
    x.mapError f = .ok a ↔ x = .ok a := by
  cases x <;> simp [Except.mapError]

/-- A map with failures succeeds where every element does. -/
theorem mapM_eq_ok {α β ε : Type} {f : α → Except ε β} {as : List α} {bs : List β} :
    as.mapM f = .ok bs ↔ as.map f = bs.map .ok := by
  induction as generalizing bs with
  | nil =>
      rw [List.mapM_nil, List.map_nil, eq_comm (a := []), List.map_eq_nil_iff]
      exact ⟨fun h => (Except.ok.inj h).symm, fun h => h ▸ rfl⟩
  | cons a as ih =>
      rw [List.mapM_cons, List.map_cons]
      cases ha : f a with
      | error e => cases bs <;> simp [bind, Except.bind]
      | ok b =>
          cases has : as.mapM f with
          | error e =>
              cases bs with
              | nil => simp [bind, Except.bind]
              | cons b' bs =>
                  have hnot : as.map f ≠ bs.map .ok := fun h => by
                    rw [ih.mpr h] at has
                    exact absurd has (by simp)
                  simp [bind, Except.bind, hnot]
          | ok bs' =>
              rw [ih.mp has]
              cases bs with
              | nil => simp [bind, Except.bind, pure, Except.pure]
              | cons b' bs =>
                  have hinjective : bs'.map (Except.ok (ε := ε)) = bs.map .ok ↔ bs' = bs :=
                    (List.map_injective_iff.mpr fun _ _ => Except.ok.inj).eq_iff
                  simp [bind, Except.bind, pure, Except.pure, hinjective]

end Formwork
