import Formwork.Number.Limit
import Formwork.Proofs.Outcome

/-!
Results that hold numbers. Writing a whole number fails if it has too many digits, and nothing else
about it fails, so each computation that writes numbers is a plain one behind a test. Steps in a row
are one plain computation behind the tests of all steps, in whatever order these are made.
-/

namespace Formwork.Number

/-- The first number that is too long to be written. It is never computed. -/
@[irreducible] def firstLong : Int := (Nat.pow 10 longestInteger : Nat)

@[simp] theorem isShort_firstLong : isShort firstLong = false := by
  rw [← Bool.not_eq_true, isShort_iff, firstLong, Int.natAbs_natCast]
  exact Nat.lt_irrefl _

theorem firstLong_pos : 0 < firstLong := by
  have hpow (k : Nat) : 0 < Nat.pow 10 k := Nat.pow_pos (by decide)
  rw [firstLong]
  exact Int.natCast_pos.mpr (hpow longestInteger)

variable {α β ε ε' : Type}

/-- A result, if the numbers in it are short enough to be written. -/
def limited (e : ε) (short : Bool) (a : α) : Except ε α := if short then .ok a else .error e

@[simp] theorem limited_true (e : ε) (a : α) : limited e true a = .ok a := rfl

@[simp] theorem limited_false (e : ε) (a : α) : limited e false a = .error e := rfl

theorem limited_eq_ok {e : ε} {short : Bool} {a b : α} :
    limited e short a = .ok b ↔ short = true ∧ a = b := by
  cases short <;> simp

@[simp] theorem limited_map (e : ε) (short : Bool) (a : α) (f : α → β) :
    (limited e short a).map f = limited e short (f a) := by
  cases short <;> rfl

@[simp] theorem limited_mapError (e : ε) (short : Bool) (a : α) (f : ε → ε') :
    (limited e short a).mapError f = limited (f e) short a := by
  cases short <;> rfl

@[simp] theorem limited_bind_limited (e : ε) (short short' : Bool) (a : α) (f : α → β) :
    (limited e short a >>= fun a => limited e short' (f a)) =
      limited e (short && short') (f a) := by
  cases short <;> rfl

@[simp] theorem limited_bind_ok (e : ε) (short : Bool) (a : α) (f : α → β) :
    (limited e short a >>= fun a => .ok (f a)) = limited e short (f a) := by
  cases short <;> rfl

theorem limited_bind {e : ε} {short short' : Bool} {a : α} {b : β} {f : α → Except ε β}
    (h : f a = limited e short' b) : limited e short a >>= f = limited e (short && short') b := by
  cases short
  · rfl
  · exact h

theorem limited_bind_pure (e : ε) (short : Bool) (a : α) (f : α → β) :
    (limited e short a >>= fun a => pure (f a)) = limited e short (f a) := by
  cases short <;> rfl

theorem mapM_limited {e : ε} {short : α → Bool} {text : α → β} {f : α → Except ε β} {as : List α}
    (h : ∀ a ∈ as, f a = limited e (short a) (text a)) :
    as.mapM f = limited e (as.all short) (as.map text) := by
  induction as with
  | nil => rfl
  | cons a as ih =>
      rw [List.mapM_cons, h a List.mem_cons_self,
        ih fun a' ha' => h a' (List.mem_cons_of_mem a ha'),
        List.all_cons]
      cases short a
      · rfl
      · exact limited_bind_pure e (as.all short) (as.map text) (text a :: ·)

end Formwork.Number
