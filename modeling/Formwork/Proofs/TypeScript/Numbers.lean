import Formwork.Number.Shortest
import Formwork.Proofs.Json.RoundTrip
import Formwork.Proofs.TypeScript.Items
import Mathlib.Tactic.Set

/-!
Numbers as literals. A decimal literal has a whole part without zeros in front, a fraction with a
digit at least, and an exponent; each but the whole part can be missing, and a minus sign can stand
in front. Whole numbers and the shortest decimals of the others are written so. The shortest decimal
of a number is zero only if the number is: each place that is tried is at most that of the first
digit, so the number has a digit at or above it and its neighbours there are not zero, and dropping
zeros at the end keeps that.
-/

namespace Formwork.Binary64

/-! ### Shortest decimals -/

theorem decimalNeighbours_pos {num den : Nat} (hnum : 0 < num) (hden : 0 < den) {place : Int}
    (h : place ≤ firstPlace num den) : 0 < (decimalNeighbours num den place).1 := by
  simp only [decimalNeighbours]
  rw [firstPlace] at h
  split at h
  case isTrue hle =>
    have hquotient : 0 < num / den := Nat.div_pos hle hden
    split
    case isTrue hplace =>
      have hdigits : Nat.pow 10 place.toNat ≤ num / den := by
        have hshort : ¬ (digitsOf (num / den)).length ≤ place.toNat := by omega
        by_cases hzero : place.toNat = 0
        · rw [hzero]
          exact hquotient
        · rw [digitsOf, Nat.length_toDigits_le_iff (by decide) (by omega)] at hshort
          exact Nat.le_of_not_lt hshort
      refine Nat.div_pos ?_ (Nat.mul_pos hden (Nat.pow_pos (by decide)))
      calc den * Nat.pow 10 place.toNat ≤ den * (num / den) := Nat.mul_le_mul_left den hdigits
        _ ≤ num := Nat.mul_div_le num den
    case isFalse hplace =>
      refine Nat.div_pos (Nat.le_trans hle ?_) hden
      exact Nat.le_mul_of_pos_right num (Nat.pow_pos (by decide))
  case isFalse hlt =>
    set times := (den + num - 1) / num with htimes
    have hpos : 0 < (digitsOf (times - 1)).length := List.length_pos_iff.mpr Nat.toDigits_ne_nil
    rw [if_neg (by omega)]
    have hdigits : times ≤ Nat.pow 10 (-place).toNat := by
      have hbelow : times - 1 < 10 ^ (-place).toNat :=
        (Nat.length_toDigits_le_iff (by decide) (by omega)).mp
          (show (digitsOf (times - 1)).length ≤ _ by omega)
      exact Nat.le_of_pred_lt hbelow
    have hreach : den ≤ num * times := by
      have hmod := Nat.div_add_mod (den + num - 1) num
      have hlast := Nat.mod_lt (den + num - 1) hnum
      rw [← htimes] at hmod
      omega
    exact Nat.div_pos (Nat.le_trans hreach (Nat.mul_le_mul_left num hdigits)) hden

theorem shortestFrom_ne_zero (x : Binary64) {num den : Nat} (hnum : 0 < num) (hden : 0 < den)
    {more : Nat} (hmore : more ≤ 16) :
    (shortestFrom x num den (firstPlace num den) more).1 ≠ 0 := by
  induction more with
  | zero =>
      have hplace : firstPlace num den - 16 ≤ firstPlace num den := by omega
      have hlow := Nat.ne_of_gt (decimalNeighbours_pos hnum hden hplace)
      rw [shortestFrom]
      dsimp only
      split
      · exact hlow
      · exact Nat.succ_ne_zero _
  | succ more ih =>
      have hplace : firstPlace num den - (16 - ((more : Int) + 1)) ≤ firstPlace num den := by omega
      have hlow := Nat.ne_of_gt (decimalNeighbours_pos hnum hden hplace)
      rw [shortestFrom]
      dsimp only
      split
      · dsimp only
        split
        · exact hlow
        · exact Nat.succ_ne_zero _
      · exact hlow
      · exact Nat.succ_ne_zero _
      · exact ih (by omega)

theorem dropZeros_ne_zero (fuel : Nat) {d : Nat × Int} (h : d.1 ≠ 0) :
    (dropZeros fuel d).1 ≠ 0 := by
  induction fuel generalizing d with
  | zero => exact h
  | succ fuel ih =>
      rw [dropZeros]
      split
      · exact ih (by dsimp only at h ⊢; omega)
      · exact h

theorem shortest_ne_zero {m : Nat} (hm : m ≠ 0) (e : Int) : (shortest m e).1 ≠ 0 := by
  obtain ⟨f, hf, hnum, hden⟩ : ∃ f, (Binary64.finite false m e).fraction? = some f ∧
      0 < f.num ∧ 0 < f.den := by
    have hpos : 0 < m := Nat.pos_of_ne_zero hm
    rw [fraction?]
    split
    · exact ⟨_, rfl, Nat.mul_pos hpos (Nat.pow_pos (by decide)), Nat.one_pos⟩
    · exact ⟨_, rfl, hpos, Nat.pow_pos (by decide)⟩
  rw [shortest, hf]
  exact dropZeros_ne_zero _ (shortestFrom_ne_zero _ hnum hden (Nat.le_refl 16))

end Formwork.Binary64

namespace Formwork.TypeScript

open Json (head?_toDigits isDigit_of_mem_toDigits toList_toString_int)

/-! ### The form of a number -/

def isDigits (cs : List Char) : Bool := cs ≠ [] && cs.all Char.isDigit

/-- The whole part of a number: zero, or digits of which the first is not zero. -/
def isWhole (cs : List Char) : Bool := isDigits cs && (cs = ['0'] || cs.head? ≠ some '0')

def isExponent : List Char → Bool
  | [] => true
  | 'e' :: '+' :: cs => isDigits cs
  | 'e' :: '-' :: cs => isDigits cs
  | 'e' :: cs => isDigits cs
  | _ => false

def isFraction : List Char → Bool
  | '.' :: cs => isDigits (cs.takeWhile Char.isDigit) && isExponent (cs.dropWhile Char.isDigit)
  | cs => isExponent cs

def isUnsigned (cs : List Char) : Bool :=
  isWhole (cs.takeWhile Char.isDigit) && isFraction (cs.dropWhile Char.isDigit)

def isNumber : List Char → Bool
  | '-' :: cs => isUnsigned cs
  | cs => isUnsigned cs

/-! ### The parts of a number -/

theorem isDigits_iff {cs : List Char} :
    isDigits cs = true ↔ cs ≠ [] ∧ ∀ c ∈ cs, c.isDigit = true := by
  simp [isDigits, List.all_eq_true]

theorem isDigits_digitsOf (n : Nat) : isDigits (Binary64.digitsOf n) = true :=
  isDigits_iff.mpr ⟨Nat.toDigits_ne_nil, fun _ h => isDigit_of_mem_toDigits h⟩

theorem isDigits_zeros_append (n : Nat) {cs : List Char} (h : isDigits cs = true) :
    isDigits (List.replicate n '0' ++ cs) = true := by
  obtain ⟨hne, hall⟩ := isDigits_iff.mp h
  refine isDigits_iff.mpr ⟨List.append_ne_nil_of_right_ne_nil _ hne,
    List.forall_mem_append.mpr ⟨fun c hc => ?_, hall⟩⟩
  rw [List.eq_of_mem_replicate hc]
  decide

theorem isWhole_of_head? {cs : List Char} (h : isDigits cs = true) (hhead : cs.head? ≠ some '0') :
    isWhole cs = true := by
  simp [isWhole, h, hhead]

theorem isWhole_singleton {c : Char} (h : c.isDigit = true) : isWhole [c] = true := by
  by_cases hc : c = '0' <;> simp [isWhole, isDigits, h, hc]

theorem isWhole_digitsOf (n : Nat) : isWhole (Binary64.digitsOf n) = true := by
  by_cases hn : n = 0
  · rw [hn]
    decide
  · exact isWhole_of_head? (isDigits_digitsOf n) (head?_toDigits hn)

/-- Text that goes on no run of digits. -/
def EndsDigits (rest : List Char) : Prop := ∀ c ∈ rest.head?, c.isDigit = false

theorem takeWhile_digits {cs rest : List Char} (h : isDigits cs = true) (hrest : EndsDigits rest) :
    (cs ++ rest).takeWhile Char.isDigit = cs ∧ (cs ++ rest).dropWhile Char.isDigit = rest := by
  have hall := (isDigits_iff.mp h).2
  rw [List.takeWhile_append_of_pos hall, List.dropWhile_append_of_pos hall]
  cases rest with
  | nil => simp
  | cons c rest =>
      have hc := hrest c rfl
      rw [List.takeWhile_cons_of_neg (by simp [hc]), List.dropWhile_cons_of_neg (by simp [hc])]
      simp

theorem isUnsigned_append {whole rest : List Char} (hwhole : isWhole whole = true)
    (hrest : isFraction rest = true) (hends : EndsDigits rest) :
    isUnsigned (whole ++ rest) = true := by
  have hdigits : isDigits whole = true := (Bool.and_eq_true_iff.mp hwhole).1
  obtain ⟨htake, hdrop⟩ := takeWhile_digits hdigits hends
  rw [isUnsigned, htake, hdrop, hwhole, hrest]
  rfl

theorem isFraction_point {digits rest : List Char} (h : isDigits digits = true)
    (hrest : isExponent rest = true) (hends : EndsDigits rest) :
    isFraction ('.' :: (digits ++ rest)) = true := by
  obtain ⟨htake, hdrop⟩ := takeWhile_digits h hends
  rw [isFraction, htake, hdrop, h, hrest]
  rfl

theorem endsDigits_point (rest : List Char) : EndsDigits ('.' :: rest) := by
  rintro c ⟨⟩
  decide

theorem endsDigits_exponent (rest : List Char) : EndsDigits ('e' :: rest) := by
  rintro c ⟨⟩
  decide

theorem isUnsigned_point {whole digits : List Char} (hwhole : isWhole whole = true)
    (h : isDigits digits = true) : isUnsigned (whole ++ '.' :: digits) = true := by
  have hfraction := isFraction_point h (show isExponent [] = true from rfl) nofun
  rw [List.append_nil] at hfraction
  exact isUnsigned_append hwhole hfraction (endsDigits_point _)

theorem isNumber_of_isUnsigned {cs : List Char} (h : isUnsigned cs = true) :
    isNumber cs = true := by
  unfold isNumber
  split
  · exact absurd h (by simp [isUnsigned, isWhole, isDigits])
  · exact h

/-! ### Numbers that are written -/

theorem isNumber_toString (n : Int) : isNumber (toString n).toList = true := by
  have hdigits : isUnsigned (Nat.toDigits 10 n.natAbs ++ []) = true :=
    isUnsigned_append (isWhole_digitsOf _) rfl nofun
  rw [List.append_nil] at hdigits
  rw [toList_toString_int]
  split
  · exact hdigits
  · exact isNumber_of_isUnsigned hdigits

theorem isExponent_exponentText (style : DecimalStyle) (n : Int) :
    isExponent ('e' :: Binary64.exponentText style n) = true := by
  have hdigits : isDigits
      (List.replicate (style.exponentDigits - (Binary64.digitsOf n.natAbs).length) '0' ++
        Binary64.digitsOf n.natAbs) = true :=
    isDigits_zeros_append _ (isDigits_digitsOf _)
  rw [Binary64.exponentText]
  split
  · exact hdigits
  split
  · exact hdigits
  obtain ⟨d, ds, hd⟩ := List.exists_cons_of_ne_nil (isDigits_iff.mp hdigits).1
  have hdigit : d.isDigit = true := (isDigits_iff.mp hdigits).2 d (hd ▸ List.mem_cons_self)
  rw [hd] at hdigits
  rw [List.nil_append, hd, isExponent.eq_4]
  · exact hdigits
  · rintro cs ⟨⟩
    exact absurd hdigit (by decide)
  · rintro cs ⟨⟩
    exact absurd hdigit (by decide)

section

variable {digits : List Char} (h : isDigits digits = true)

include h

theorem isUnsigned_zeros (hhead : digits.head? ≠ some '0') (n : Nat) :
    isUnsigned (digits ++ List.replicate n '0' ++ ['.', '0']) = true := by
  obtain ⟨hne, hall⟩ := isDigits_iff.mp h
  refine isUnsigned_point (isWhole_of_head? ?_ ?_) (by decide)
  · refine isDigits_iff.mpr ⟨List.append_ne_nil_of_left_ne_nil hne _,
      List.forall_mem_append.mpr ⟨hall, fun c hc => ?_⟩⟩
    rw [List.eq_of_mem_replicate hc]
    decide
  · rwa [List.head?_append_of_ne_nil _ hne]

/-- Digits with the point behind the first of them and in front of the last. -/
theorem isUnsigned_split (hhead : digits.head? ≠ some '0') {n : Nat} (hpos : n ≠ 0)
    (hlt : n < digits.length) : isUnsigned (digits.take n ++ '.' :: digits.drop n) = true := by
  obtain ⟨hne, hall⟩ := isDigits_iff.mp h
  refine isUnsigned_point (isWhole_of_head? ?_ ?_) ?_
  · exact isDigits_iff.mpr ⟨by simp [hpos, hne], fun c hc => hall c (List.mem_of_mem_take hc)⟩
  · rwa [List.head?_take, if_neg hpos]
  · exact isDigits_iff.mpr ⟨by simpa using hlt, fun c hc => hall c (List.mem_of_mem_drop hc)⟩

end

theorem isUnsigned_mantissa {exponent : List Char} (hexponent : isExponent ('e' :: exponent) = true)
    (digits : List Char) : isDigits digits = true →
      isUnsigned ((match digits with
        | [d] => [d]
        | d :: rest => d :: '.' :: rest
        | [] => []) ++ 'e' :: exponent) = true := by
  intro h
  obtain ⟨hne, hall⟩ := isDigits_iff.mp h
  split
  case h_1 d =>
    have hd : d.isDigit = true := hall d List.mem_cons_self
    exact isUnsigned_append (isWhole_singleton hd) hexponent (endsDigits_exponent _)
  case h_2 d rest hmore =>
    have hd : d.isDigit = true := hall d List.mem_cons_self
    have hrest : isDigits rest = true :=
      isDigits_iff.mpr ⟨hmore, fun c hc => hall c (List.mem_cons_of_mem d hc)⟩
    show isUnsigned ([d] ++ '.' :: (rest ++ 'e' :: exponent)) = true
    exact isUnsigned_append (isWhole_singleton hd)
      (isFraction_point hrest hexponent (endsDigits_exponent _)) (endsDigits_point _)
  case h_3 => exact absurd rfl hne

theorem isUnsigned_decimalText (style : DecimalStyle) {n : Nat} (hn : n ≠ 0) (place : Int) :
    isUnsigned (Binary64.decimalText style n place) = true := by
  have hdigits := isDigits_digitsOf n
  have hhead : (Binary64.digitsOf n).head? ≠ some '0' := head?_toDigits hn
  rw [Binary64.decimalText]
  split
  · split
    · exact isUnsigned_zeros hdigits hhead _
    split
    · exact isUnsigned_split hdigits hhead (by omega) (by omega)
    · exact isUnsigned_point (isWhole_singleton (by decide)) (isDigits_zeros_append _ hdigits)
  · exact isUnsigned_mantissa (isExponent_exponentText style _) _ hdigits

theorem isNumber_text (negative : Bool) (m : Nat) (e : Int) :
    isNumber (Binary64.finite negative m e).text.toList = true := by
  have hbody : ∀ body, isUnsigned body = true →
      isNumber (if negative then '-' :: body else body) = true := fun body h => by
    split
    · exact h
    · exact isNumber_of_isUnsigned h
  rw [Binary64.text, Binary64.textIn, String.toList_ofList]
  refine hbody _ ?_
  split
  · decide
  case isFalse hm => exact isUnsigned_decimalText _ (Binary64.shortest_ne_zero hm e) _

end Formwork.TypeScript
