/-!
The limit on the texts of whole numbers. Numbers of more digits are neither read nor written.
-/

namespace Formwork.Number

/-- The most digits that a whole number may have. -/
def longestInteger : Nat := 4300

/-- Whether a whole number has few enough digits to be written. -/
def isShort (n : Int) : Bool := n.natAbs < Nat.pow 10 longestInteger

structure Oversized
  deriving DecidableEq, Repr

def Oversized.message (_ : Oversized) : String :=
  "Exceeds the limit (" ++ toString longestInteger ++ " digits) for integer string conversion; " ++
    "use sys.set_int_max_str_digits() to increase the limit"

theorem isShort_iff {n : Int} : isShort n = true ↔ n.natAbs < Nat.pow 10 longestInteger := by
  rw [isShort, decide_eq_true_eq]

theorem pow_le_pow {m n : Nat} (h : m ≤ n) : Nat.pow 10 m ≤ Nat.pow 10 n :=
  Nat.pow_le_pow_right (by decide) h

theorem isShort_of_lt {n : Int} (h : n.natAbs < Nat.pow 10 100) : isShort n = true :=
  isShort_iff.mpr (Nat.lt_of_lt_of_le h (pow_le_pow (by decide)))

-- the power of ten is not to be computed where a proof only compares numbers
attribute [irreducible] isShort

end Formwork.Number
