import Formwork.Text.Digit

/-!
Double precision numbers as exact values. A finite number is `significand * 2 ^ exponent`, and
every operation is a statement about fractions of whole numbers followed by one rounding to the
nearest representable value, ties to the even significand.
-/

namespace Formwork

/-- A double precision number. The significand of a finite one is below `2 ^ 53`, and is at least
`2 ^ 52` unless the exponent is the least one, `-1074`. -/
inductive Binary64
  | nan
  | infinite (negative : Bool)
  | finite (negative : Bool) (significand : Nat) (exponent : Int)
  deriving DecidableEq, Repr, Inhabited

/-- The quotient rounded to the nearest whole number, ties to even. -/
def roundQuotient (num den : Nat) : Nat :=
  let q := num / den
  let twice := 2 * (num % den)
  if twice < den then q
  else if den < twice then q + 1
  else q + q % 2

namespace Binary64

structure Fraction where
  negative : Bool
  num : Nat
  den : Nat
  deriving DecidableEq, Repr

def Fraction.scaled (f : Fraction) (exponent : Int) : Nat × Nat :=
  if 0 ≤ exponent then (f.num, f.den * Nat.pow 2 exponent.toNat)
  else (f.num * Nat.pow 2 (-exponent).toNat, f.den)

def zero : Binary64 := .finite false 0 (-1074)

/-- The representable number nearest to a fraction. -/
def ofFraction (f : Fraction) : Binary64 :=
  if f.num = 0 then .finite f.negative 0 (-1074)
  else
    let guess : Int := (Nat.log2 f.num : Int) - Nat.log2 f.den - 53
    let scaled := f.scaled guess
    let exact : Int := if scaled.1 / scaled.2 < Nat.pow 2 53 then guess else guess + 1
    let exponent := max exact (-1074)
    let scaled := f.scaled exponent
    let significand := roundQuotient scaled.1 scaled.2
    let rounded : Nat × Int :=
      if significand = Nat.pow 2 53 then (Nat.pow 2 52, exponent + 1) else (significand, exponent)
    if 971 < rounded.2 then .infinite f.negative else .finite f.negative rounded.1 rounded.2

/-- The number nearest to `digits * 10 ^ exponent`. Exponents far outside the range of the format
are settled without computing the power. -/
def ofDecimal (negative : Bool) (digits : Nat) (exponent : Int) : Binary64 :=
  let magnitude : Int := exponent + (Nat.log2 digits : Int) * 301 / 1000
  if digits = 0 ∨ magnitude < -400 then .finite negative 0 (-1074)
  else if 400 < magnitude then .infinite negative
  else if 0 ≤ exponent then ofFraction ⟨negative, digits * Nat.pow 10 exponent.toNat, 1⟩
  else ofFraction ⟨negative, digits, Nat.pow 10 (-exponent).toNat⟩

def ofInt (n : Int) : Binary64 := ofFraction ⟨n < 0, n.natAbs, 1⟩

def fraction? : Binary64 → Option Fraction
  | .finite negative m e =>
    if 0 ≤ e then some ⟨negative, m * Nat.pow 2 e.toNat, 1⟩
    else some ⟨negative, m, Nat.pow 2 (-e).toNat⟩
  | _ => none

def Fraction.signedNum (f : Fraction) : Int := if f.negative then -f.num else f.num

def Fraction.lt (a b : Fraction) : Bool := a.signedNum * b.den < b.signedNum * a.den

def Fraction.eq (a b : Fraction) : Bool := a.signedNum * b.den == b.signedNum * a.den

/-- The order of numbers; nothing is below or above `nan`. -/
def lt (a b : Binary64) : Bool :=
  match a, b with
  | .nan, _ | _, .nan => false
  | .infinite true, .infinite negative => !negative
  | .infinite true, _ => true
  | .infinite false, _ => false
  | _, .infinite negative => !negative
  | _, _ =>
    match a.fraction?, b.fraction? with
    | some f, some g => f.lt g
    | _, _ => false

/-- Equality of values: `nan` differs from itself, and both zeros are equal. -/
def same (a b : Binary64) : Bool :=
  match a, b with
  | .infinite p, .infinite q => p == q
  | _, _ =>
    match a.fraction?, b.fraction? with
    | some f, some g => f.eq g
    | _, _ => false

def isNegative : Binary64 → Bool
  | .nan => false
  | .infinite negative => negative
  | .finite negative _ _ => negative

/-- The whole number that a number is equal to, if there is one. -/
def toInt? (x : Binary64) : Option Int :=
  match x.fraction? with
  | some f => if f.num % f.den = 0 then some (f.signedNum / f.den) else none
  | none => none

def neg : Binary64 → Binary64
  | .nan => .nan
  | .infinite negative => .infinite !negative
  | .finite negative m e => .finite (!negative) m e

/-- The sum of two numbers, rounded. Infinities of both signs have none. -/
def add (a b : Binary64) : Binary64 :=
  match a, b with
  | .nan, _ | _, .nan => .nan
  | .infinite p, .infinite q => if p = q then a else .nan
  | .infinite _, _ => a
  | _, .infinite _ => b
  | _, _ =>
    match a.fraction?, b.fraction? with
    | some f, some g =>
      let num := f.signedNum * g.den + g.signedNum * f.den
      let negative := if num = 0 then f.negative && g.negative else num < 0
      ofFraction ⟨negative, num.natAbs, f.den * g.den⟩
    | _, _ => .nan

/-- The product of two numbers, rounded. Nothing times infinity has none. -/
def mul (a b : Binary64) : Binary64 :=
  let negative := a.isNegative != b.isNegative
  match a, b with
  | .nan, _ | _, .nan => .nan
  | .infinite _, .infinite _ => .infinite negative
  | .infinite _, .finite _ m _ | .finite _ m _, .infinite _ =>
    if m = 0 then .nan else .infinite negative
  | _, _ =>
    match a.fraction?, b.fraction? with
    | some f, some g => ofFraction ⟨negative, f.num * g.num, f.den * g.den⟩
    | _, _ => .nan

end Binary64

end Formwork
