import Formwork.Number.Binary64

/-!
Decimal text of double precision numbers: the fewest digits that read back as the same number,
and among those the nearest to it. Numbers that are neither very large nor very small are written
positionally, the others with an exponent.
-/

namespace Formwork

/-- How digits and their place become text. Positional notation is used when the exponent of the
first digit is at least `positionalFrom` and below `positionalBelow`. An exponent has at least
`exponentDigits` digits, and a plus sign is written where the style has one. -/
structure DecimalStyle where
  positionalFrom : Int
  positionalBelow : Int
  exponentDigits : Nat
  plusSign : Bool
  deriving DecidableEq, Repr

namespace Binary64

/-- Whole decimal digits, most significant first. -/
def digitsOf (n : Nat) : List Char := Nat.toDigits 10 n

/-- The exponent of the first decimal digit of a positive fraction. -/
def firstPlace (num den : Nat) : Int :=
  if den ≤ num then (digitsOf (num / den)).length - 1
  else -((digitsOf ((den + num - 1) / num - 1)).length : Int)

/-- The two neighbours of a positive fraction among the multiples of `10 ^ place`, as multiples. -/
def decimalNeighbours (num den : Nat) (place : Int) : Nat × Nat :=
  let q :=
    if 0 ≤ place then num / (den * Nat.pow 10 place.toNat)
    else num * Nat.pow 10 (-place).toNat / den
  (q, q + 1)

/-- Whether `digits * 10 ^ place` is at most as far below the fraction as its successor is above,
preferring the even one of two at equal distance. -/
def lowerIsNearer (num den : Nat) (place : Int) (digits : Nat) : Bool :=
  let (scaledNum, scaledDen) :=
    if 0 ≤ place then (num, den * Nat.pow 10 place.toNat)
    else (num * Nat.pow 10 (-place).toNat, den)
  let below := scaledNum - digits * scaledDen
  let above := (digits + 1) * scaledDen - scaledNum
  below < above || (below == above && digits % 2 == 0)

/-- The shortest decimal with at least `17 - more` digits that reads back as `x`. -/
def shortestFrom (x : Binary64) (num den : Nat) (first : Int) : (more : Nat) → Nat × Int
  | 0 =>
    let place := first - 16
    let (low, high) := decimalNeighbours num den place
    (if lowerIsNearer num den place low then low else high, place)
  | more + 1 =>
    let place := first - (16 - (more + 1))
    let (low, high) := decimalNeighbours num den place
    match ofDecimal false low place == x, ofDecimal false high place == x with
    | true, true => (if lowerIsNearer num den place low then low else high, place)
    | true, false => (low, place)
    | false, true => (high, place)
    | false, false => shortestFrom x num den first more

/-- Removes zeros at the end of a positive number and counts them in the exponent. -/
def dropZeros : (fuel : Nat) → Nat × Int → Nat × Int
  | 0, d => d
  | fuel + 1, (n, place) =>
    if n ≠ 0 ∧ n % 10 = 0 then dropZeros fuel (n / 10, place + 1) else (n, place)

/-- Digits and exponent of the last digit of the shortest decimal of `m * 2 ^ e`. -/
def shortest (m : Nat) (e : Int) : Nat × Int :=
  match (Binary64.finite false m e).fraction? with
  | some f =>
    dropZeros 20
      (shortestFrom (.finite false m e) f.num f.den (firstPlace f.num f.den) 16)
  | none => (0, 0)

def exponentText (style : DecimalStyle) (n : Int) : List Char :=
  let digits := digitsOf n.natAbs
  (if n < 0 then ['-'] else if style.plusSign then ['+'] else []) ++
    (List.replicate (style.exponentDigits - digits.length) '0' ++ digits)

/-- Text of the decimal `n * 10 ^ place` in a style. Positional text always has a point. -/
def decimalText (style : DecimalStyle) (n : Nat) (place : Int) : List Char :=
  let digits := digitsOf n
  let first : Int := place + digits.length - 1
  if style.positionalFrom ≤ first ∧ first < style.positionalBelow then
    if 0 ≤ place then digits ++ List.replicate place.toNat '0' ++ ['.', '0']
    else if 0 ≤ first then
      digits.take (first + 1).toNat ++ '.' :: digits.drop (first + 1).toNat
    else '0' :: '.' :: (List.replicate (-first - 1).toNat '0' ++ digits)
  else
    let mantissa :=
      match digits with
      | [d] => [d]
      | d :: rest => d :: '.' :: rest
      | [] => []
    mantissa ++ 'e' :: exponentText style first

/-- Numbers from a ten-thousandth up to `10 ^ 16` are positional; an exponent has two digits. -/
def plainStyle : DecimalStyle := ⟨-4, 16, 2, true⟩

def textIn (style : DecimalStyle) (x : Binary64) : String :=
  match x with
  | .nan => "nan"
  | .infinite negative => if negative then "-inf" else "inf"
  | .finite negative m e =>
    let body :=
      if m = 0 then ['0', '.', '0']
      else
        let (n, place) := shortest m e
        decimalText style n place
    String.ofList (if negative then '-' :: body else body)

def text (x : Binary64) : String := textIn plainStyle x

/-- A number that is not negative, rounded to one decimal place, ties to even. -/
def tenths (f : Fraction) : String :=
  let n := roundQuotient (f.num * 10) f.den
  String.ofList (digitsOf (n / 10) ++ '.' :: digitsOf (n % 10))

end Binary64

end Formwork
