import Formwork.Number.Shortest
import Formwork.Specification

/-!
Durations as text: minutes and whole seconds, or seconds with one decimal place where there is no
full minute.
-/

namespace Formwork.Duration

/-- Why a duration has no text: it has no end, or is no number, or its minutes have too many
digits. -/
inductive Error
  | notFinite
  | oversized (e : Number.Oversized)
  deriving DecidableEq, Repr

def Error.message : Error → String
  | .notFinite => "cannot convert float NaN to integer"
  | .oversized e => e.message

def secondsOf : Value → Except Value.Misuse Number
  | .bool b => .ok (.int (if b then 1 else 0))
  | .int n => .ok (.int n)
  | .float x => .ok (.float x)
  | v => .error (.noOrder "<" v)

def textOf (minutes : Int) (seconds : Binary64.Fraction) : Except Error String :=
  if 0 < minutes then do
    let written ← (Value.int minutes).write.mapError .oversized
    return written ++ "m " ++ toString (seconds.num / seconds.den) ++ "s"
  else .ok (Binary64.tenths seconds ++ "s")

def ratio (num den : Nat) : Binary64.Fraction := ⟨false, num, den⟩

/-- The full minutes of a double precision number of seconds. The seconds beyond them are taken
off exactly; the difference and its sixtieth part are double precision numbers again, and a
quotient that lies more than a half above a whole number counts as the next one. -/
def fullMinutes (f : Binary64.Fraction) : Int :=
  let below := f.num - f.num % (60 * f.den)
  match (Binary64.ofFraction (ratio below f.den)).fraction? with
  | none => 0
  | some difference =>
    let quotient := Binary64.ofFraction (ratio difference.num (60 * difference.den))
    match quotient.fraction? with
    | none => 0
    | some q =>
      let whole := q.num / q.den
      if q.den < 2 * (q.num - whole * q.den) then whole + 1 else whole

/-- The text of a duration in seconds. A negative one counts as none. -/
def text (seconds : Number) : Except Error String :=
  if seconds.lt (.int 0) then .ok "0.0s"
  else
    match seconds with
    | .int n => textOf (n / 60) (ratio (n % 60).toNat 1)
    | .float x =>
      match x.fraction? with
      | none => .error .notFinite
      | some f => textOf (fullMinutes f) (ratio (f.num % (60 * f.den)) f.den)

end Formwork.Duration
