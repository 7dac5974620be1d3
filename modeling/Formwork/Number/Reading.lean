import Formwork.Number.Binary64
import Formwork.Number.Limit
import Formwork.Text.Blank
import Formwork.Text.Quoted

/-!
Numbers read from text. A decimal has digits before or after a point, or both, and may have an
exponent; the words for infinity and for the value that is no number count as decimals. Whole
numbers are read by two rules: the strict one of settings files and documents, which knows ASCII
digits only, and the liberal one of the environment and the command line.
-/

namespace Formwork.Number.Reading

open Formwork.Text

def isWhiteSpace (c : Char) : Bool := isBlank c && !(28 ≤ c.toNat && c.toNat ≤ 31)

def spanDigits (cs : List Char) : List Nat × List Char :=
  ((cs.takeWhile Char.isDigit).map (·.toNat - 48), cs.dropWhile Char.isDigit)

/-- Exponents beyond this bound all give zero or infinity. -/
def exponentBound : Nat := 100000

/-- An exponent after the letter `e`: an optional sign and digits up to the end. -/
def exponent? (cs : List Char) : Option Int :=
  let (negative, digits) := takeSign cs
  match spanDigits digits with
  | ([], _) => none
  | (ds, []) =>
    let n := min (ofDigits 10 ds) exponentBound
    some (if negative then -n else n)
  | _ => none

/-- An unsigned decimal. -/
def magnitude? (negative : Bool) (cs : List Char) : Option Binary64 :=
  let (whole, rest) := spanDigits cs
  let (fraction, rest) :=
    match rest with
    | '.' :: more => spanDigits more
    | _ => ([], rest)
  if whole.isEmpty && fraction.isEmpty then none
  else
    let value (exponent : Int) : Binary64 :=
      .ofDecimal negative (ofDigits 10 (whole ++ fraction)) (exponent - fraction.length)
    match rest with
    | [] => some (value 0)
    | c :: more => if c = 'e' ∨ c = 'E' then (exponent? more).map value else none

def decimal? (cs : List Char) : Option Binary64 :=
  let (negative, body) := takeSign cs
  let word := body.map Char.toLower
  if word = "inf".toList ∨ word = "infinity".toList then some (.infinite negative)
  else if word = "nan".toList then some .nan
  else magnitude? negative body

def hasDoubleUnderscore : List Char → Bool
  | '_' :: '_' :: _ => true
  | _ :: rest => hasDoubleUnderscore rest
  | [] => false

def lenientDecimal? (cs : List Char) : Option Binary64 :=
  match decimal? (trimChars isWhiteSpace cs) with
  | some x => some x
  | none =>
    if cs.head? = some '_' ∨ cs.getLast? = some '_' ∨ hasDoubleUnderscore cs ∨ !cs.contains '_' then
      none
    else decimal? (cs.filter (· ≠ '_'))

def signed (negative : Bool) (digits : List Nat) : Int :=
  if negative then -(ofDigits 10 digits) else ofDigits 10 digits

def isZeroFraction : List Char → Bool
  | '.' :: zeros => !zeros.isEmpty && zeros.all (· = '0')
  | _ => false

/-- Why no whole number is read: the text is none in a base, or it has too many digits. -/
inductive IntegerFault
  | unreadable (base : Nat) (text : List Char)
  | oversized (digits : Nat)
  deriving DecidableEq, Repr

/-- The most characters of a text that a message about it shows, quotes included. -/
def shownCharacters : Nat := 200

def IntegerFault.message : IntegerFault → String
  | .unreadable base text =>
    "invalid literal for int() with base " ++ toString base ++ ": " ++
      String.ofList ((quoted (String.ofList text)).toList.take shownCharacters)
  | .oversized digits =>
    "Exceeds the limit (" ++ toString longestInteger ++
      " digits) for integer string conversion: value has " ++ toString digits ++
      " digits; use sys.set_int_max_str_digits() to increase the limit"

/-- What follows leading zeros and the underscores among them, of which `last` has been read. A
digit, a sign or a point may follow; before a point, or where nothing follows, the last one
stays. -/
def afterZeros? (last : Char) : List Char → Option (List Char)
  | [] => some [last]
  | c :: rest =>
    if c = '0' ∨ c = '_' then afterZeros? c rest
    else if c.isDigit ∨ c = '-' then some (c :: rest)
    else if c = '.' then some (last :: c :: rest)
    else none

def dropLeadingZeros? : List Char → Option (List Char)
  | [] => none
  | c :: rest =>
    if c = '0' then afterZeros? c rest
    else if c.isDigit ∨ c = '-' then some (c :: rest)
    else none

/-- A text without a plus sign in front, which no minus sign may follow. -/
def dropPlus? : List Char → Option (List Char)
  | '+' :: '-' :: _ => none
  | '+' :: rest => some rest
  | cs => some cs

/-- The digits of a whole number by the strict rule, with the sign and the underscores that are left
between them: a point with zeros only is passed over. -/
def strictDigits? (cs : List Char) : Option (List Char) := do
  let cs ← dropLeadingZeros? (← dropPlus? (trimChars isWhiteSpace cs))
  let whole := cs.takeWhile (· ≠ '.')
  let rest := cs.dropWhile (· ≠ '.')
  if rest.isEmpty ∨ isZeroFraction rest then some whole else none

/-- The strict rule: between white space, a sign, leading zeros, and ASCII digits with single
underscores inside; a point with zeros only may follow. A minus sign may also stand after the
leading zeros, which do not count for the size. -/
def strictInt (cs : List Char) : Except IntegerFault Int :=
  let unreadable : Except IntegerFault Int := .error (.unreadable 10 cs)
  match strictDigits? cs with
  | none => unreadable
  | some signedDigits =>
    let (negative, digits) := takeSign signedDigits
    let size := (digits.filter (· ≠ '_')).length
    if longestInteger < size then .error (.oversized size)
    else
      match digitsUnderscored? asciiDigit? false digits with
      | some ds => .ok (signed negative ds)
      | none => unreadable

/-- The liberal rule: between white space, an optional sign and digits of any script with single
underscores inside. -/
def liberalInt? (cs : List Char) : Option Int :=
  let (negative, body) := takeSign (trimChars isWhiteSpace cs)
  (digitsUnderscored? digitValue? false body).map (signed negative)

/-- A whole number by the liberal rule, of no more digits than one may have. That there are too
many is found before anything is that follows them. -/
def boundedInt (cs : List Char) : Except IntegerFault Int :=
  let (negative, body) := takeSign (cs.dropWhile isWhiteSpace)
  let isInner (c : Char) : Bool := (digitValue? c).isSome || c == '_'
  match digitsUnderscored? digitValue? false (body.takeWhile isInner) with
  | none => .error (.unreadable 10 cs)
  | some ds =>
    if longestInteger < ds.length then .error (.oversized ds.length)
    else if (body.dropWhile isInner).all isWhiteSpace then .ok (signed negative ds)
    else .error (.unreadable 10 cs)

end Formwork.Number.Reading
