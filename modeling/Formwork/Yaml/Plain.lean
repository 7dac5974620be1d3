import Formwork.Text.Digit
import Formwork.Yaml.Cursor

/-!
The kind of value that a plain scalar stands for. Whole numbers may be binary, octal, decimal or
hexadecimal, or given in units of sixty; a number with a fraction needs a point, and its exponent
needs a sign.
-/

namespace Formwork.Yaml

/-- What a node stands for. -/
inductive Tag
  | null
  | bool
  | int
  | float
  | binary
  | timestamp
  | orderedMap
  | pairs
  | set
  | str
  | seq
  | map
  | merge
  | value
  | other (name : String)
  deriving DecidableEq, Repr, Inhabited

namespace Tag

def known : List (String × Tag) :=
  [("null", .null), ("bool", .bool), ("int", .int), ("float", .float), ("binary", .binary),
    ("timestamp", .timestamp), ("omap", .orderedMap), ("pairs", .pairs), ("set", .set),
    ("str", .str), ("seq", .seq), ("map", .map), ("merge", .merge), ("value", .value)]

/-- What the names of the known tags begin with. -/
def standardStart : String := "tag:yaml.org,2002:"

def ofName (name : String) : Tag :=
  ((known.find? fun entry => standardStart ++ entry.1 == name).map (·.2)).getD (.other name)

end Tag

namespace Plain

def booleanWords : List String :=
  ["yes", "Yes", "YES", "no", "No", "NO", "true", "True", "TRUE", "false", "False", "FALSE", "on",
    "On", "ON", "off", "Off", "OFF"]

/-- Words for no value. -/
def nullWords : List String := ["", "~", "null", "Null", "NULL"]

def unsigned : List Char → List Char
  | '-' :: rest | '+' :: rest => rest
  | cs => cs

def isDigitOrLow (c : Char) : Bool := c.isDigit || c = '_'

def startsNonzero : List Char → Bool
  | d :: _ => d.isDigit && d ≠ '0'
  | [] => false

def isSixtieth : List Char → Bool
  | [d] => d.isDigit
  | [t, d] => t.isDigit && t.toNat < '6'.toNat && d.isDigit
  | _ => false

def colonParts : List Char → List (List Char)
  | [] => [[]]
  | c :: rest =>
    if c = ':' then [] :: colonParts rest
    else
      match colonParts rest with
      | part :: more => (c :: part) :: more
      | [] => [[c]]

/-- Whether a text is a whole number, of any base. -/
def isInteger (cs : List Char) : Bool :=
  match unsigned cs with
  | ['0'] => true
  | '0' :: 'b' :: digits =>
    !digits.isEmpty && digits.all fun c => c = '0' || c = '1' || c = '_'
  | '0' :: 'x' :: digits =>
    !digits.isEmpty && digits.all fun c => (Text.hexValue? c).isSome || c = '_'
  | '0' :: digits =>
    !digits.isEmpty && digits.all fun c => ('0' ≤ c && c ≤ '7') || c = '_'
  | body =>
    startsNonzero body &&
      match colonParts body with
      | first :: rest => first.all isDigitOrLow && rest.all isSixtieth
      | [] => false

def isExponent : List Char → Bool
  | [] => true
  | e :: sign :: digits =>
    (e = 'e' || e = 'E') && (sign = '-' || sign = '+') && !digits.isEmpty && digits.all Char.isDigit
  | _ => false

def isFraction (cs : List Char) : Bool := isExponent (cs.dropWhile isDigitOrLow)

/-- Whether a text is a number with a point. -/
def isFloat (cs : List Char) : Bool :=
  let body := unsigned cs
  let infinity := [".inf", ".Inf", ".INF"].contains (String.ofList body)
  let noNumber := [".nan", ".NaN", ".NAN"].contains (String.ofList cs)
  let whole := body.takeWhile (· ≠ '.')
  match body.dropWhile (· ≠ '.') with
  | '.' :: fraction =>
    infinity || noNumber ||
      (match whole with
        | [] => cs.head? = some '.' && fraction.head?.any Char.isDigit && isFraction fraction
        | d :: more =>
          d.isDigit &&
            ((more.all isDigitOrLow && isFraction fraction) ||
              (match colonParts whole with
                | first :: rest =>
                  first.all isDigitOrLow && !rest.isEmpty && rest.all isSixtieth &&
                    fraction.all isDigitOrLow
                | [] => false)))
  | _ => false

/-- A time of the day, and the offset of its zone in minutes, if it is given by one. -/
structure ClockTime where
  hour : Nat
  minute : Nat
  second : Nat
  offset : Option Int := none
  deriving DecidableEq, Repr

structure Timestamp where
  year : Nat
  month : Nat
  day : Nat
  time : Option ClockTime := none
  deriving DecidableEq, Repr

/-- Between `least` and `most` digits at the front. -/
def digits? (least most : Nat) (cs : List Char) : Option (Nat × List Char) :=
  let ds := (cs.takeWhile Char.isDigit).take most
  if ds.length < least then none
  else some (Text.ofDigits 10 (ds.map fun d => d.toNat - 48), cs.drop ds.length)

def expect (c : Char) : List Char → Option (List Char)
  | d :: rest => if c = d then some rest else none
  | [] => none

def offset? (cs : List Char) : Option Nat := do
  let (hours, rest) ← digits? 1 2 cs
  if rest.isEmpty then return 60 * hours
  let (minutes, rest) ← digits? 2 2 (← expect ':' rest)
  if rest.isEmpty then return 60 * hours + minutes else none

/-- The zone at the end of a time: nothing, the letter of universal time, or an offset. -/
def zone? (cs : List Char) : Option (Option Int) :=
  match cs.dropWhile isGap with
  | [] => if cs.isEmpty then some none else none
  | ['Z'] => some none
  | '-' :: rest => (offset? rest).map fun n => some (-n)
  | '+' :: rest => (offset? rest).map fun n => some n
  | _ => none

/-- The time behind a date. -/
def time? (cs : List Char) : Option ClockTime := do
  let body ← match cs with
    | 'T' :: rest | 't' :: rest => some rest
    | c :: _ => if isGap c then some (cs.dropWhile isGap) else none
    | [] => none
  let (hour, rest) ← digits? 1 2 body
  let (minute, rest) ← digits? 2 2 (← expect ':' rest)
  let (second, rest) ← digits? 2 2 (← expect ':' rest)
  let rest := match rest with
    | '.' :: more => more.dropWhile Char.isDigit
    | _ => rest
  return { hour, minute, second, offset := ← zone? rest }

def trimFeed (cs : List Char) : List Char :=
  if cs.getLast? = some '\n' then cs.dropLast else cs

/-- The date or the point of time that a text gives. A line feed at its end does not count. -/
def timestamp? (cs : List Char) : Option Timestamp := do
  let (year, rest) ← digits? 4 4 (trimFeed cs)
  let afterYear ← expect '-' rest
  let (month, rest) ← digits? 1 2 afterYear
  let afterMonth ← expect '-' rest
  let (day, rest) ← digits? 1 2 afterMonth
  if rest.isEmpty then return { year, month, day }
  else return { year, month, day, time := some (← time? rest) }

/-- Whether a plain scalar is a date or a point of time. A date alone has all its digits. -/
def isTimestamp (cs : List Char) : Bool :=
  match timestamp? cs with
  | some t => t.time.isSome || cs.length = 10
  | none => false

/-- The kind of value that a plain scalar stands for. A line feed at its end does not count, but
a line feed alone is a text. -/
def tag (cs : List Char) : Tag :=
  let cs := if cs = ['\n'] then cs else trimFeed cs
  let word := String.ofList cs
  if booleanWords.contains word then .bool
  else if isFloat cs then .float
  else if isInteger cs then .int
  else if cs = ['<', '<'] then .merge
  else if nullWords.contains word then .null
  else if isTimestamp cs then .timestamp
  else if cs = ['='] then .value
  else .str

end Plain

end Formwork.Yaml
