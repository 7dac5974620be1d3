import Formwork.Text.Digit
import Formwork.Text.Surrogate

/-!
UTF-8 as a sequence of octets. Decoding is strict: it stops at the first octets that are no
character and says which they are and what is wrong with them. A lenient reading puts a
replacement character in the place of each such group and goes on. Encoding stops at halves of
surrogate pairs.
-/

namespace Formwork.Text

abbrev Octets := List UInt8

namespace Utf8

inductive Fault | invalidStart | invalidContinuation | truncated
  deriving DecidableEq, Repr

/-- A group of `length` octets, `start` octets into the input, that encodes no character. -/
structure Failure where
  fault : Fault
  octet : UInt8
  start : Nat
  length : Nat
  deriving DecidableEq, Repr

def Fault.reason : Fault → String
  | .invalidStart => "invalid start byte"
  | .invalidContinuation => "invalid continuation byte"
  | .truncated => "unexpected end of data"

/-- The text of a failure. A single octet is shown by its value. -/
def Failure.message (f : Failure) : String :=
  let place :=
    if f.length = 1 then
      "byte 0x" ++ String.ofList (hexDigits 2 f.octet.toNat) ++ " in position " ++
        toString f.start
    else
      "bytes in position " ++ toString f.start ++ "-" ++ toString (f.start + f.length - 1)
  "'utf-8' codec can't decode " ++ place ++ ": " ++ f.fault.reason

inductive Step
  | char (c : Char) (rest : Octets)
  | bad (fault : Fault) (length : Nat) (rest : Octets)

def isContinuation (b : UInt8) : Bool := 0x80 ≤ b && b < 0xc0

def payload (b : UInt8) : Nat := b.toNat % 64

/-- The second octet of a character of three: neither overlong nor a surrogate. -/
def isSecondOfThree (a b : UInt8) : Bool :=
  isContinuation b && !(if b < 0xa0 then a == 0xe0 else a == 0xed)

/-- The second octet of a character of four: neither overlong nor above the last code point. -/
def isSecondOfFour (a b : UInt8) : Bool :=
  isContinuation b && !(if b < 0x90 then a == 0xf0 else a == 0xf4)

/-- Reads a character that begins with `a`. -/
def step (a : UInt8) (rest : Octets) : Step :=
  if a < 0x80 then .char (Char.ofNat a.toNat) rest
  else if a < 0xc2 then .bad .invalidStart 1 rest
  else if a < 0xe0 then
    match rest with
    | b :: rest' =>
      if isContinuation b then .char (Char.ofNat (a.toNat % 32 * 64 + payload b)) rest'
      else .bad .invalidContinuation 1 rest
    | [] => .bad .truncated 1 []
  else if a < 0xf0 then
    match rest with
    | [] => .bad .truncated 1 []
    | b :: rest₁ =>
      if !isSecondOfThree a b then .bad .invalidContinuation 1 rest
      else match rest₁ with
        | [] => .bad .truncated 2 []
        | c :: rest₂ =>
          if isContinuation c then
            .char (Char.ofNat ((a.toNat % 16 * 64 + payload b) * 64 + payload c)) rest₂
          else .bad .invalidContinuation 2 rest₁
  else if a < 0xf5 then
    match rest with
    | [] => .bad .truncated 1 []
    | b :: rest₁ =>
      if !isSecondOfFour a b then .bad .invalidContinuation 1 rest
      else match rest₁ with
        | [] => .bad .truncated 2 []
        | c :: rest₂ =>
          if !isContinuation c then .bad .invalidContinuation 2 rest₁
          else match rest₂ with
            | [] => .bad .truncated 3 []
            | d :: rest₃ =>
              if isContinuation d then
                .char (Char.ofNat
                  (((a.toNat % 8 * 64 + payload b) * 64 + payload c) * 64 + payload d)) rest₃
              else .bad .invalidContinuation 3 rest₂
  else .bad .invalidStart 1 rest

def Step.rest : Step → Octets
  | .char _ rest => rest
  | .bad _ _ rest => rest

theorem length_rest_step (a : UInt8) (rest : Octets) : (step a rest).rest.length ≤ rest.length := by
  unfold step
  repeat' split
  all_goals simp only [Step.rest, List.length_cons, List.length_nil]
  all_goals omega

/-- Strict decoding of octets that begin `offset` octets into the input. -/
def decodeFrom (offset : Nat) : Octets → Except Failure (List Char)
  | [] => .ok []
  | a :: rest =>
    match _h : step a rest with
    | .char c rest' => do
      let cs ← decodeFrom (offset + (rest.length + 1 - rest'.length)) rest'
      return c :: cs
    | .bad fault length _ => .error ⟨fault, a, offset, length⟩
  termination_by octets => octets.length
  decreasing_by
    have := length_rest_step a rest
    rw [_h] at this
    simp only [Step.rest] at this
    simp only [List.length_cons]
    omega

def decode (octets : Octets) : Except Failure (List Char) := decodeFrom 0 octets

/-- The text of an input, with a replacement character for each group that is no character. -/
def decodeLenient : Octets → List Char
  | [] => []
  | a :: rest =>
    match _h : step a rest with
    | .char c rest' => c :: decodeLenient rest'
    | .bad _ _ rest' => '\uFFFD' :: decodeLenient rest'
  termination_by octets => octets.length
  decreasing_by
    all_goals
      have := length_rest_step a rest
      rw [_h] at this
      simp only [Step.rest] at this
      simp only [List.length_cons]
      omega

def encodeChar (c : Char) : Octets :=
  let n := c.toNat
  if n < 0x80 then [n.toUInt8]
  else if n < 0x800 then [(0xc0 + n / 64).toUInt8, (0x80 + n % 64).toUInt8]
  else if n < 0x10000 then
    [(0xe0 + n / 4096).toUInt8, (0x80 + n / 64 % 64).toUInt8, (0x80 + n % 64).toUInt8]
  else
    [(0xf0 + n / 262144).toUInt8, (0x80 + n / 4096 % 64).toUInt8, (0x80 + n / 64 % 64).toUInt8,
      (0x80 + n % 64).toUInt8]

def encode (cs : List Char) : Octets := cs.flatMap encodeChar

/-- A group of `length` halves of surrogate pairs, `start` characters into a text, the first of them
the half `code`. -/
structure EncodeFailure where
  code : Nat
  start : Nat
  length : Nat
  deriving DecidableEq, Repr

/-- The text of a failure. A single half is shown by its code point. -/
def EncodeFailure.message (f : EncodeFailure) : String :=
  let place :=
    if f.length = 1 then
      "character '\\u" ++ String.ofList (hexDigits 4 f.code) ++ "' in position " ++ toString f.start
    else
      "characters in position " ++ toString f.start ++ "-" ++ toString (f.start + f.length - 1)
  "'utf-8' codec can't encode " ++ place ++ ": surrogates not allowed"

def firstRefused? (refused : Char → Bool) (cs : List Char) : Option EncodeFailure :=
  let before := cs.takeWhile fun c => !refused c
  let halves := (cs.drop before.length).takeWhile isHalf
  halves.head?.map fun c => ⟨codeOfChar c, before.length, halves.length⟩

/-- The first halves of surrogate pairs in a text. -/
def firstHalves? : List Char → Option EncodeFailure := firstRefused? isHalf

def encodeStrict (cs : List Char) : Except EncodeFailure Octets :=
  match firstHalves? cs with
  | some f => .error f
  | none => .ok (encode cs)

/-! ### Names of files -/

def nameOctets (cs : List Char) : Octets :=
  cs.flatMap fun c =>
    if isOctetHalf c then [(codeOfChar c - 0xdc00).toUInt8] else encodeChar c

/-- The first halves that keep a text from being a name. -/
def firstUnnamed? : List Char → Option EncodeFailure :=
  firstRefused? fun c => isHalf c && !isOctetHalf c

end Utf8

end Formwork.Text
