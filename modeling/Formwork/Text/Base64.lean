import Formwork.Text.Utf8

/-!
Octets written as base64. Characters outside the alphabet are skipped, and what follows the
padding is not looked at.
-/

namespace Formwork.Text.Base64

def sextet? (c : Char) : Option Nat :=
  if 'A' ≤ c ∧ c ≤ 'Z' then some (c.toNat - 65)
  else if 'a' ≤ c ∧ c ≤ 'z' then some (c.toNat - 71)
  else if '0' ≤ c ∧ c ≤ '9' then some (c.toNat + 4)
  else if c = '+' then some 62
  else if c = '/' then some 63
  else none

/-- The octets that four characters, or the last two or three, stand for. -/
def groupOctets : List Nat → Octets
  | [a, b] => [(a * 4 + b / 16).toUInt8]
  | [a, b, c] => [(a * 4 + b / 16).toUInt8, (b % 16 * 16 + c / 4).toUInt8]
  | [a, b, c, d] =>
    [(a * 4 + b / 16).toUInt8, (b % 16 * 16 + c / 4).toUInt8, (c % 4 * 64 + d).toUInt8]
  | _ => []

/-- The octets of a text of which the characters `group` and then `pads` padding characters have
been read since the last full group. An incomplete group needs its padding. -/
def decodeFrom (group : List Nat) (pads : Nat) : List Char → Option Octets
  | [] => if group.isEmpty then some [] else none
  | c :: rest =>
    if c = '=' then
      if 2 ≤ group.length ∧ 4 ≤ group.length + pads + 1 then some (groupOctets group)
      else decodeFrom group (if 2 ≤ group.length then pads + 1 else pads) rest
    else
      match sextet? c with
      | none => decodeFrom group pads rest
      | some n =>
        if group.length = 3 then (decodeFrom [] 0 rest).map (groupOctets (group ++ [n]) ++ ·)
        else decodeFrom (group ++ [n]) 0 rest

def decode (cs : List Char) : Option Octets := decodeFrom [] 0 cs

end Formwork.Text.Base64
