/-!
Halves of surrogate pairs. An escape may denote a half that stands alone, which is no character. A
text holds an unassigned character in its place, and every form in which a text is written shows
the half again. Texts with those unassigned characters of their own are not told apart from texts
with halves.
-/

namespace Formwork.Text

def isSurrogate (n : Nat) : Bool := 0xd800 ≤ n && n < 0xe000

/-- How far above a half the character lies that holds its place. -/
def halfShift : Nat := 0xd0000

/-- The character that a code point is, or that holds its place. -/
def charOfCode (n : Nat) : Char := Char.ofNat (if isSurrogate n then halfShift + n else n)

def isHalf (c : Char) : Bool := isSurrogate (c.toNat - halfShift)

def codeOfChar (c : Char) : Nat := if isHalf c then c.toNat - halfShift else c.toNat

/-- Whether a character holds the place of a half that stands for an octet in the name of a file. -/
def isOctetHalf (c : Char) : Bool :=
  isHalf c && 0xdc80 ≤ codeOfChar c && codeOfChar c < 0xdd00

def holdsHalf (s : String) : Bool := s.toList.any isHalf

def ofCodes (codes : List Nat) : String := String.ofList (codes.map charOfCode)

end Formwork.Text
