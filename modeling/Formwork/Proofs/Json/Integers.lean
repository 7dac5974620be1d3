import Formwork.Json.Decode
import Formwork.Proofs.Outcome

/-!
The whole numbers of a JSON text. A text has one fault that is none of form: a whole number of more
digits than one may have, which then stand side by side in the text.
-/

namespace Formwork.Json

open Number (longestInteger)

variable {α : Type} {cs : List Char}

/-- Whether some digits stand side by side in a text. -/
def HoldsDigits (cs : List Char) (n : Nat) : Prop :=
  ∃ digits, digits <:+: cs ∧ digits.length = n ∧ ∀ c ∈ digits, c.isDigit = true

def Error.IsOf (cs : List Char) : Error → Prop
  | .syntactic _ _ => True
  | .integer fault => ∃ n, fault = .oversized n ∧ longestInteger < n ∧ HoldsDigits cs n

/-- What has been read of a text is in front of a place of the text. -/
def Within (cs : List Char) (read : α × Cursor) : Prop := read.2.rest <:+ cs

theorem ends_fail {P : α → Prop} (problem : Problem) (position : Nat) :
    Ends P (Error.IsOf cs) (fail problem position) := trivial

section

variable {c : Cursor} (h : c.rest <:+ cs)

include h

theorem suffix_skip (n : Nat) : (c.skip n).rest <:+ cs := (List.drop_suffix n c.rest).trans h

theorem suffix_next : c.next.rest <:+ cs := (List.drop_suffix 1 c.rest).trans h

theorem suffix_skipBlanks : c.skipBlanks.rest <:+ cs := suffix_skip h _

theorem ends_readCodes (start fuel : Nat) (read : List Nat) :
    Ends (Within cs) (Error.IsOf cs) (readCodes start fuel read c) := by
  induction fuel generalizing read c with
  | zero => exact ends_fail _ _
  | succ fuel ih =>
      rw [readCodes]
      repeat' split
      all_goals first
        | exact ends_fail _ _
        | exact ih (suffix_skip h _) _
        | exact ih (suffix_next h) _
        | exact suffix_next h

theorem ends_readText : Ends (Within cs) (Error.IsOf cs) (readText c) :=
  (ends_readCodes h _ _ _).bind fun _ hread => hread

theorem ends_readNumber : Ends (Within cs) (Error.IsOf cs) (readNumber c) := by
  fun_cases readNumber c
  case case1 => exact ends_fail _ _
  case case2 negative body whole _ _ _ _ _ _ hlong =>
    have hbody : body <:+ c.rest := by
      show (if negative then c.rest.drop 1 else c.rest) <:+ c.rest
      split
      · exact List.drop_suffix 1 c.rest
      · exact List.suffix_refl _
    clear_value body
    -- a zero in front is a number of its own, so these are all the digits that stand here
    have hwhole : whole = body.takeWhile Char.isDigit := by
      have hcases : whole = ['0'] ∨ whole = body.takeWhile Char.isDigit := by
        simp only [whole]
        split
        · exact .inl rfl
        · exact .inr rfl
      refine hcases.resolve_left fun hzero => ?_
      rw [hzero] at hlong
      exact absurd hlong (by decide)
    refine ⟨whole.length, rfl, hlong, whole, ?_, rfl, ?_⟩
    · rw [hwhole]
      exact (List.takeWhile_prefix _).isInfix.trans (hbody.trans h).isInfix
    · rw [hwhole]
      exact fun d hd => List.all_eq_true.mp List.all_takeWhile d hd
  case case3 => exact suffix_skip h _
  case case4 => exact suffix_skip h _

end

theorem ends_read (fuel : Nat) :
    (∀ c : Cursor, c.rest <:+ cs → Ends (Within cs) (Error.IsOf cs) (readValue fuel c)) ∧
      (∀ (read : List Document) (c : Cursor), c.rest <:+ cs →
        Ends (Within cs) (Error.IsOf cs) (readItems fuel read c)) ∧
      ∀ (read : List (Document × Document)) (c : Cursor), c.rest <:+ cs →
        Ends (Within cs) (Error.IsOf cs) (readMembers fuel read c) := by
  induction fuel with
  | zero => exact ⟨fun _ _ => ends_fail _ _, fun _ _ _ => ends_fail _ _, fun _ _ _ => ends_fail _ _⟩
  | succ fuel ih =>
      obtain ⟨hvalue, hitems, hmembers⟩ := ih
      refine ⟨fun c h => ?value, fun read c h => ?items, fun read c h => ?members⟩
      case value =>
        rw [readValue]
        split
        · exact ends_readText (suffix_next h)
        · dsimp only
          split
          · exact suffix_next (suffix_skipBlanks (suffix_next h))
          · exact hmembers _ _ (suffix_skipBlanks (suffix_next h))
        · dsimp only
          split
          · exact suffix_next (suffix_skipBlanks (suffix_next h))
          · exact hitems _ _ (suffix_skipBlanks (suffix_next h))
        · split
          · exact suffix_skip h _
          · exact ends_readNumber h
      case items =>
        rw [readItems]
        refine (hvalue c h).bind fun (value, c) h => ?_
        dsimp only
        split
        · exact suffix_next (suffix_skipBlanks h)
        · exact hitems _ _ (suffix_skipBlanks (suffix_next (suffix_skipBlanks h)))
        · exact ends_fail _ _
      case members =>
        rw [readMembers]
        split
        · refine (ends_readText (suffix_next h)).bind fun (name, c) h => ?_
          dsimp only
          split
          · refine (hvalue _ (suffix_skipBlanks (suffix_next (suffix_skipBlanks h)))).bind
              fun (value, c) h => ?_
            dsimp only
            split
            · exact suffix_next (suffix_skipBlanks h)
            · exact hmembers _ _ (suffix_skipBlanks (suffix_next (suffix_skipBlanks h)))
            · exact ends_fail _ _
          · exact ends_fail _ _
        · exact ends_fail _ _

/-- A text that is no JSON has a fault of form or holds a whole number of too many digits. -/
theorem ends_decode (cs : List Char) : Ends (fun _ => True) (Error.IsOf cs) (decode cs) := by
  rw [decode]
  split
  · exact ends_fail _ _
  · refine ((ends_read _).1 _ (suffix_skipBlanks (List.suffix_refl cs))).bind fun (value, c) _ => ?_
    dsimp only
    split
    · trivial
    · exact ends_fail _ _

end Formwork.Json
