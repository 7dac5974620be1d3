import Formwork.Proofs.Number.Writable
import Formwork.Proofs.TypeScript.Reading

/-!
Literals and validators are items. The text of a number has digits, signs, points and exponents
only, a text is quoted, and a list has its items between brackets; a validator is a name with a
literal behind it. Two directives with one validator are of one kind and have one literal.
-/

namespace Formwork.TypeScript

/-! ### Numbers -/

def isNumeral (c : Char) : Bool := c.isDigit || c == '-' || c == '+' || c == '.' || c == 'e'

/-- A text of characters that numbers are written with. -/
def Numeral (cs : List Char) : Prop := ∀ c ∈ cs, isNumeral c = true

theorem Numeral.append {cs ds : List Char} (hcs : Numeral cs) (hds : Numeral ds) :
    Numeral (cs ++ ds) :=
  List.forall_mem_append.mpr ⟨hcs, hds⟩

theorem Numeral.cons {c : Char} {cs : List Char} (hc : isNumeral c = true) (hcs : Numeral cs) :
    Numeral (c :: cs) :=
  List.forall_mem_cons.mpr ⟨hc, hcs⟩

theorem numeral_nil : Numeral [] := fun _ h => absurd h List.not_mem_nil

theorem Numeral.take {cs : List Char} (h : Numeral cs) (n : Nat) : Numeral (cs.take n) :=
  fun c hc => h c (List.mem_of_mem_take hc)

theorem Numeral.drop {cs : List Char} (h : Numeral cs) (n : Nat) : Numeral (cs.drop n) :=
  fun c hc => h c (List.mem_of_mem_drop hc)

theorem numeral_zeros (n : Nat) : Numeral (List.replicate n '0') := fun c hc => by
  rw [List.eq_of_mem_replicate hc]
  decide

theorem numeral_toDigits (n : Nat) : Numeral (Nat.toDigits 10 n) := fun c hc => by
  simp [isNumeral, Nat.isDigit_of_mem_toDigits (by decide) (by decide) hc]

theorem numeral_toString (n : Int) : Numeral (toString n).toList := by
  rw [Int.toString_eq_repr, Int.repr_eq_if]
  split
  · rw [Nat.repr_eq_ofList_toDigits, String.toList_ofList]
    exact numeral_toDigits _
  · simp only [String.toList_append, Nat.repr_eq_ofList_toDigits, String.toList_ofList]
    exact .append (.cons (by decide) numeral_nil) (numeral_toDigits _)

theorem numeral_exponentText (style : DecimalStyle) (n : Int) :
    Numeral (Binary64.exponentText style n) := by
  refine .append ?_ (.append (numeral_zeros _) (numeral_toDigits _))
  split
  · exact .cons (by decide) numeral_nil
  · split
    · exact .cons (by decide) numeral_nil
    · exact numeral_nil

theorem numeral_decimalText (style : DecimalStyle) (n : Nat) (place : Int) :
    Numeral (Binary64.decimalText style n place) := by
  have hdigits : Numeral (Binary64.digitsOf n) := numeral_toDigits n
  have hpoint : isNumeral '.' = true := by decide
  have hzero : isNumeral '0' = true := by decide
  rw [Binary64.decimalText]
  split
  · split
    · exact .append (.append hdigits (numeral_zeros _)) (.cons hpoint (.cons hzero numeral_nil))
    · split
      · exact .append (hdigits.take _) (.cons hpoint (hdigits.drop _))
      · exact .cons hzero (.cons hpoint (.append (numeral_zeros _) hdigits))
  · refine .append ?_ (.cons (by decide) (numeral_exponentText style _))
    -- the point of a mantissa stands behind its first digit
    split
    case h_1 d hd => exact hd ▸ hdigits
    case h_2 d rest _ hd =>
      obtain ⟨hfirst, hrest⟩ : isNumeral d = true ∧ Numeral rest :=
        List.forall_mem_cons.mp (hd ▸ hdigits)
      exact .cons hfirst (.cons hpoint hrest)
    case h_3 => exact numeral_nil

theorem numeral_text (negative : Bool) (m : Nat) (e : Int) :
    Numeral (Binary64.finite negative m e).text.toList := by
  have hbody : ∀ body, Numeral body → Numeral (if negative then '-' :: body else body) :=
    fun body h => by
      split
      · exact .cons (by decide) h
      · exact h
  rw [Binary64.text, Binary64.textIn, String.toList_ofList]
  refine hbody _ ?_
  split
  · exact .cons (by decide) (.cons (by decide) (.cons (by decide) numeral_nil))
  · exact numeral_decimalText _ _ _

theorem Numeral.whole {cs : List Char} (h : Numeral cs) : Whole cs := by
  refine whole_of_plain (List.all_eq_true.mpr fun c hc => ?_)
  have hquote : isNumeral '\'' = false := by decide
  have hopen : isNumeral '[' = false := by decide
  have hcomma : isNumeral ',' = false := by decide
  have hclose : isNumeral ']' = false := by decide
  have hnot : ∀ d, isNumeral d = false → c ≠ d := fun d hd heq => by
    rw [← heq, h c hc] at hd
    exact absurd hd (by decide)
  simp [isPlain, hnot _ hquote, hnot _ hopen, hnot _ hcomma, hnot _ hclose]

theorem whole_floatLiteral (x : Binary64) : Whole (floatLiteral x).toList := by
  cases x with
  | nan => exact whole_of_plain (by decide)
  | infinite negative => cases negative <;> exact whole_of_plain (by decide)
  | finite negative m e =>
      rw [floatLiteral]
      split
      · exact (numeral_toString _).whole
      · exact (numeral_text negative m e).whole

/-! ### Values -/

mutual

theorem whole_literalChars (v : Value) : Whole (literalChars v) := by
  cases v with
  | null => exact whole_of_plain (by decide)
  | bool b => cases b <;> exact whole_of_plain (by decide)
  | int n =>
      rw [literalChars]
      exact (numeral_toString n).whole
  | float x =>
      rw [literalChars]
      exact whole_floatLiteral x
  | str s =>
      rw [literalChars]
      exact whole_quotedChars s.toList
  | list items =>
      rw [literalChars]
      exact (enclosed_literalItems items).whole
  | object members =>
      rw [literalChars]
      exact whole_quotedChars _

theorem enclosed_literalItems (items : List Value) : Enclosed (literalItems items) := by
  cases items with
  | nil => exact whole_nil.enclosed
  | cons v rest =>
      cases rest with
      | nil =>
          rw [literalItems]
          exact (whole_literalChars v).enclosed
      | cons w rest =>
          rw [literalItems]
          · exact (whole_literalChars v).enclosed.append
              (enclosed_separator.append (enclosed_literalItems (w :: rest)))
          · simp

end

theorem literalChars_str (s : String) : literalChars (.str s) = quotedChars s.toList := by
  rw [literalChars]

theorem literalText_str_injective {s t : String}
    (h : literalText (.str s) = literalText (.str t)) : s = t := by
  have hchars := congrArg String.toList h
  rw [literalText, literalText, String.toList_ofList, String.toList_ofList, literalChars_str,
    literalChars_str] at hchars
  have happend : quotedChars s.toList ++ [] = quotedChars t.toList ++ [] := by rw [hchars]
  exact String.toList_injective (quotedChars_append_inj happend).1

end Formwork.TypeScript

namespace Formwork.Directive

open TypeScript

/-! ### Validators -/

def validatorText (d : Directive) : String := d.validatorWith (literalText d.argument)

/-- What stands behind the name of a validator: its argument, if it has one. -/
def call (d : Directive) : List Char :=
  if d.kind = .required then [] else '(' :: (literalChars d.argument ++ [')'])

theorem toList_validatorText (d : Directive) :
    d.validatorText.toList = "Validators.".toList ++ (d.kind.validatorName.toList ++ d.call) := by
  obtain ⟨kind, argument⟩ := d
  cases kind <;> simp [validatorText, validatorWith, call, DirectiveKind.validatorName, literalText]

theorem call_whole (d : Directive) : Whole d.call := by
  rw [call]
  split
  · exact whole_nil
  · have hopen : Whole ['('] := whole_of_plain (by decide)
    have hclose : Whole [')'] := whole_of_plain (by decide)
    exact hopen.append ((whole_literalChars d.argument).append hclose)

theorem validatorText_whole (d : Directive) : Whole d.validatorText.toList := by
  have hname : Whole d.kind.validatorName.toList := by
    cases d.kind <;> exact whole_of_plain (by decide)
  have hframe : Whole "Validators.".toList := whole_of_plain (by decide)
  rw [toList_validatorText]
  exact hframe.append (hname.append d.call_whole)

theorem validatorText_ne_nil (d : Directive) : d.validatorText.toList ≠ [] := by
  rw [toList_validatorText]
  simp

theorem takeWhile_validatorName_append_call (d : Directive) :
    (d.kind.validatorName.toList ++ d.call).takeWhile (· ≠ '(') = d.kind.validatorName.toList := by
  have hname : d.kind.validatorName.toList.all (· ≠ '(') = true := by
    cases d.kind <;> decide
  rw [List.takeWhile_append_of_pos (List.all_eq_true.mp hname), call]
  split <;> simp

theorem validatorName_injective {k k' : DirectiveKind} (h : k.validatorName = k'.validatorName) :
    k = k' := by
  cases k <;> cases k' <;> first | rfl | exact absurd h (by decide)

theorem validatorText_inj {d e : Directive} (h : d.validatorText = e.validatorText) :
    d.kind = e.kind ∧ (d.kind ≠ .required → literalText d.argument = literalText e.argument) := by
  have hchars : d.kind.validatorName.toList ++ d.call =
      e.kind.validatorName.toList ++ e.call := by
    have hall := congrArg String.toList h
    rw [toList_validatorText, toList_validatorText] at hall
    exact List.append_cancel_left hall
  have hkind : d.kind = e.kind := by
    have hname := congrArg (List.takeWhile (· ≠ '(')) hchars
    rw [takeWhile_validatorName_append_call, takeWhile_validatorName_append_call] at hname
    exact validatorName_injective (String.toList_injective hname)
  refine ⟨hkind, fun hargument => ?_⟩
  rw [hkind] at hchars
  have hcall := List.append_cancel_left hchars
  rw [call, call, if_neg hargument, if_neg (hkind ▸ hargument)] at hcall
  have hliteral := List.append_cancel_right (List.cons.inj hcall).2
  rw [literalText, literalText, hliteral]

/-- What the argument of a directive is, as far as its kind tells. -/
structure HasArgument (d : Directive) : Prop where
  required : d.kind = .required → d.argument = .null
  pattern : d.kind = .pattern → ∃ pattern, d.argument = .str pattern

theorem HasArgument.validator_eq {d : Directive} (h : d.HasArgument) :
    d.validator = Number.limited {} d.argument.isWritable d.validatorText := by
  have hliteral : literal d.argument =
      Number.limited {} d.argument.isWritable (literalText d.argument) := rfl
  obtain ⟨kind, argument⟩ := d
  cases kind with
  | required =>
      obtain rfl : argument = .null := h.required rfl
      rfl
  | minLength | maxLength | pattern | min | max =>
      rw [validator, hliteral]
      exact Number.limited_bind_pure _ _ _ _

theorem HasArgument.of_kind {kind : DirectiveKind} (hrequired : kind ≠ .required)
    (hpattern : kind ≠ .pattern) (argument : Value) : HasArgument ⟨kind, argument⟩ :=
  ⟨fun h => absurd h hrequired, fun h => absurd h hpattern⟩

theorem hasArgument_requiredIf {condition : Bool} {d : Directive}
    (hd : d ∈ requiredIf condition) : HasArgument d := by
  rw [requiredIf] at hd
  split at hd
  · cases List.mem_singleton.mp hd
    exact ⟨fun _ => rfl, fun h => absurd h (by decide)⟩
  · exact absurd hd List.not_mem_nil

theorem hasArgument_patternOf {regex : Option String} {d : Directive}
    (hd : d ∈ patternOf regex) : HasArgument d := by
  rw [patternOf.eq_def] at hd
  split at hd
  · split at hd
    · exact absurd hd List.not_mem_nil
    · cases List.mem_singleton.mp hd
      exact ⟨nofun, fun _ => ⟨_, rfl⟩⟩
  · exact absurd hd List.not_mem_nil

theorem hasArgument_lengthOf {kind : DirectiveKind} (hrequired : kind ≠ .required)
    (hpattern : kind ≠ .pattern) {length : Option Nat} {d : Directive}
    (hd : d ∈ lengthOf kind length) : HasArgument d := by
  rw [lengthOf.eq_def] at hd
  split at hd
  · cases List.mem_singleton.mp hd
    exact .of_kind hrequired hpattern _
  · exact absurd hd List.not_mem_nil

theorem hasArgument_rangeOf {range : Option (Number × Number)} {d : Directive}
    (hd : d ∈ rangeOf range) : HasArgument d := by
  rw [rangeOf.eq_def] at hd
  split at hd
  · simp only [List.mem_cons, List.not_mem_nil, or_false] at hd
    rcases hd with rfl | rfl <;> exact .of_kind (by decide) (by decide) _
  · exact absurd hd List.not_mem_nil

theorem hasArgument_of_mem_ofField {f : Field} {d : Directive} (hd : d ∈ ofField f) :
    HasArgument d := by
  rw [ofField] at hd
  split at hd
  · rcases List.mem_append.mp hd with hd | hd
    · exact hasArgument_requiredIf hd
    · exact hasArgument_patternOf hd
  · simp only [ofBundle, List.mem_append] at hd
    rcases hd with (((hd | hd) | hd) | hd) | hd
    · exact hasArgument_requiredIf hd
    · exact hasArgument_lengthOf (by decide) (by decide) hd
    · exact hasArgument_lengthOf (by decide) (by decide) hd
    · exact hasArgument_patternOf hd
    · exact hasArgument_rangeOf hd

theorem validators_eq (f : Field) :
    (CompiledField.ofField f).validators =
      Number.limited {} ((ofField f).all (·.argument.isWritable))
        ((ofField f).map validatorText) :=
  Number.mapM_limited fun _ hd => (hasArgument_of_mem_ofField hd).validator_eq

end Formwork.Directive
