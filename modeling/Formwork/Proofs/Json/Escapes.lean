import Formwork.Json.Decode
import Formwork.Json.Encode
import Formwork.Proofs.Text.Utf8
import Mathlib.Tactic.IntervalCases

/-!
Texts in JSON are read back. Each character inside a text is written in one of three ways: as
itself, as a short escape or by its code units, of which a character outside the basic plane has
two. Whichever it is, the reader comes to the code point of the character and stops behind it, so
that a text without halves of surrogate pairs is read as itself.
-/

namespace Formwork.Json

open Text

/-! ### Code units -/

theorem hexValue?_hexDigit {n : Nat} (h : n < 16) : hexValue? (hexDigit n) = some n := by
  interval_cases n <;> rfl

theorem hexDigits_four (n : Nat) :
    hexDigits 4 n = [hexDigit (n / 4096 % 16), hexDigit (n / 256 % 16), hexDigit (n / 16 % 16),
      hexDigit (n % 16)] := by
  simp only [hexDigits, List.nil_append, List.cons_append]
  norm_num [Nat.div_div_eq_div_mul]

theorem unit?_hexDigits {n : Nat} (h : n < 0x10000) (rest : List Char) :
    unit? (hexDigits 4 n ++ rest) = some n := by
  have hdigit : ∀ k, hexValue? (hexDigit (k % 16)) = some (k % 16) := fun k =>
    hexValue?_hexDigit (Nat.mod_lt k (by decide))
  rw [hexDigits_four]
  simp only [unit?, List.cons_append, List.nil_append, List.take, List.mapM_cons, List.mapM_nil,
    hdigit, bind, Option.bind, pure, ofDigits, List.foldl, Option.some.injEq]
  omega

theorem drop_hexDigits (n : Nat) (rest : List Char) : (hexDigits 4 n ++ rest).drop 4 = rest := by
  rw [hexDigits_four]
  rfl

theorem codeOfChar_of_not_half {c : Char} (h : isHalf c = false) : codeOfChar c = c.toNat := by
  rw [codeOfChar, h]
  rfl

theorem not_isSurrogate (c : Char) : isSurrogate c.toNat = false := by
  rw [isSurrogate, Bool.and_eq_false_iff, decide_eq_false_iff_not, decide_eq_false_iff_not]
  have := Utf8.toNat_cases c
  omega

theorem charOfCode_toNat (c : Char) : charOfCode c.toNat = c := by
  rw [charOfCode, not_isSurrogate]
  exact Char.ofNat_toNat c

theorem joinSurrogates_eq (high low : Nat) :
    joinSurrogates high low = 0x10000 + (high - 0xd800) * 0x400 + (low - 0xdc00) := rfl

theorem joinSurrogates_add (a b : Nat) :
    joinSurrogates (0xd800 + a) (0xdc00 + b) = 0x10000 + a * 0x400 + b := by
  have hhigh : 0xd800 + a - 0xd800 = a := Nat.add_sub_cancel_left 0xd800 a
  have hlow : 0xdc00 + b - 0xdc00 = b := Nat.add_sub_cancel_left 0xdc00 b
  simp only [joinSurrogates_eq, hhigh, hlow]

theorem joinSurrogates_halves {n : Nat} (h : 0x10000 ≤ n) :
    joinSurrogates (0xd800 + (n - 0x10000) / 0x400) (0xdc00 + (n - 0x10000) % 0x400) = n := by
  rw [joinSurrogates_add]
  omega

/-- A pair of code units, as it is decoded. -/
structure IsPair (high low n : Nat) : Prop where
  isHigh : isHighSurrogate high = true
  isLow : isLowSurrogate low = true
  joined : joinSurrogates high low = n

theorem IsPair.high_lt {high low n : Nat} (h : IsPair high low n) : high < 0x10000 := by
  have := h.isHigh
  simp only [isHighSurrogate, Bool.and_eq_true, decide_eq_true_eq] at this
  omega

theorem IsPair.low_lt {high low n : Nat} (h : IsPair high low n) : low < 0x10000 := by
  have := h.isLow
  simp only [isLowSurrogate, Bool.and_eq_true, decide_eq_true_eq] at this
  omega

theorem isPair_halves {n : Nat} (h : 0x10000 ≤ n) (hn : n < 0x110000) :
    IsPair (0xd800 + (n - 0x10000) / 0x400) (0xdc00 + (n - 0x10000) % 0x400) n where
  isHigh := by
    simp only [isHighSurrogate, Bool.and_eq_true, decide_eq_true_eq]
    omega
  isLow := by
    simp only [isLowSurrogate, Bool.and_eq_true, decide_eq_true_eq]
    omega
  joined := joinSurrogates_halves h

theorem charEscape_cases {ch : Char} (hhalf : isHalf ch = false) :
    (charEscape ch = unitEscape ch.toNat ∧ ch.toNat < 0x10000 ∧
        isHighSurrogate ch.toNat = false) ∨
      ∃ high low, charEscape ch = unitEscape high ++ unitEscape low ∧ IsPair high low ch.toNat := by
  have hcode := Utf8.toNat_cases ch
  rw [charEscape, codeOfChar_of_not_half hhalf]
  by_cases hn : ch.toNat < 0x10000
  · refine .inl ⟨if_pos hn, hn, ?_⟩
    rw [isHighSurrogate, Bool.and_eq_false_iff, decide_eq_false_iff_not, decide_eq_false_iff_not]
    omega
  · exact .inr ⟨_, _, if_neg hn, isPair_halves (by omega) (by omega)⟩

theorem readCodes_charEscape {ch : Char} (hhalf : isHalf ch = false) {c : Cursor} {more : List Char}
    (hrest : c.rest = charEscape ch ++ more) (hmore : more ≠ []) (start fuel : Nat)
    (read : List Nat) :
    ∃ c' : Cursor, c'.rest = more ∧
      readCodes start (fuel + 1) read c = readCodes start fuel (ch.toNat :: read) c' := by
  obtain ⟨m, ms, rfl⟩ := List.exists_cons_of_ne_nil hmore
  rcases charEscape_cases hhalf with ⟨hescape, hlt, hhigh⟩ | ⟨high, low, hescape, hpair⟩
  · rw [hescape] at hrest
    refine ⟨c.skip 6, ?_, ?_⟩
    · show c.rest.drop 6 = _
      rw [hrest, unitEscape, hexDigits_four]
      rfl
    · rw [readCodes, hrest]
      simp only [unitEscape, List.cons_append, drop_hexDigits, unit?_hexDigits hlt, hhigh]
  · rw [hescape] at hrest
    refine ⟨c.skip 12, ?_, ?_⟩
    · show c.rest.drop 12 = _
      rw [hrest, unitEscape, unitEscape, hexDigits_four, hexDigits_four]
      rfl
    · rw [readCodes, hrest]
      simp only [unitEscape, List.cons_append, List.append_assoc, drop_hexDigits,
        unit?_hexDigits hpair.high_lt, unit?_hexDigits hpair.low_lt, hpair.isHigh, hpair.isLow,
        hpair.joined, if_true]

/-- One character of a text is read, whatever was read before it. -/
theorem readCodes_encodeChar (style : EncodingStyle) {ch : Char} (hhalf : isHalf ch = false)
    {c : Cursor} {more : List Char} (hrest : c.rest = encodeChar style ch ++ more)
    (hmore : more ≠ []) (start fuel : Nat) (read : List Nat) :
    ∃ c' : Cursor, c'.rest = more ∧
      readCodes start (fuel + 1) read c = readCodes start fuel (ch.toNat :: read) c' := by
  have hshort : ∀ (e : Char) (code : Nat), e ≠ 'u' → shortEscape? e = some code →
      c.rest = '\\' :: e :: more → ∃ c' : Cursor, c'.rest = more ∧
        readCodes start (fuel + 1) read c = readCodes start fuel (code :: read) c' := by
    intro e code he hcode hrest
    refine ⟨c.skip 2, ?_, ?_⟩
    · show c.rest.drop 2 = more
      rw [hrest]
      rfl
    · rw [readCodes, hrest]
      simp [hcode]
  rw [encodeChar] at hrest
  split at hrest
  case isTrue h => exact h ▸ hshort '"' _ (by decide) rfl hrest
  split at hrest
  case isTrue h => exact h ▸ hshort '\\' _ (by decide) rfl hrest
  split at hrest
  case isTrue h => exact h ▸ hshort 'n' _ (by decide) rfl hrest
  split at hrest
  case isTrue h => exact h ▸ hshort 'r' _ (by decide) rfl hrest
  split at hrest
  case isTrue h => exact h ▸ hshort 't' _ (by decide) rfl hrest
  split at hrest
  case isTrue h => exact h ▸ hshort 'b' _ (by decide) rfl hrest
  split at hrest
  case isTrue h => exact h ▸ hshort 'f' _ (by decide) rfl hrest
  split at hrest
  case isTrue h => exact readCodes_charEscape hhalf hrest hmore start fuel read
  case isFalse hquote hbackslash _ _ _ _ _ hplain =>
    refine ⟨c.next, ?_, ?_⟩
    · show c.rest.drop 1 = more
      rw [hrest]
      rfl
    · rw [readCodes, hrest]
      have hnot : ¬ ch < ' ' := fun h => hplain (.inl h)
      simp [hnot]

/-! ### Texts -/

/-- An outcome of reading that gives something and stops in front of the rest. -/
def Reads {α : Type} (outcome : Except Error (α × Cursor)) (a : α) (rest : List Char) : Prop :=
  ∃ c, outcome = .ok (a, c) ∧ c.rest = rest

theorem reads_readCodes (style : EncodingStyle) {cs : List Char}
    (hhalf : ∀ ch ∈ cs, isHalf ch = false) {c : Cursor} {rest : List Char}
    (hrest : c.rest = cs.flatMap (encodeChar style) ++ '"' :: rest) (start : Nat) {fuel : Nat}
    (hfuel : cs.length < fuel) (read : List Nat) :
    Reads (readCodes start fuel read c) (read.reverse ++ cs.map Char.toNat) rest := by
  obtain ⟨fuel, rfl⟩ := Nat.exists_eq_add_one_of_ne_zero (Nat.ne_of_gt (Nat.zero_lt_of_lt hfuel))
  induction cs generalizing c fuel read with
  | nil =>
      refine ⟨c.next, ?_, ?_⟩
      · rw [readCodes, hrest]
        simp
      · show c.rest.drop 1 = rest
        rw [hrest]
        rfl
  | cons ch cs ih =>
      rw [List.flatMap_cons, List.append_assoc] at hrest
      obtain ⟨c', hrest', hread⟩ := readCodes_encodeChar style (hhalf ch List.mem_cons_self) hrest
        (by simp) start fuel read
      rw [List.length_cons] at hfuel
      obtain ⟨fuel, rfl⟩ : ∃ k, fuel = k + 1 := ⟨fuel - 1, by omega⟩
      obtain ⟨c'', hcodes, hend⟩ := ih (fun d hd => hhalf d (List.mem_cons_of_mem ch hd)) hrest'
        (ch.toNat :: read) fuel (by omega)
      refine ⟨c'', ?_, hend⟩
      rw [hread, hcodes, List.reverse_cons, List.append_assoc]
      rfl

theorem length_le_flatMap_encodeChar (style : EncodingStyle) (cs : List Char) :
    cs.length ≤ (cs.flatMap (encodeChar style)).length := by
  induction cs with
  | nil => exact Nat.le_refl _
  | cons ch cs ih =>
      have hpos : 1 ≤ (encodeChar style ch).length := by
        rw [encodeChar, charEscape, unitEscape, unitEscape]
        repeat' split
        all_goals simp
      rw [List.flatMap_cons, List.length_cons, List.length_append]
      omega

theorem reads_readText (style : EncodingStyle) {s : String} (hhalf : holdsHalf s = false)
    {c : Cursor} {rest : List Char} (hrest : '"' :: c.rest = encodeText style s ++ rest) :
    Reads (readText c) (.text s) rest := by
  have hinner : c.rest = s.toList.flatMap (encodeChar style) ++ '"' :: rest := by
    simpa [encodeText] using hrest
  have hchars : ∀ ch ∈ s.toList, isHalf ch = false := by
    simpa [holdsHalf] using hhalf
  have hfuel : s.toList.length < c.rest.length + 1 := by
    have := length_le_flatMap_encodeChar style s.toList
    rw [hinner, List.length_append]
    omega
  obtain ⟨c', hcodes, hend⟩ := reads_readCodes style hchars hinner (c.position - 1) hfuel []
  have htext : ofCodes (s.toList.map Char.toNat) = s := by
    rw [ofCodes, List.map_map]
    have hid : charOfCode ∘ Char.toNat = id := funext charOfCode_toNat
    rw [hid, List.map_id, String.ofList_toList]
  refine ⟨c', ?_, hend⟩
  rw [readText, hcodes]
  show Except.ok (Document.text (ofCodes ([].reverse ++ s.toList.map Char.toNat)), c') = _
  rw [List.reverse_nil, List.nil_append, htext]

end Formwork.Json
