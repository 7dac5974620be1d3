import Formwork.Text.Utf8

/-!
What is encoded can be read back. The octets of a character are read as that character, whatever
follows them, and so the octets of a text are decoded to the text. A text is encoded unless it holds
halves of surrogate pairs.
-/

namespace Formwork.Text.Utf8

theorem toNat_octet {n : Nat} (h : n < 256) : n.toUInt8.toNat = n := by
  rw [Nat.toUInt8_eq, UInt8.toNat_ofNat', Nat.mod_eq_of_lt h]

theorem octet_lt {m : Nat} (k : Nat) (h : m < k) (hk : k < 256) : m.toUInt8 < k.toUInt8 := by
  rw [UInt8.lt_iff_toNat_lt, toNat_octet (Nat.lt_trans h hk), toNat_octet hk]
  exact h

theorem not_octet_lt {m : Nat} (k : Nat) (h : k ≤ m) (hm : m < 256) :
    ¬ m.toUInt8 < k.toUInt8 := by
  rw [UInt8.lt_iff_toNat_lt, toNat_octet hm, toNat_octet (Nat.lt_of_le_of_lt h hm)]
  exact Nat.not_lt.mpr h

/-- A code point is no half of a surrogate pair and not beyond the last one. -/
theorem toNat_cases (c : Char) : c.toNat < 0xd800 ∨ (0xe000 ≤ c.toNat ∧ c.toNat < 0x110000) := by
  have hvalid := c.valid
  have hnat : c.toNat = c.val.toNat := rfl
  rw [hnat]
  rcases hvalid with h | ⟨h, h'⟩
  · exact .inl h
  · exact .inr ⟨h, h'⟩

section

variable {n : Nat} (rest : Octets)

theorem step_one (h : n < 0x80) : step n.toUInt8 rest = .char (Char.ofNat n) rest := by
  have ha := toNat_octet (show n < 256 by omega)
  have hlow : n.toUInt8 < 0x80 := octet_lt 0x80 h (by decide)
  rw [step.eq_def, if_pos hlow, ha]

theorem continuation (n : Nat) :
    isContinuation (0x80 + n % 64).toUInt8 = true ∧ payload (0x80 + n % 64).toUInt8 = n % 64 := by
  have hb := toNat_octet (show 0x80 + n % 64 < 256 by omega)
  refine ⟨?_, ?_⟩
  · rw [isContinuation, Bool.and_eq_true, decide_eq_true_iff, decide_eq_true_iff,
      UInt8.le_iff_toNat_le, UInt8.lt_iff_toNat_lt, hb]
    exact ⟨Nat.le_add_right _ _, show 0x80 + n % 64 < 0xc0 by omega⟩
  · rw [payload, hb]
    omega

theorem step_two (h : 0x80 ≤ n) (h' : n < 0x800) :
    step (0xc0 + n / 64).toUInt8 ((0x80 + n % 64).toUInt8 :: rest) =
      .char (Char.ofNat n) rest := by
  have ha := toNat_octet (show 0xc0 + n / 64 < 256 by omega)
  obtain ⟨hb, hpayload⟩ := continuation n
  have h₁ : ¬ (0xc0 + n / 64).toUInt8 < 0x80 := not_octet_lt 0x80 (by omega) (by omega)
  have h₂ : ¬ (0xc0 + n / 64).toUInt8 < 0xc2 := not_octet_lt 0xc2 (by omega) (by omega)
  have h₃ : (0xc0 + n / 64).toUInt8 < 0xe0 := octet_lt 0xe0 (by omega) (by decide)
  have hcode : (0xc0 + n / 64) % 32 * 64 + n % 64 = n := by omega
  rw [step.eq_def, if_neg h₁, if_neg h₂, if_pos h₃]
  simp only [hb, if_true, ha, hpayload, hcode]

/-- The second octet of three, of a code point that needs three and is no half of a surrogate
pair. -/
theorem isSecondOfThree_octets (h : 0x800 ≤ n) (h' : n < 0x10000)
    (hhalf : n < 0xd800 ∨ 0xe000 ≤ n) :
    isSecondOfThree (0xe0 + n / 4096).toUInt8 (0x80 + n / 64 % 64).toUInt8 = true := by
  have ha := toNat_octet (show 0xe0 + n / 4096 < 256 by omega)
  have hb := toNat_octet (show 0x80 + n / 64 % 64 < 256 by omega)
  rw [isSecondOfThree, (continuation (n / 64)).1, Bool.true_and, Bool.not_eq_true']
  split
  case isTrue hlow =>
    rw [UInt8.lt_iff_toNat_lt, hb] at hlow
    have hlow : 0x80 + n / 64 % 64 < 0xa0 := hlow
    rw [beq_eq_false_iff_ne, ne_eq, ← UInt8.toNat_inj, ha]
    exact show 0xe0 + n / 4096 ≠ 0xe0 by omega
  case isFalse hhigh =>
    rw [UInt8.lt_iff_toNat_lt, hb] at hhigh
    have hhigh : ¬ 0x80 + n / 64 % 64 < 0xa0 := hhigh
    rw [beq_eq_false_iff_ne, ne_eq, ← UInt8.toNat_inj, ha]
    exact show 0xe0 + n / 4096 ≠ 0xed by omega

theorem step_three (h : 0x800 ≤ n) (h' : n < 0x10000) (hhalf : n < 0xd800 ∨ 0xe000 ≤ n) :
    step (0xe0 + n / 4096).toUInt8
        ((0x80 + n / 64 % 64).toUInt8 :: (0x80 + n % 64).toUInt8 :: rest) =
      .char (Char.ofNat n) rest := by
  have ha := toNat_octet (show 0xe0 + n / 4096 < 256 by omega)
  have hsecond := isSecondOfThree_octets h h' hhalf
  obtain ⟨-, hpayload₁⟩ := continuation (n / 64)
  obtain ⟨hc, hpayload₂⟩ := continuation n
  have h₁ : ¬ (0xe0 + n / 4096).toUInt8 < 0x80 := not_octet_lt 0x80 (by omega) (by omega)
  have h₂ : ¬ (0xe0 + n / 4096).toUInt8 < 0xc2 := not_octet_lt 0xc2 (by omega) (by omega)
  have h₃ : ¬ (0xe0 + n / 4096).toUInt8 < 0xe0 := not_octet_lt 0xe0 (by omega) (by omega)
  have h₄ : (0xe0 + n / 4096).toUInt8 < 0xf0 := octet_lt 0xf0 (by omega) (by decide)
  have hcode : ((0xe0 + n / 4096) % 16 * 64 + n / 64 % 64) * 64 + n % 64 = n := by omega
  rw [step.eq_def, if_neg h₁, if_neg h₂, if_neg h₃, if_pos h₄]
  simp only [hsecond, hc, Bool.not_true, Bool.false_eq_true, if_false, if_true, ha, hpayload₁,
    hpayload₂, hcode]

theorem isSecondOfFour_octets (h : 0x10000 ≤ n) (h' : n < 0x110000) :
    isSecondOfFour (0xf0 + n / 262144).toUInt8 (0x80 + n / 4096 % 64).toUInt8 = true := by
  have ha := toNat_octet (show 0xf0 + n / 262144 < 256 by omega)
  have hb := toNat_octet (show 0x80 + n / 4096 % 64 < 256 by omega)
  rw [isSecondOfFour, (continuation (n / 4096)).1, Bool.true_and, Bool.not_eq_true']
  split
  case isTrue hlow =>
    rw [UInt8.lt_iff_toNat_lt, hb] at hlow
    have hlow : 0x80 + n / 4096 % 64 < 0x90 := hlow
    rw [beq_eq_false_iff_ne, ne_eq, ← UInt8.toNat_inj, ha]
    exact show 0xf0 + n / 262144 ≠ 0xf0 by omega
  case isFalse hhigh =>
    rw [UInt8.lt_iff_toNat_lt, hb] at hhigh
    have hhigh : ¬ 0x80 + n / 4096 % 64 < 0x90 := hhigh
    rw [beq_eq_false_iff_ne, ne_eq, ← UInt8.toNat_inj, ha]
    exact show 0xf0 + n / 262144 ≠ 0xf4 by omega

theorem step_four (h : 0x10000 ≤ n) (h' : n < 0x110000) :
    step (0xf0 + n / 262144).toUInt8
        ((0x80 + n / 4096 % 64).toUInt8 :: (0x80 + n / 64 % 64).toUInt8 ::
          (0x80 + n % 64).toUInt8 :: rest) =
      .char (Char.ofNat n) rest := by
  have ha := toNat_octet (show 0xf0 + n / 262144 < 256 by omega)
  have hsecond := isSecondOfFour_octets h h'
  obtain ⟨-, hpayload₁⟩ := continuation (n / 4096)
  obtain ⟨hc, hpayload₂⟩ := continuation (n / 64)
  obtain ⟨hd, hpayload₃⟩ := continuation n
  have h₁ : ¬ (0xf0 + n / 262144).toUInt8 < 0x80 := not_octet_lt 0x80 (by omega) (by omega)
  have h₂ : ¬ (0xf0 + n / 262144).toUInt8 < 0xc2 := not_octet_lt 0xc2 (by omega) (by omega)
  have h₃ : ¬ (0xf0 + n / 262144).toUInt8 < 0xe0 := not_octet_lt 0xe0 (by omega) (by omega)
  have h₄ : ¬ (0xf0 + n / 262144).toUInt8 < 0xf0 := not_octet_lt 0xf0 (by omega) (by omega)
  have h₅ : (0xf0 + n / 262144).toUInt8 < 0xf5 := octet_lt 0xf5 (by omega) (by decide)
  have hcode :
      (((0xf0 + n / 262144) % 8 * 64 + n / 4096 % 64) * 64 + n / 64 % 64) * 64 + n % 64 = n := by
    omega
  rw [step.eq_def, if_neg h₁, if_neg h₂, if_neg h₃, if_neg h₄, if_pos h₅]
  simp only [hsecond, hc, hd, Bool.not_true, Bool.false_eq_true, if_false, if_true, ha, hpayload₁,
    hpayload₂, hpayload₃, hcode]

end

theorem step_encodeChar (c : Char) (rest : Octets) :
    ∃ a more, encodeChar c ++ rest = a :: more ∧ step a more = .char c rest := by
  have hcode := toNat_cases c
  have hchar : Step.char (Char.ofNat c.toNat) rest = .char c rest := by rw [Char.ofNat_toNat]
  rw [encodeChar]
  split
  case isTrue h₁ => exact ⟨_, _, rfl, (step_one rest h₁).trans hchar⟩
  case isFalse h₁ =>
    split
    case isTrue h₂ => exact ⟨_, _, rfl, (step_two rest (by omega) h₂).trans hchar⟩
    case isFalse h₂ =>
      split
      case isTrue h₃ =>
        exact ⟨_, _, rfl, (step_three rest (by omega) h₃ (by omega)).trans hchar⟩
      case isFalse h₃ => exact ⟨_, _, rfl, (step_four rest (by omega) (by omega)).trans hchar⟩

theorem decodeFrom_encode (offset : Nat) (cs : List Char) :
    decodeFrom offset (encode cs) = .ok cs := by
  induction cs generalizing offset with
  | nil => rw [encode, List.flatMap_nil, decodeFrom]
  | cons c cs ih =>
      obtain ⟨a, more, hoctets, hstep⟩ := step_encodeChar c (encode cs)
      rw [encode, List.flatMap_cons, ← encode, hoctets, decodeFrom]
      split
      case h_1 c' rest' hstep' =>
        obtain ⟨rfl, rfl⟩ := Step.char.inj (hstep'.symm.trans hstep)
        rw [ih]
        rfl
      case h_2 hstep' => exact absurd (hstep'.symm.trans hstep) (by simp)

theorem decode_encode (cs : List Char) : decode (encode cs) = .ok cs := decodeFrom_encode 0 cs

/-! ### Halves of surrogate pairs -/

/-- Where only halves are refused, a text in which nothing is found has nothing to refuse. -/
theorem firstRefused?_eq_none {refused : Char → Bool}
    (hhalves : ∀ c, refused c = true → isHalf c = true) {cs : List Char} :
    firstRefused? refused cs = none ↔ cs.any refused = false := by
  rw [firstRefused?]
  simp only [Option.map_eq_none_iff, List.head?_eq_none_iff]
  induction cs with
  | nil => simp
  | cons c cs ih =>
      cases hc : refused c with
      | false => simp [hc, ih]
      | true => simp [hc, hhalves c hc]

theorem firstHalves?_eq_none {cs : List Char} :
    firstHalves? cs = none ↔ cs.any isHalf = false :=
  firstRefused?_eq_none fun _ => id

theorem encodeStrict_of_not_holdsHalf {s : String} (h : holdsHalf s = false) :
    encodeStrict s.toList = .ok (encode s.toList) := by
  rw [encodeStrict, firstHalves?_eq_none.mpr h]

theorem encodeStrict_of_holdsHalf {s : String} (h : holdsHalf s = true) :
    ∃ f, encodeStrict s.toList = .error f := by
  have hsome : firstHalves? s.toList ≠ none := fun hnone => by
    rw [firstHalves?_eq_none, ← holdsHalf, h] at hnone
    exact absurd hnone (by decide)
  obtain ⟨f, hf⟩ := Option.ne_none_iff_exists'.mp hsome
  exact ⟨f, by rw [encodeStrict, hf]⟩

/-! ### Names of files -/

def isUnnamed (c : Char) : Bool := isHalf c && !isOctetHalf c

theorem firstUnnamed?_eq_none {cs : List Char} :
    firstUnnamed? cs = none ↔ ∀ c ∈ cs, isUnnamed c = false := by
  have hhalves : ∀ c, isUnnamed c = true → isHalf c = true := fun c hc =>
    (Bool.and_eq_true_iff.mp hc).1
  have hnone : firstUnnamed? cs = none ↔ cs.any isUnnamed = false := firstRefused?_eq_none hhalves
  rw [hnone, List.any_eq_false]
  simp only [Bool.not_eq_true]

theorem isUnnamed_of_not_isHalf {c : Char} (h : isHalf c = false) : isUnnamed c = false := by
  rw [isUnnamed, h, Bool.false_and]

theorem nameOctets_append (cs ds : List Char) :
    nameOctets (cs ++ ds) = nameOctets cs ++ nameOctets ds :=
  List.flatMap_append

end Formwork.Text.Utf8
