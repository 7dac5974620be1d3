import Formwork.Text.Case

/-!
Case mappings, used again on what they give. A character made by a mapping is left as it is by the
same mapping. So a text in lower case is its own lower case, with either form of the small sigma,
and the first character of an upper case is its own upper case. What the upper case has after its
first character is another matter: for some characters, `ß` and the ligatures among them, it holds
capital letters.

What a table maps and what it maps to are compared as sets of code points.
-/

namespace Formwork.Text

/-! ### Sets of code points as the bits of a number -/

def bits : List Nat → Nat
  | [] => 0
  | code :: codes => 1 <<< code ||| bits codes

def allBits : List (List Nat) → Nat
  | [] => 0
  | codes :: groups => bits codes ||| allBits groups

theorem testBit_bits {codes : List Nat} {n : Nat} (h : n ∈ codes) :
    (bits codes).testBit n = true := by
  induction codes with
  | nil => cases h
  | cons code codes ih =>
      rw [bits, Nat.testBit_or, Nat.one_shiftLeft, Nat.testBit_two_pow, Bool.or_eq_true,
        decide_eq_true_eq]
      exact (List.mem_cons.mp h).imp Eq.symm ih

theorem testBit_allBits {groups : List (List Nat)} {n : Nat} (h : n ∈ groups.flatten) :
    (allBits groups).testBit n = true := by
  induction groups with
  | nil => cases h
  | cons codes groups ih =>
      rw [allBits, Nat.testBit_or, Bool.or_eq_true]
      exact (List.mem_append.mp h).imp testBit_bits ih

theorem not_mem_of_allBits {xs ys : List (List Nat)} (h : allBits xs &&& allBits ys = 0) {n : Nat}
    (hn : n ∈ xs.flatten) : n ∉ ys.flatten := by
  intro hn'
  have hboth : (allBits xs &&& allBits ys).testBit n = true := by
    rw [Nat.testBit_and, testBit_allBits hn, testBit_allBits hn']
    rfl
  rw [h, Nat.zero_testBit] at hboth
  cases hboth

/-! ### Runs -/

def CaseRun.codes (r : CaseRun) : List Nat :=
  (List.range ((r.last - r.first) / r.step + 1)).map fun k => r.first + k * r.step

def CaseRun.images (r : CaseRun) : List Nat := r.codes.map fun c : Nat => (c + r.delta).toNat

theorem CaseRun.mem_codes {r : CaseRun} {c : Nat} (hfirst : r.first ≤ c) (hlast : c ≤ r.last)
    (hstep : (c - r.first) % r.step = 0) : c ∈ r.codes := by
  have hc : r.first + (c - r.first) / r.step * r.step = c := by
    rw [Nat.div_mul_cancel (Nat.dvd_of_mod_eq_zero hstep)]
    omega
  have hle : (c - r.first) / r.step ≤ (r.last - r.first) / r.step :=
    Nat.div_le_div_right (by omega)
  exact List.mem_map.mpr ⟨_, List.mem_range.mpr (Nat.lt_succ_of_le hle), hc⟩

theorem CaseRun.exists_of_image? {rs : List CaseRun} {c d : Nat} (h : image? rs c = some d) :
    ∃ r ∈ rs, c ∈ r.codes ∧ d ∈ r.images := by
  induction rs with
  | nil => cases h
  | cons r rs ih =>
      rw [image?] at h
      split at h
      · cases h
      · next hfirst =>
        split at h
        · next hrun =>
          have hc : c ∈ r.codes := mem_codes (Nat.le_of_not_lt hfirst) hrun.1 hrun.2
          exact ⟨r, List.mem_cons_self, hc, List.mem_map.mpr ⟨c, hc, Option.some.inj h⟩⟩
        · obtain ⟨r', hr', hmem⟩ := ih h
          exact ⟨r', List.mem_cons_of_mem _ hr', hmem⟩

theorem CaseRun.image?_eq_none {rs : List CaseRun} {c : Nat}
    (h : c ∉ (rs.map CaseRun.codes).flatten) : image? rs c = none := by
  rw [Option.eq_none_iff_forall_not_mem]
  intro d hd
  obtain ⟨r, hr, hc, -⟩ := exists_of_image? hd
  exact h (List.mem_flatten_of_mem (List.mem_map_of_mem hr) hc)

theorem CaseRun.mem_images_of_image? {rs : List CaseRun} {c d : Nat} (h : image? rs c = some d) :
    d ∈ (rs.map CaseRun.images).flatten := by
  obtain ⟨r, hr, -, hd⟩ := exists_of_image? h
  exact List.mem_flatten_of_mem (List.mem_map_of_mem hr) hd

/-! ### Characters -/

/-- A code point that is no character counts as the character zero. -/
theorem toNat_ofNat_mem {codes : List Nat} (hzero : 0 ∈ codes) {n : Nat} (hn : n ∈ codes) :
    (Char.ofNat n).toNat ∈ codes := by
  by_cases hvalid : n.isValidChar
  · have htoNat : (Char.ofNat n).toNat = n := by
      rw [Char.ofNat, dif_pos hvalid]
      exact UInt32.toNat_ofNatLT
    rwa [htoNat]
  · rw [Char.ofNat, dif_neg hvalid]
    exact hzero

theorem ofNat_image {images codes : List (List Nat)} (hzero : 0 ∈ images.flatten)
    (hapart : allBits images &&& allBits ([0x20] :: codes) = 0) {d : Nat}
    (hd : d ∈ images.flatten) :
    (Char.ofNat d).toNat ∉ codes.flatten ∧ Char.ofNat d ≠ ' ' := by
  have hnot := not_mem_of_allBits hapart (toNat_ofNat_mem hzero hd)
  rw [List.flatten_cons, List.mem_append, not_or, List.mem_singleton] at hnot
  refine ⟨hnot.2, fun hblank => hnot.1 ?_⟩
  rw [hblank]
  rfl

/-! ### Lower case -/

def loweredCodes : List (List Nat) := [0x130] :: lowerRuns.map CaseRun.codes

/-- What a lower case consists of. Zero stands for a code point that is no character. -/
def loweredImages : List (List Nat) := [0, 0x69, 0x307] :: lowerRuns.map CaseRun.images

theorem loweredImages_apart : allBits loweredImages &&& allBits ([0x20] :: loweredCodes) = 0 := by
  decide +kernel

theorem zero_mem_loweredImages : 0 ∈ loweredImages.flatten :=
  List.mem_append_left _ List.mem_cons_self

theorem lowerChar_eq_self {c : Char} (h : c.toNat ∉ loweredCodes.flatten) :
    lowerChar c = [c] := by
  rw [loweredCodes, List.flatten_cons, List.mem_append, not_or, List.mem_singleton] at h
  have hdotted : c ≠ 'İ' := by
    rintro rfl
    exact h.1 rfl
  rw [lowerChar, if_neg hdotted, CaseRun.image?_eq_none h.2]

theorem lowerChar_ofNat {d : Nat} (h : d ∈ loweredImages.flatten) :
    lowerChar (Char.ofNat d) = [Char.ofNat d] ∧ Char.ofNat d ≠ ' ' :=
  (ofNat_image zero_mem_loweredImages loweredImages_apart h).imp_left lowerChar_eq_self

theorem lowerChar_cases (c : Char) :
    lowerChar c = [c] ∨ ∀ x ∈ lowerChar c, ∃ d ∈ loweredImages.flatten, x = Char.ofNat d := by
  rw [lowerChar]
  split
  · refine .inr fun x hx => ?_
    rcases List.mem_cons.mp hx with rfl | hx
    · exact ⟨0x69, by simp [loweredImages], rfl⟩
    · exact ⟨0x307, by simp [loweredImages], List.mem_singleton.mp hx⟩
  · split
    · next d hd =>
      refine .inr fun x hx => ⟨d, ?_, List.mem_singleton.mp hx⟩
      exact List.mem_append_right _ (CaseRun.mem_images_of_image? hd)
    · exact .inl rfl

theorem lowerChar_of_mem {c x : Char} (h : x ∈ lowerChar c) : lowerChar x = [x] := by
  rcases lowerChar_cases c with hself | htable
  · rw [hself, List.mem_singleton] at h
    rw [h, hself]
  · obtain ⟨d, hd, rfl⟩ := htable x h
    exact (lowerChar_ofNat hd).1

theorem eq_blank_of_mem_lowerChar {c : Char} (h : ' ' ∈ lowerChar c) : c = ' ' := by
  rcases lowerChar_cases c with hself | htable
  · rw [hself, List.mem_singleton] at h
    exact h.symm
  · obtain ⟨d, hd, hblank⟩ := htable ' ' h
    exact absurd hblank.symm (lowerChar_ofNat hd).2

/-- The lower case of a text consists of lower cases of its characters and of final sigmas. -/
theorem mem_lowerAfter {before cs : List Char} {x : Char} (h : x ∈ lowerAfter before cs) :
    x = 'ς' ∨ ∃ c ∈ cs, x ∈ lowerChar c := by
  induction cs generalizing before with
  | nil => cases h
  | cons c cs ih =>
      rw [lowerAfter, List.mem_append] at h
      rcases h with h | h
      · split at h
        · next hsigma =>
          rw [List.mem_singleton] at h
          split at h
          · exact .inl h
          · refine .inr ⟨c, List.mem_cons_self, ?_⟩
            rw [h, hsigma]
            decide
        · exact .inr ⟨c, List.mem_cons_self, h⟩
      · exact (ih h).imp_right fun ⟨d, hd, hx⟩ => ⟨d, List.mem_cons_of_mem c hd, hx⟩

theorem lowerChar_of_mem_lowerAfter {before cs : List Char} {x : Char}
    (h : x ∈ lowerAfter before cs) : lowerChar x = [x] := by
  rcases mem_lowerAfter h with rfl | ⟨c, -, hx⟩
  · decide
  · exact lowerChar_of_mem hx

theorem blank_mem_of_mem_lowerAfter {before cs : List Char} (h : ' ' ∈ lowerAfter before cs) :
    ' ' ∈ cs := by
  rcases mem_lowerAfter h with hfinal | ⟨c, hc, hblank⟩
  · exact absurd hfinal (by decide)
  · exact eq_blank_of_mem_lowerChar hblank ▸ hc

theorem lowerAfter_eq_self {cs : List Char} (h : ∀ x ∈ cs, lowerChar x = [x])
    (before : List Char) : lowerAfter before cs = cs := by
  induction cs generalizing before with
  | nil => rfl
  | cons c cs ih =>
      have hc := h c List.mem_cons_self
      -- the capital sigma is the one character whose neighbours count, and it has a lower case
      have hsigma : c ≠ 'Σ' := by
        rintro rfl
        exact absurd hc (by decide)
      rw [lowerAfter, if_neg hsigma, hc, ih fun x hx => h x (List.mem_cons_of_mem c hx)]
      rfl

/-- A text is its own lower case exactly if each of its characters is. -/
theorem lowerChars_eq_self_iff {cs : List Char} :
    lowerChars cs = cs ↔ ∀ x ∈ cs, lowerChar x = [x] := by
  refine ⟨fun h x hx => ?_, fun h => lowerAfter_eq_self h []⟩
  rw [← h] at hx
  exact lowerChar_of_mem_lowerAfter hx

theorem lower_lower (s : String) : lower (lower s) = lower s := by
  have hchars : lowerChars (lowerChars s.toList) = lowerChars s.toList :=
    lowerChars_eq_self_iff.mpr fun _ hx => lowerChar_of_mem_lowerAfter hx
  rw [lower, lower, String.toList_ofList, hchars]

/-! ### Upper case -/

def raisedCodes : List (List Nat) :=
  (upperExpansions.map fun e => e.1) :: upperRuns.map CaseRun.codes

/-- What an upper case begins with. Zero stands for a code point that is no character. -/
def raisedImages : List (List Nat) :=
  (0 :: upperExpansions.map fun e => e.2.headD 0) :: upperRuns.map CaseRun.images

/-- No upper case begins with a character that has an upper case of its own, or with a blank. -/
theorem raisedImages_apart : allBits raisedImages &&& allBits ([0x20] :: raisedCodes) = 0 := by
  decide +kernel

theorem zero_mem_raisedImages : 0 ∈ raisedImages.flatten :=
  List.mem_append_left _ List.mem_cons_self

theorem mem_of_lookup {c : Nat} {codes : List Nat} (h : upperExpansions.lookup c = some codes) :
    (c, codes) ∈ upperExpansions := by
  obtain ⟨before, after, hsplit, -⟩ := List.lookup_eq_some_iff.mp h
  rw [hsplit]
  exact List.mem_append_right _ List.mem_cons_self

theorem upperChar_eq_self {c : Char} (h : c.toNat ∉ raisedCodes.flatten) :
    upperChar c = [c] := by
  rw [raisedCodes, List.flatten_cons, List.mem_append, not_or] at h
  have hexpansions : upperExpansions.lookup c.toNat = none := by
    rw [Option.eq_none_iff_forall_not_mem]
    intro codes hcodes
    exact h.1 (List.mem_map_of_mem (mem_of_lookup hcodes))
  rw [upperChar, hexpansions, CaseRun.image?_eq_none h.2]

theorem upperChar_ofNat {d : Nat} (h : d ∈ raisedImages.flatten) :
    upperChar (Char.ofNat d) = [Char.ofNat d] ∧ Char.ofNat d ≠ ' ' :=
  (ofNat_image zero_mem_raisedImages raisedImages_apart h).imp_left upperChar_eq_self

/-- An upper case is an expansion, or a single character: the character itself or one that comes
from the table. -/
theorem upperChar_cases (c : Char) :
    (∃ codes, (c.toNat, codes) ∈ upperExpansions ∧ upperChar c = codes.map Char.ofNat) ∨
      upperExpansions.lookup c.toNat = none ∧
        (upperChar c = [c] ∨ ∃ d ∈ raisedImages.flatten, upperChar c = [Char.ofNat d]) := by
  rw [upperChar]
  split
  · next codes hcodes => exact .inl ⟨codes, mem_of_lookup hcodes, rfl⟩
  · next hnone =>
    refine .inr ⟨hnone, ?_⟩
    split
    · next d hd =>
      exact .inr ⟨d, List.mem_append_right _ (CaseRun.mem_images_of_image? hd), rfl⟩
    · exact .inl rfl

/-- The first character of an upper case is its own upper case. -/
theorem exists_upperChar (c : Char) : ∃ u us, upperChar c = u :: us ∧ upperChar u = [u] := by
  rcases upperChar_cases c with ⟨codes, hmem, hupper⟩ | ⟨-, hself | ⟨d, hd, hupper⟩⟩
  · have hnonempty : ∀ e ∈ upperExpansions, e.2 ≠ [] := by decide
    obtain ⟨d, ds, rfl⟩ := List.exists_cons_of_ne_nil (hnonempty _ hmem)
    have hd : d ∈ raisedImages.flatten :=
      List.mem_append_left _ (List.mem_cons_of_mem _ (List.mem_map_of_mem hmem))
    exact ⟨_, _, hupper, (upperChar_ofNat hd).1⟩
  · exact ⟨c, [], hself, hself⟩
  · exact ⟨_, [], hupper, (upperChar_ofNat hd).1⟩

theorem eq_blank_of_mem_upperChar {c : Char} (h : ' ' ∈ upperChar c) : c = ' ' := by
  rcases upperChar_cases c with ⟨codes, hmem, hupper⟩ | ⟨-, hself | ⟨d, hd, hupper⟩⟩
  · have hsolid : ∀ e ∈ upperExpansions, ' ' ∉ e.2.map Char.ofNat := by decide +kernel
    rw [hupper] at h
    exact absurd h (hsolid _ hmem)
  · rw [hself, List.mem_singleton] at h
    exact h.symm
  · rw [hupper, List.mem_singleton] at h
    exact absurd h.symm (upperChar_ofNat hd).2

/-! ### Capital letters behind the first -/

/-- The characters whose upper case has a capital letter after its first character. -/
def spreadIntervals : List (Nat × Nat) :=
  [
    (0xdf, 0xdf), (0x149, 0x149), (0x587, 0x587), (0x1f80, 0x1faf), (0x1fb2, 0x1fb4),
    (0x1fb7, 0x1fb7), (0x1fbc, 0x1fbc), (0x1fc2, 0x1fc4), (0x1fc7, 0x1fc7), (0x1fcc, 0x1fcc),
    (0x1ff2, 0x1ff4), (0x1ff7, 0x1ff7), (0x1ffc, 0x1ffc), (0xfb00, 0xfb06), (0xfb13, 0xfb17)
  ]

/-- Whether a character has a capital letter in its upper case that is not the first character
there: `ß`, `ŉ`, the Armenian `և`, Greek letters with an iota below or beside them, and the
ligatures. -/
def spreads (c : Char) : Bool := inIntervals spreadIntervals c.toNat

theorem exists_of_inIntervals {intervals : List (Nat × Nat)} {n : Nat}
    (h : inIntervals intervals n = true) : ∃ i ∈ intervals, i.1 ≤ n ∧ n ≤ i.2 := by
  induction intervals with
  | nil => cases h
  | cons i intervals ih =>
      rw [inIntervals] at h
      split at h
      · cases h
      · next hlow =>
        split at h
        · next hhigh => exact ⟨i, List.mem_cons_self, Nat.le_of_not_lt hlow, hhigh⟩
        · obtain ⟨j, hj, hn⟩ := ih h
          exact ⟨j, List.mem_cons_of_mem _ hj, hn⟩

theorem lookup_of_spreads {c : Char} (h : spreads c = true) :
    upperExpansions.lookup c.toNat ≠ none := by
  have htable : ∀ i ∈ spreadIntervals, ∀ k < i.2 + 1 - i.1,
      upperExpansions.lookup (i.1 + k) ≠ none := by decide +kernel
  obtain ⟨i, hi, hlow, hhigh⟩ := exists_of_inIntervals h
  have hlookup := htable i hi (c.toNat - i.1) (by omega)
  rwa [Nat.add_sub_cancel' hlow] at hlookup

/-- A character spreads exactly if its upper case goes on with a character that has a lower case
of its own. -/
theorem spreads_iff {c : Char} :
    spreads c = true ↔ ∃ x ∈ (upperChar c).tail, lowerChar x ≠ [x] := by
  rcases upperChar_cases c with ⟨codes, hmem, hupper⟩ | ⟨hnone, hupper⟩
  · have htable : ∀ e ∈ upperExpansions, inIntervals spreadIntervals e.1 =
        e.2.tail.any fun d => lowerChar (Char.ofNat d) != [Char.ofNat d] := by decide +kernel
    have hspread : spreads c = (upperChar c).tail.any fun x => lowerChar x != [x] := by
      rw [spreads, htable _ hmem, hupper, ← List.map_tail, List.any_map]
      rfl
    rw [hspread, List.any_eq_true]
    simp only [bne_iff_ne]
  · have htail : (upperChar c).tail = [] := by
      rcases hupper with hupper | ⟨d, -, hupper⟩ <;> rw [hupper] <;> rfl
    rw [htail]
    refine ⟨fun h => absurd hnone (lookup_of_spreads h), ?_⟩
    rintro ⟨x, hx, -⟩
    cases hx

end Formwork.Text
