import Formwork.Json.Strict
import Formwork.Proofs.Json.RoundTrip

/-!
Where the strict rules find a fault in what is written as JSON. The walk is followed piece by piece:
a piece either is come over to the next place, or it is a whole number that is too long. So the text
of an object of truth values, whole numbers and texts has a fault exactly if one of its numbers is
too long.
-/

namespace Formwork.Json.Strict

open Text

/-! ### Octets -/

def charOfOctet (o : UInt8) : Char := Char.ofNat o.toNat

def charOctets (ch : Char) : List Char := (Utf8.encodeChar ch).map charOfOctet

theorem octets_eq_flatMap (cs : List Char) : octets cs = cs.flatMap charOctets := by
  rw [octets, Utf8.encode, List.map_flatMap]
  rfl

theorem octets_append (cs ds : List Char) : octets (cs ++ ds) = octets cs ++ octets ds := by
  simp only [octets_eq_flatMap, List.flatMap_append]

theorem octets_cons (ch : Char) (cs : List Char) :
    octets (ch :: cs) = charOctets ch ++ octets cs := by
  simp only [octets_eq_flatMap, List.flatMap_cons]

theorem charOctets_ascii {ch : Char} (h : ch.toNat < 0x80) : charOctets ch = [ch] := by
  have hoctet := Utf8.toNat_octet (show ch.toNat < 256 by omega)
  rw [charOctets, Utf8.encodeChar, if_pos h, List.map_singleton, charOfOctet, hoctet,
    Char.ofNat_toNat]

theorem octets_ascii {cs : List Char} (h : ∀ ch ∈ cs, ch.toNat < 0x80) : octets cs = cs := by
  induction cs with
  | nil => rfl
  | cons ch cs ih =>
      rw [octets_cons, charOctets_ascii (h ch List.mem_cons_self),
        ih fun d hd => h d (List.mem_cons_of_mem ch hd)]
      rfl

theorem toNat_charOfOctet (o : UInt8) : (charOfOctet o).toNat = o.toNat := by
  have h : o.toNat.isValidChar := .inl (Nat.lt_trans o.toNat_lt (by decide))
  rw [charOfOctet, Char.ofNat, dif_pos h]
  show (UInt32.ofNatLT o.toNat _).toNat = o.toNat
  exact UInt32.toNat_ofNatLT

theorem le_toNat_of_mem_charOctets {ch o : Char} (h : 0x80 ≤ ch.toNat) (ho : o ∈ charOctets ch) :
    0x80 ≤ o.toNat := by
  obtain ⟨b, hb, rfl⟩ := List.mem_map.mp ho
  have hcode := Utf8.toNat_cases ch
  rw [toNat_charOfOctet]
  rw [Utf8.encodeChar, if_neg (by omega)] at hb
  split at hb
  · simp only [List.mem_cons, List.not_mem_nil, or_false] at hb
    rcases hb with rfl | rfl <;> rw [Utf8.toNat_octet (by omega)] <;> omega
  · split at hb
    · simp only [List.mem_cons, List.not_mem_nil, or_false] at hb
      rcases hb with rfl | rfl | rfl <;> rw [Utf8.toNat_octet (by omega)] <;> omega
    · simp only [List.mem_cons, List.not_mem_nil, or_false] at hb
      rcases hb with rfl | rfl | rfl | rfl <;> rw [Utf8.toNat_octet (by omega)] <;> omega

/-! ### Texts -/

theorem unit_hexDigits (position : Nat) {n : Nat} (h : n < 0x10000) (rest : List Char) :
    unit position (hexDigits 4 n ++ rest) = .ok n := by
  have hdigit : ∀ k, hexValue? (hexDigit (k % 16)) = some (k % 16) := fun k =>
    hexValue?_hexDigit (Nat.mod_lt k (by decide))
  rw [hexDigits_four]
  simp only [unit, List.cons_append, List.nil_append, List.take, List.findIdx?_cons,
    List.findIdx?_nil, hdigit, Option.isNone_some, Bool.false_eq_true, if_false, Option.map_none,
    List.filterMap_cons, List.filterMap_nil, ofDigits, List.foldl]
  congr 1
  omega

theorem textEnd_skip (xs : List Char) (position : Nat) (rest : List Char) :
    textEnd xs.length position (xs ++ rest) = textEnd 0 (position + xs.length) rest := by
  induction xs generalizing position with
  | nil => rfl
  | cons x xs ih =>
      have hpos : 0 < (x :: xs).length := Nat.zero_lt_succ xs.length
      rw [List.cons_append, textEnd.eq_def]
      simp only [hpos, if_true]
      rw [List.length_cons, Nat.add_sub_cancel, ih, Nat.add_assoc, Nat.add_comm 1]

theorem textEnd_escape (position : Nat) (rest : List Char) :
    textEnd 0 position ('\\' :: rest) =
      match rest with
      | [] => fail .endInText (position + 1)
      | 'u' :: digits => do
        let length ← unitsLength (position + 2) digits
        textEnd (length + 1) (position + 1) rest
      | e :: _ =>
        if "\"\\/bfnrt".toList.contains e then textEnd 1 (position + 1) rest
        else fail .badEscape (position + 1) := by
  rw [textEnd.eq_def]
  rfl

/-- A stretch inside a text. -/
def InText (xs : List Char) : Prop :=
  ∀ position rest, textEnd 0 position (xs ++ rest) = textEnd 0 (position + xs.length) rest

theorem InText.append {xs ys : List Char} (hx : InText xs) (hy : InText ys) :
    InText (xs ++ ys) := by
  intro position rest
  rw [List.append_assoc, hx, hy, List.length_append, Nat.add_assoc]

theorem inText_nil : InText [] := fun _ _ => rfl

theorem inText_flatMap {α : Type} {f : α → List Char} {as : List α} (h : ∀ a ∈ as, InText (f a)) :
    InText (as.flatMap f) := by
  induction as with
  | nil => exact inText_nil
  | cons a as ih =>
      exact (h a List.mem_cons_self).append (ih fun b hb => h b (List.mem_cons_of_mem a hb))

/-- An octet that stands for itself inside a text. -/
theorem inText_singleton {o : Char} (hquote : o ≠ '"') (hescape : o ≠ '\\') (hlow : ¬ o < ' ') :
    InText [o] := by
  intro position rest
  rw [List.singleton_append, textEnd.eq_def]
  simp only [Nat.lt_irrefl, if_false, if_neg hquote, if_neg hescape, if_neg hlow]
  rfl

theorem inText_short {e : Char} (he : "\"\\/bfnrt".toList.contains e = true) :
    InText ['\\', e] := by
  intro position rest
  have hu : e ≠ 'u' := by
    rintro rfl
    exact absurd he (by decide)
  rw [List.cons_append, textEnd_escape]
  simp only [List.singleton_append, he, if_true]
  exact textEnd_skip [e] (position + 1) rest

theorem length_hexDigits_four (n : Nat) : (hexDigits 4 n).length = 4 := by
  rw [hexDigits_four]
  rfl

theorem inText_unit {n : Nat} (h : n < 0xd800) : InText (unitEscape n) := by
  intro position rest
  have hlength : unitsLength (position + 2) (hexDigits 4 n ++ rest) = .ok 4 := by
    rw [unitsLength, unit_hexDigits _ (by omega)]
    exact if_pos (.inl h)
  have hskip := textEnd_skip ('u' :: hexDigits 4 n) (position + 1) rest
  rw [List.length_cons, length_hexDigits_four] at hskip
  rw [unitEscape, List.cons_append, List.cons_append, textEnd_escape]
  simp only [hlength, bind, Except.bind, List.length_cons, length_hexDigits_four]
  exact hskip

theorem hexDigit_ascii {n : Nat} (h : n < 16) : (hexDigit n).toNat < 0x80 := by
  interval_cases n <;> decide

theorem octets_unitEscape (n : Nat) : octets (unitEscape n) = unitEscape n := by
  refine octets_ascii ?_
  rw [unitEscape, hexDigits_four]
  simp only [List.forall_mem_cons, hexDigit_ascii (Nat.mod_lt _ (by decide : 0 < 16)),
    List.not_mem_nil, false_imp_iff, implies_true, and_true]
  decide

/-- A character of a text in a settings file. -/
theorem inText_encodeChar {ch : Char} (hhalf : isHalf ch = false) :
    InText (octets (encodeChar settingsStyle ch)) := by
  have hshort : ∀ e : Char, "\"\\/bfnrt".toList.contains e = true → e.toNat < 0x80 →
      InText (octets ['\\', e]) := by
    intro e he hascii
    rw [octets_ascii (by simpa using hascii)]
    exact inText_short he
  rw [encodeChar]
  split
  case isTrue => exact hshort '"' rfl (by decide)
  split
  case isTrue => exact hshort '\\' rfl (by decide)
  split
  case isTrue => exact hshort 'n' rfl (by decide)
  split
  case isTrue => exact hshort 'r' rfl (by decide)
  split
  case isTrue => exact hshort 't' rfl (by decide)
  split
  case isTrue => exact hshort 'b' rfl (by decide)
  split
  case isTrue => exact hshort 'f' rfl (by decide)
  split
  case isTrue h =>
    have hlow : ch.toNat < 0x20 := h.resolve_right fun h => Bool.false_ne_true h.1
    rw [charEscape, codeOfChar_of_not_half hhalf, if_pos (by omega), octets_unitEscape]
    exact inText_unit (by omega)
  case isFalse hquote hescape _ _ _ _ _ h =>
    have hone : octets [ch] = charOctets ch := (octets_cons ch []).trans (List.append_nil _)
    rw [hone]
    by_cases hascii : ch.toNat < 0x80
    · rw [charOctets_ascii hascii]
      exact inText_singleton hquote hescape fun hlow => h (.inl hlow)
    · have hsingly : charOctets ch = (charOctets ch).flatMap fun o => [o] := by simp
      rw [hsingly]
      refine inText_flatMap fun o ho => ?_
      have hhigh := le_toNat_of_mem_charOctets (Nat.not_lt.mp hascii) ho
      refine inText_singleton ?_ ?_ fun hlow => ?_
      · rintro rfl
        exact absurd hhigh (by decide)
      · rintro rfl
        exact absurd hhigh (by decide)
      · have hlow : o.toNat < 0x20 := hlow
        omega

theorem textEnd_encodeText {s : String} (hhalf : holdsHalf s = false) :
    ∃ inner, octets (encodeText settingsStyle s) = '"' :: inner ∧ ∀ position rest,
      textEnd 0 position (inner ++ rest) = .ok (position + inner.length) := by
  have hchars : ∀ ch ∈ s.toList, isHalf ch = false := by
    simpa [holdsHalf] using hhalf
  have hinside : InText (octets (s.toList.flatMap (encodeChar settingsStyle))) := by
    rw [octets_eq_flatMap, List.flatMap_assoc]
    refine inText_flatMap fun ch hch => ?_
    rw [← octets_eq_flatMap]
    exact inText_encodeChar (hchars ch hch)
  refine ⟨octets (s.toList.flatMap (encodeChar settingsStyle)) ++ ['"'], ?_,
    fun position rest => ?_⟩
  · rw [encodeText, octets_append, octets_cons]
    rfl
  · rw [List.append_assoc, hinside, List.singleton_append, textEnd.eq_def]
    simp only [Nat.lt_irrefl, if_false, if_true, List.length_append, List.length_singleton]
    rfl

/-! ### Numbers -/

/-- Whether the text of a whole number is short enough to be read. -/
def Short (n : Int) : Prop := (toString n).length ≤ Number.longestInteger

theorem fractionLength_of_endsNumber (position : Nat) {rest : List Char} (h : EndsNumber rest) :
    fractionLength position rest = .ok 0 := by
  rw [fractionLength.eq_def]
  split
  case h_1 more => exact absurd rfl (h '.' rfl).2.1
  case h_2 =>
    rw [exponentLength.eq_def]
    split
    case h_1 more => exact absurd rfl (h 'e' rfl).2.2.1
    case h_2 more => exact absurd rfl (h 'E' rfl).2.2.2
    case h_3 => rfl

theorem digitCount_toDigits (position m : Nat) {rest : List Char} (h : EndsNumber rest) :
    digitCount position (Nat.toDigits 10 m ++ rest) = .ok (Nat.toDigits 10 m).length := by
  obtain ⟨d, ds, hd⟩ := List.exists_cons_of_ne_nil (Nat.toDigits_ne_nil (b := 10) (n := m))
  rw [digitCount.eq_def, takeWhile_toDigits m h, hd]
  rfl

theorem length_toString_int (n : Int) : (toString n).length =
    (if n < 0 then 1 else 0) + (Nat.toDigits 10 n.natAbs).length := by
  rw [← String.length_toList, toList_toString_int, List.length_append]
  split <;> rfl

/-- A whole number is read to its end, unless it is too long. -/
theorem numberLength_int (position : Nat) (n : Int) {rest : List Char} (h : EndsNumber rest) :
    numberLength position ((toString n).toList ++ rest) =
      if Number.longestInteger < (toString n).length then
        fail .hugeNumber (position + Number.longestInteger + 1)
      else .ok (toString n).length := by
  obtain ⟨d, ds, hd⟩ := List.exists_cons_of_ne_nil (Nat.toDigits_ne_nil (b := 10) (n := n.natAbs))
  have hdigit : d.isDigit = true := isDigit_of_mem_toDigits (hd ▸ List.mem_cons_self)
  rw [length_toString_int, toList_toString_int, List.append_assoc]
  unfold numberLength
  extract_lets sign body start
  have hsign : sign = if n < 0 then 1 else 0 := by
    by_cases h0 : n < 0
    · simp [sign, h0]
    · have hd' : d ≠ '-' := by
        rintro rfl
        exact absurd hdigit (by decide)
      simp [sign, h0, hd, hd']
  have hbody : body = Nat.toDigits 10 n.natAbs ++ rest := by
    by_cases h0 : n < 0 <;> simp [body, hsign, h0]
  have hinfinity : body.head? ≠ some 'I' := by
    rw [hbody, hd]
    rintro hI
    rw [List.cons_append, List.head?_cons, Option.some.injEq] at hI
    exact absurd (hI ▸ hdigit) (by decide)
  -- only zero begins with a zero, and it has one digit
  have hwhole : (if body.head? = some '0' then 1 else (Nat.toDigits 10 n.natAbs).length) =
      (Nat.toDigits 10 n.natAbs).length := by
    split
    case isTrue hzero =>
      obtain ⟨tail, htail⟩ : ∃ tail, body = '0' :: tail := by
        rw [hbody, hd] at hzero ⊢
        rw [List.cons_append, List.head?_cons, Option.some.injEq] at hzero
        exact ⟨ds ++ rest, by rw [hzero]; rfl⟩
      rw [eq_zero_of_toDigits_append (hbody.symm.trans htail)]
      rfl
    case isFalse => rfl
  have hcount := digitCount_toDigits start n.natAbs h
  rw [← hbody] at hcount
  have hrest : body.drop (Nat.toDigits 10 n.natAbs).length = rest := by rw [hbody, List.drop_left]
  rw [if_neg hinfinity, hcount]
  simp only [bind, Except.bind, hwhole, Nat.lt_irrefl, if_false, hrest,
    fractionLength_of_endsNumber _ h, true_and, hsign]
  rfl

/-! ### The walk -/

structure Place where
  expected : Expected
  containers : List Container

/-- The walk comes over a piece from one place to another, and finds no fault from the first on
exactly if the piece has none and none is found from the second on. -/
def Crosses (a : Place) (piece : List Char) (faultless : Prop) (b : Place) (rest : List Char) :
    Prop :=
  ∀ position, ∃ position', faultFrom 0 position a.expected a.containers (piece ++ rest) = none ↔
    faultless ∧ faultFrom 0 position' b.expected b.containers rest = none

theorem Crosses.trans {a b c : Place} {xs ys rest : List Char} {p q : Prop}
    (hab : Crosses a xs p b (ys ++ rest)) (hbc : Crosses b ys q c rest) :
    Crosses a (xs ++ ys) (p ∧ q) c rest := by
  intro position
  obtain ⟨position₁, h₁⟩ := hab position
  obtain ⟨position₂, h₂⟩ := hbc position₁
  exact ⟨position₂, by rw [List.append_assoc, h₁, h₂, and_assoc]⟩

theorem Crosses.congr {a b : Place} {xs rest : List Char} {p q : Prop}
    (h : Crosses a xs p b rest) (hpq : p ↔ q) : Crosses a xs q b rest := by
  rwa [← hpq]

theorem faultFrom_skip (xs : List Char) (position : Nat) (expected : Expected)
    (containers : List Container) (rest : List Char) :
    faultFrom xs.length position expected containers (xs ++ rest) =
      faultFrom 0 (position + xs.length) expected containers rest := by
  induction xs generalizing position with
  | nil => rfl
  | cons x xs ih =>
      have hpos : 0 < (x :: xs).length := Nat.zero_lt_succ xs.length
      rw [List.cons_append, faultFrom.eq_def]
      simp only [hpos, if_true]
      rw [List.length_cons, Nat.add_sub_cancel, ih, Nat.add_assoc, Nat.add_comm 1]

theorem crosses_blank {o : Char} (h : [' ', '\t', '\n', '\r'].contains o = true) (a : Place)
    (rest : List Char) : Crosses a [o] True a rest := by
  refine fun position => ⟨position + 1, ?_⟩
  rw [List.singleton_append, faultFrom.eq_def]
  simp only [Nat.lt_irrefl, if_false, h, if_true, true_and]

theorem crosses_of_step {a b : Place} {o : Char} (inner : List Char) {rest : List Char}
    (hblank : [' ', '\t', '\n', '\r'].contains o = false)
    (hstep : ∀ position, step position o (inner ++ rest) a.expected a.containers =
      .ok ⟨inner.length + 1, b.expected, b.containers⟩) :
    Crosses a (o :: inner) True b rest := by
  refine fun position => ⟨position + 1 + inner.length, ?_⟩
  rw [List.cons_append, faultFrom.eq_def]
  simp only [Nat.lt_irrefl, if_false, hblank, Bool.false_eq_true, hstep, Nat.add_sub_cancel,
    faultFrom_skip, true_and]

theorem crosses_blanks {cs : List Char} (h : ∀ ch ∈ cs, [' ', '\t', '\n', '\r'].contains ch = true)
    (a : Place) (rest : List Char) : Crosses a cs True a rest := by
  induction cs with
  | nil => exact fun position => ⟨position, by rw [List.nil_append, true_and]⟩
  | cons ch cs ih =>
      exact ((crosses_blank (h ch List.mem_cons_self) a _).trans
        (ih fun d hd => h d (List.mem_cons_of_mem ch hd))).congr (and_self_iff)

theorem crosses_newline (depth : Nat) (a : Place) (rest : List Char) :
    Crosses a (octets (newline depth)) True a rest := by
  have hmem : ∀ ch ∈ newline depth, ch = '\n' ∨ ch = ' ' := fun ch hch =>
    (List.mem_cons.mp hch).imp_right List.eq_of_mem_replicate
  rw [octets_ascii fun ch hch => by rcases hmem ch hch with rfl | rfl <;> decide]
  exact crosses_blanks (fun ch hch => by rcases hmem ch hch with rfl | rfl <;> rfl) a rest

theorem crosses_text {s : String} (hhalf : holdsHalf s = false) {a b : Place} (rest : List Char)
    (hover : ∀ position more, step position '"' more a.expected a.containers =
      overText position more b.expected b.containers) :
    Crosses a (octets (encodeText settingsStyle s)) True b rest := by
  obtain ⟨inner, hopen, hend⟩ := textEnd_encodeText hhalf
  rw [hopen]
  refine crosses_of_step _ rfl fun position => ?_
  rw [hover, overText, hend]
  simp only [bind, Except.bind, pure, Except.pure]
  congr 2
  omega

/-! ### Settings files -/

/-- A value of a settings file: a truth value, a whole number or a text without halves. -/
def IsScalar : Value → Prop
  | .bool _ | .int _ => True
  | .str s => holdsHalf s = false
  | _ => False

def ShortValue : Value → Prop
  | .int n => Short n
  | _ => True

theorem toNat_lt_of_isDigit {ch : Char} (h : ch.isDigit = true) : ch.toNat < 0x80 := by
  simp only [Char.isDigit, Bool.and_eq_true, decide_eq_true_eq, UInt32.le_iff_toNat_le] at h
  exact Nat.lt_of_le_of_lt h.2 (by decide)

/-- A digit or a minus sign begins a number. -/
theorem overValue_number {o : Char} (ho : o.isDigit = true ∨ o = '-') (position : Nat)
    (more : List Char) (containers : List Container) :
    overValue position o more containers =
      (numberLength position (o :: more)).map fun length => ⟨length, .follower, containers⟩ := by
  have hne : ∀ d : Char, d.isDigit = false → d ≠ '-' → o ≠ d := by
    rintro d hdigit hsign rfl
    rcases ho with h | h
    · exact absurd h (by simp [hdigit])
    · exact hsign h
  have hatom : atomLength position (o :: more) = numberLength position (o :: more) := by
    rw [atomLength.eq_def]
    split
    case h_1 heq => exact absurd (List.cons.inj heq).1 (hne 't' rfl (by decide))
    case h_2 heq => exact absurd (List.cons.inj heq).1 (hne 'f' rfl (by decide))
    case h_3 heq => exact absurd (List.cons.inj heq).1 (hne 'n' rfl (by decide))
    case h_4 heq => exact absurd (List.cons.inj heq).1 (hne 'N' rfl (by decide))
    case h_5 heq =>
      rw [← (List.cons.inj heq).1]
      exact if_pos (ho.imp_right .inl)
    case h_6 heq => exact absurd heq (List.cons_ne_nil _ _)
  rw [overValue.eq_def]
  split
  case h_1 => exact absurd rfl (hne '"' rfl (by decide))
  case h_2 => exact absurd rfl (hne '[' rfl (by decide))
  case h_3 => exact absurd rfl (hne '\x7b' rfl (by decide))
  case h_4 =>
    rw [hatom]
    cases numberLength position (o :: more) <;> rfl

theorem crosses_int (n : Int) (containers : List Container) {rest : List Char}
    (h : EndsNumber rest) :
    Crosses ⟨.value, containers⟩ (octets (toString n).toList) (Short n) ⟨.follower, containers⟩
      rest := by
  obtain ⟨o, inner, ho, hcons⟩ : ∃ o inner, (o.isDigit = true ∨ o = '-') ∧
      (toString n).toList = o :: inner := by
    obtain ⟨d, ds, hdigit, hn | hn⟩ := toString_int_eq_cons n
    · exact ⟨d, ds, .inl hdigit, hn⟩
    · exact ⟨'-', d :: ds, .inr rfl, hn⟩
  have hascii : octets (toString n).toList = o :: inner := by
    rw [← hcons]
    refine octets_ascii fun ch hch => ?_
    rcases mem_toString_int hch with rfl | hdigit
    · decide
    · exact toNat_lt_of_isDigit hdigit
  have hblank : [' ', '\t', '\n', '\r'].contains o = false := by
    by_contra hblank
    simp only [Bool.not_eq_false, List.contains_eq_mem, List.mem_cons, List.not_mem_nil, or_false,
      decide_eq_true_eq] at hblank
    rcases ho with ho | ho <;> rcases hblank with rfl | rfl | rfl | rfl <;>
      exact absurd ho (by decide)
  have hlength : (toString n).length = inner.length + 1 := by
    rw [← String.length_toList, hcons, List.length_cons]
  have hover : ∀ position, step position o (inner ++ rest) .value containers =
      if Number.longestInteger < (toString n).length then
        fail .hugeNumber (position + Number.longestInteger + 1)
      else .ok ⟨(toString n).length, .follower, containers⟩ := by
    intro position
    have hnumber := numberLength_int position n h
    rw [hcons] at hnumber
    show overValue position o (inner ++ rest) containers = _
    rw [overValue_number ho, ← List.cons_append, hnumber]
    split <;> rfl
  rw [hascii]
  by_cases hshort : Short n
  · refine (crosses_of_step _ hblank fun position => ?_).congr (iff_true_intro hshort).symm
    rw [hover, if_neg (Nat.not_lt.mpr hshort), hlength]
  · refine fun position => ⟨0, ?_⟩
    rw [List.cons_append, faultFrom.eq_def]
    simp only [Nat.lt_irrefl, if_false, hblank, Bool.false_eq_true, hover,
      if_pos (Nat.not_le.mp hshort)]
    exact ⟨nofun, fun h => absurd h.1 hshort⟩

theorem crosses_value {v : Value} (hv : IsScalar v) (depth : Nat) (containers : List Container)
    {rest : List Char} (h : EndsNumber rest) :
    Crosses ⟨.value, containers⟩ (octets (encodeAt settingsStyle depth v)) (ShortValue v)
      ⟨.follower, containers⟩ rest := by
  cases v with
  | null => exact hv.elim
  | float x => exact hv.elim
  | list items => exact hv.elim
  | object members => exact hv.elim
  | bool b =>
      rw [encodeAt]
      cases b
      · exact crosses_of_step "alse".toList rfl fun position => rfl
      · exact crosses_of_step "rue".toList rfl fun position => rfl
  | str s =>
      rw [encodeAt]
      exact crosses_text hv rest fun position more => rfl
  | int n =>
      rw [encodeAt]
      exact crosses_int n containers h

/-- A member of an object, from the line feed in front of it on. -/
theorem crosses_member {name : String} {v : Value} (hname : holdsHalf name = false)
    (hv : IsScalar v) (depth : Nat) {expected : Expected}
    (hexpected : expected = .firstName ∨ expected = .name) {rest : List Char}
    (h : EndsNumber rest) :
    Crosses ⟨expected, [.object]⟩
      (octets (newline depth ++ encodeText settingsStyle name ++
        ':' :: ' ' :: encodeAt settingsStyle depth v))
      (ShortValue v) ⟨.follower, [.object]⟩ rest := by
  have hopen : ∀ rest, Crosses ⟨expected, [.object]⟩ (octets (encodeText settingsStyle name)) True
      ⟨.colon, [.object]⟩ rest := fun rest => by
    rcases hexpected with rfl | rfl <;> exact crosses_text hname rest fun position more => rfl
  have hcolon : ∀ rest, Crosses ⟨.colon, [.object]⟩ (octets [':', ' ']) True ⟨.value, [.object]⟩
      rest := fun rest =>
    ((crosses_of_step [] rfl fun position => rfl).trans
      (crosses_blank (o := ' ') rfl ⟨.value, [.object]⟩ rest)).congr and_self_iff
  have hpieces : octets (newline depth ++ encodeText settingsStyle name ++
      ':' :: ' ' :: encodeAt settingsStyle depth v) =
      octets (newline depth) ++ (octets (encodeText settingsStyle name) ++
        (octets [':', ' '] ++ octets (encodeAt settingsStyle depth v))) := by
    rw [List.append_assoc, octets_append, octets_append, ← octets_append [':', ' ']]
    rfl
  rw [hpieces]
  refine Crosses.congr ((crosses_newline depth _ _).trans ((hopen _).trans ((hcolon _).trans
    (crosses_value hv depth [.object] h)))) ?_
  rw [true_and, true_and, true_and]

/-- The members of an object, from the line feed in front of the first one on. -/
theorem crosses_members {m : String × Value} {ms : List (String × Value)}
    (hscalar : ∀ n ∈ m :: ms, holdsHalf n.1 = false ∧ IsScalar n.2) (depth : Nat)
    {expected : Expected} (hexpected : expected = .firstName ∨ expected = .name)
    {rest : List Char} (h : EndsNumber rest) :
    Crosses ⟨expected, [.object]⟩ (octets (encodeMembers settingsStyle depth (m :: ms)))
      (∀ n ∈ m :: ms, ShortValue n.2) ⟨.follower, [.object]⟩ rest := by
  obtain ⟨hname, hv⟩ := hscalar m List.mem_cons_self
  induction ms generalizing m expected with
  | nil =>
      rw [encodeMembers]
      exact (crosses_member hname hv depth hexpected h).congr
        (List.forall_mem_singleton (p := fun n : String × Value => ShortValue n.2)).symm
  | cons n ms ih =>
      have hmore := fun k hk => hscalar k (List.mem_cons_of_mem m hk)
      have hrest := ih hmore (.inr rfl) (hmore n List.mem_cons_self).1
        (hmore n List.mem_cons_self).2
      have hcomma : Crosses ⟨.follower, [.object]⟩ (octets [',']) True ⟨.name, [.object]⟩
          (octets (encodeMembers settingsStyle depth (n :: ms)) ++ rest) :=
        crosses_of_step [] rfl fun position => rfl
      have hends : EndsNumber (octets [','] ++
          octets (encodeMembers settingsStyle depth (n :: ms)) ++ rest) :=
        endsNumber_cons (by decide)
      have hfirst := crosses_member hname hv depth hexpected hends
      rw [encodeMembers_cons, octets_append, octets_cons]
      refine (hfirst.trans (hcomma.trans hrest)).congr ?_
      rw [true_and, List.forall_mem_cons (a := m)]

/-- The text of an object of scalars has no fault exactly if its numbers are short. -/
theorem fault?_encodeAt {members : List (String × Value)} (hne : members ≠ [])
    (hscalar : ∀ n ∈ members, holdsHalf n.1 = false ∧ IsScalar n.2) :
    fault? (encodeAt settingsStyle 0 (.object members)) = none ↔
      ∀ n ∈ members, ShortValue n.2 := by
  obtain ⟨m, ms, rfl⟩ := List.exists_cons_of_ne_nil hne
  have hopen : ∀ rest, Crosses ⟨.value, []⟩ (octets ['\x7b']) True ⟨.firstName, [.object]⟩ rest :=
    fun rest => crosses_of_step [] rfl fun position => rfl
  have hclose : Crosses ⟨.follower, [.object]⟩ (octets ['\x7d']) True ⟨.follower, []⟩ [] :=
    crosses_of_step [] rfl fun position => rfl
  have hends : EndsNumber (octets (newline 0) ++ octets ['\x7d'] ++ []) :=
    endsNumber_cons (by decide)
  have hmembers := crosses_members hscalar 1 (.inl rfl) hends
  have hall := (hopen _).trans (hmembers.trans ((crosses_newline 0 _ _).trans hclose))
  obtain ⟨position, h⟩ := hall 0
  have hpieces : octets (encodeAt settingsStyle 0 (.object (m :: ms))) =
      octets ['\x7b'] ++ (octets (encodeMembers settingsStyle 1 (m :: ms)) ++
        (octets (newline 0) ++ octets ['\x7d'])) ++ [] := by
    rw [encodeAt_object_cons, List.cons_append, List.cons_append, octets_cons, octets_append,
      octets_append, List.append_assoc, List.append_nil]
    rfl
  rw [fault?, hpieces]
  refine h.trans ?_
  simp [faultFrom, endFault?]

end Formwork.Json.Strict
