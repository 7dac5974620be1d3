import Formwork.Proofs.Json.Escapes
import Mathlib.Data.List.Basic

/-!
What is written as JSON is decoded to itself. Every value is read back from its encoding at any
depth, whatever follows it, if the encoding keeps it: there are no numbers of double precision, no
whole number is too long, no half of a surrogate pair stands alone, and the members of an object
have names of their own.
-/

namespace Formwork.Json

open Text
open Number (longestInteger)
open Number.Reading (spanDigits)

/-- A text that goes on no number. -/
def EndsNumber (rest : List Char) : Prop :=
  ∀ ch ∈ rest.head?, ch.isDigit = false ∧ ch ≠ '.' ∧ ch ≠ 'e' ∧ ch ≠ 'E'

theorem head?_toDigits {m : Nat} (h : m ≠ 0) : (Nat.toDigits 10 m).head? ≠ some '0' := by
  induction m using Nat.strong_induction_on with
  | _ m ih =>
      rw [Nat.toDigits_eq_if (by decide)]
      split
      case isTrue hlt => interval_cases m <;> first | exact absurd rfl h | decide
      case isFalse hge =>
          have hne : Nat.toDigits 10 (m / 10) ≠ [] := Nat.toDigits_ne_nil
          rw [List.head?_append_of_ne_nil _ hne]
          exact ih (m / 10) (by omega) (by omega)

theorem isDigit_of_mem_toDigits {m : Nat} {c : Char} (h : c ∈ Nat.toDigits 10 m) :
    c.isDigit = true :=
  Nat.isDigit_of_mem_toDigits (by decide) (by decide) h

theorem toList_toString_int (n : Int) :
    (toString n).toList = (if n < 0 then ['-'] else []) ++ Nat.toDigits 10 n.natAbs := by
  rw [Int.toString_eq_repr, Int.repr_eq_if]
  by_cases hn : 0 ≤ n
  · rw [if_pos hn, if_neg (by omega), Nat.repr_eq_ofList_toDigits, String.toList_ofList]
    have : n.toNat = n.natAbs := by omega
    rw [this, List.nil_append]
  · rw [if_neg hn, if_pos (by omega), String.toList_append, Nat.repr_eq_ofList_toDigits]
    have : (-n).toNat = n.natAbs := by omega
    simp [this]

theorem mem_toString_int {n : Int} {c : Char} (h : c ∈ (toString n).toList) :
    c = '-' ∨ c.isDigit = true := by
  rw [toList_toString_int] at h
  rcases List.mem_append.mp h with h | h
  · split at h
    · exact .inl (List.mem_singleton.mp h)
    · exact absurd h List.not_mem_nil
  · exact .inr (isDigit_of_mem_toDigits h)

theorem takeWhile_toDigits (m : Nat) {rest : List Char} (h : EndsNumber rest) :
    (Nat.toDigits 10 m ++ rest).takeWhile Char.isDigit = Nat.toDigits 10 m := by
  rw [List.takeWhile_append_of_pos fun c hc => isDigit_of_mem_toDigits hc]
  cases rest with
  | nil => simp
  | cons ch rest =>
      have hstop := (h ch rfl).1
      simp [hstop]

theorem eq_zero_of_toDigits_append {m : Nat} {rest tail : List Char}
    (h : Nat.toDigits 10 m ++ rest = '0' :: tail) : m = 0 := by
  by_contra hm
  obtain ⟨d, ds, hd⟩ := List.exists_cons_of_ne_nil (Nat.toDigits_ne_nil (b := 10) (n := m))
  have hhead := head?_toDigits hm
  rw [hd, List.cons_append] at h
  rw [hd, (List.cons.inj h).1] at hhead
  exact hhead rfl

theorem ofDigits_toDigits (m : Nat) :
    ofDigits 10 (spanDigits (Nat.toDigits 10 m)).1 = m := by
  have hall : (Nat.toDigits 10 m).takeWhile Char.isDigit = Nat.toDigits 10 m := by
    have halone := takeWhile_toDigits m (nofun : EndsNumber [])
    rwa [List.append_nil] at halone
  have hvalue := Nat.ofDigitChars_toDigits (b := 10) (n := m) (by decide) (by decide)
  rw [Nat.ofDigitChars_eq_foldl] at hvalue
  rw [spanDigits, hall, ofDigits, List.foldl_map]
  exact hvalue

theorem reads_readNumber {n : Int} (hn : n.natAbs < 10 ^ longestInteger) {c : Cursor}
    {rest : List Char} (hrest : c.rest = (toString n).toList ++ rest) (h : EndsNumber rest) :
    Reads (readNumber c) (.int n) rest := by
  rw [toList_toString_int] at hrest
  have hlength : ¬ longestInteger < (Nat.toDigits 10 n.natAbs).length :=
    Nat.not_lt.mpr ((Nat.length_toDigits_le_iff (by decide) (by decide)).mpr hn)
  have hdigit : ∀ d ds, Nat.toDigits 10 n.natAbs = d :: ds → d ≠ '-' := by
    rintro d ds hd rfl
    have := isDigit_of_mem_toDigits (hd ▸ List.mem_cons_self : '-' ∈ Nat.toDigits 10 n.natAbs)
    exact absurd this (by decide)
  obtain ⟨d, ds, hd⟩ := List.exists_cons_of_ne_nil (Nat.toDigits_ne_nil (b := 10) (n := n.natAbs))
  unfold readNumber
  extract_lets negative body whole afterWhole fraction afterFraction exponent signLength value
    point text
  have hnegative : negative ↔ n < 0 := by
    by_cases h0 : n < 0
    · rw [if_pos h0] at hrest
      simp [negative, hrest, h0]
    · rw [if_neg h0, hd] at hrest
      simp [negative, hrest, h0, hdigit d ds hd]
  have hbody : body = Nat.toDigits 10 n.natAbs ++ rest := by
    by_cases h0 : n < 0
    · rw [if_pos h0] at hrest
      simp [body, hnegative.mpr h0, hrest]
    · rw [if_neg h0] at hrest
      simp [body, mt hnegative.mp h0, hrest]
  clear_value body
  have hwhole : whole = Nat.toDigits 10 n.natAbs := by
    simp only [whole]
    split
    case h_1 tail =>
      rw [eq_zero_of_toDigits_append hbody.symm]
      rfl
    case h_2 =>
      rw [hbody]
      exact takeWhile_toDigits n.natAbs h
  have hafter : afterWhole = rest := by
    simp [afterWhole, hwhole, hbody]
  clear_value afterWhole
  have hfraction : fraction = [] := by
    simp only [fraction]
    split
    case h_1 digits => exact absurd rfl (h '.' (by rw [← hafter]; rfl)).2.1
    case h_2 => rfl
  have hexponent : exponent = [] := by
    have hnone : afterFraction = rest := by simp [afterFraction, hfraction, hafter]
    clear_value afterFraction
    simp only [exponent]
    split
    case h_1 e more =>
      obtain ⟨-, -, hlower, hupper⟩ := h e (by rw [← hnone]; rfl)
      exact if_neg (not_or.mpr ⟨hlower, hupper⟩)
    case h_2 => rfl
  have hvalue : value = n.natAbs := by
    simp only [value]
    rw [hwhole, ofDigits_toDigits]
  have hlist : whole.isEmpty = false := by
    rw [hwhole, hd]
    rfl
  have hskip : (c.skip (signLength + whole.length)).rest = rest := by
    show c.rest.drop (signLength + whole.length) = rest
    rw [hrest, hwhole]
    by_cases h0 : n < 0
    · have hsign : signLength = 1 := if_pos (hnegative.mpr h0)
      rw [hsign, if_pos h0, Nat.add_comm]
      simp
    · have hsign : signLength = 0 := if_neg (mt hnegative.mp h0)
      rw [hsign, if_neg h0]
      simp
  have hsigned : (if negative then -(value : Int) else value) = n := by
    rw [hvalue]
    by_cases h0 : n < 0
    · rw [if_pos (hnegative.mpr h0)]
      omega
    · rw [if_neg (mt hnegative.mp h0)]
      omega
  refine ⟨c.skip (signLength + whole.length), ?_, hskip⟩
  rw [hlist, if_neg Bool.false_ne_true, if_pos (by simp [hfraction, hexponent]),
    if_neg (hwhole ▸ hlength)]
  exact congrArg (fun m => Except.ok (Document.int m, _)) hsigned

/-! ### Values -/

def isBlank (ch : Char) : Bool := ch = ' ' ∨ ch = '\t' ∨ ch = '\n' ∨ ch = '\r'

/-- A text that begins with no blank. -/
def Solid (cs : List Char) : Prop := ∀ ch ∈ cs.head?, isBlank ch = false

theorem rest_skipBlanks {c : Cursor} (blanks : List Char) {more : List Char}
    (hrest : c.rest = blanks ++ more) (hblanks : ∀ ch ∈ blanks, isBlank ch = true)
    (hmore : Solid more) : c.skipBlanks.rest = more := by
  have hspan : c.rest.takeWhile isBlank = blanks := by
    rw [hrest, List.takeWhile_append_of_pos hblanks]
    cases more with
    | nil => simp
    | cons ch more =>
        have hstop := hmore ch rfl
        simp [hstop]
  show c.rest.drop (c.rest.takeWhile isBlank).length = more
  rw [hspan, hrest, List.drop_left]

theorem isBlank_of_mem_newline {depth : Nat} {ch : Char} (h : ch ∈ newline depth) :
    isBlank ch = true := by
  rcases List.mem_cons.mp h with rfl | h
  · rfl
  · rw [List.eq_of_mem_replicate h]
    rfl

theorem rest_skipBlanks_newline {c : Cursor} {depth : Nat} {more : List Char}
    (hrest : c.rest = newline depth ++ more) (hmore : Solid more) : c.skipBlanks.rest = more :=
  rest_skipBlanks (newline depth) hrest (fun _ => isBlank_of_mem_newline) hmore

theorem rest_skipBlanks_of_solid {c : Cursor} (h : Solid c.rest) : c.skipBlanks.rest = c.rest :=
  rest_skipBlanks [] rfl nofun h

mutual

/-- A value that its encoding keeps: it holds no number of double precision, no whole number that
is too long to be read and no half of a surrogate pair, and no object has two members of one
name. -/
def Plain : Value → Prop
  | .null | .bool _ => True
  | .int n => n.natAbs < 10 ^ longestInteger
  | .float _ => False
  | .str s => holdsHalf s = false
  | .list items => PlainItems items
  | .object members => (members.map (·.1)).Nodup ∧ PlainMembers members

def PlainItems : List Value → Prop
  | [] => True
  | v :: rest => Plain v ∧ PlainItems rest

def PlainMembers : List (String × Value) → Prop
  | [] => True
  | (name, v) :: rest => holdsHalf name = false ∧ Plain v ∧ PlainMembers rest

end

theorem isDigit_iff {ch : Char} (h : ch.isDigit = true) : ch ≠ '"' ∧ ch ≠ '\x7b' ∧ ch ≠ '[' := by
  refine ⟨?_, ?_, ?_⟩ <;> rintro rfl <;> exact absurd h (by decide)

theorem toString_int_eq_cons (n : Int) : ∃ d ds, d.isDigit = true ∧
    ((toString n).toList = d :: ds ∨ (toString n).toList = '-' :: d :: ds) := by
  obtain ⟨d, ds, hd⟩ := List.exists_cons_of_ne_nil (Nat.toDigits_ne_nil (b := 10) (n := n.natAbs))
  refine ⟨d, ds, isDigit_of_mem_toDigits (hd ▸ List.mem_cons_self), ?_⟩
  rw [toList_toString_int, hd]
  by_cases h0 : n < 0
  · exact .inr (by rw [if_pos h0]; rfl)
  · exact .inl (by rw [if_neg h0]; rfl)

theorem encodeAt_list_cons (style : EncodingStyle) (depth : Nat) (v : Value) (vs : List Value) :
    encodeAt style depth (.list (v :: vs)) =
      '[' :: encodeItems style (depth + 1) (v :: vs) ++ newline depth ++ [']'] := rfl

theorem encodeAt_object_cons (style : EncodingStyle) (depth : Nat) (m : String × Value)
    (ms : List (String × Value)) : encodeAt style depth (.object (m :: ms)) =
      '\x7b' :: encodeMembers style (depth + 1) (m :: ms) ++ newline depth ++ ['\x7d'] := rfl

/-- A character that may stand at the beginning of a value: it is no blank, closes no list and does
not mark the order of octets. -/
def Opens (ch : Char) : Prop := isBlank ch = false ∧ ch ≠ ']' ∧ ch ≠ '\uFEFF'

theorem opens_of_isDigit {ch : Char} (h : ch.isDigit = true) : Opens ch := by
  refine ⟨?_, ?_, ?_⟩
  · by_contra hblank
    simp only [isBlank, decide_eq_false_iff_not, not_not] at hblank
    rcases hblank with rfl | rfl | rfl | rfl <;> exact absurd h (by decide)
  · rintro rfl
    exact absurd h (by decide)
  · rintro rfl
    exact absurd h (by decide)

theorem encodeAt_eq_cons (style : EncodingStyle) (depth : Nat) {v : Value} (hv : Plain v) :
    ∃ ch more, encodeAt style depth v = ch :: more ∧ Opens ch := by
  cases v with
  | null => exact ⟨_, _, rfl, by unfold Opens; decide⟩
  | bool b => cases b <;> exact ⟨_, _, rfl, by unfold Opens; decide⟩
  | int n =>
      rw [encodeAt]
      obtain ⟨d, ds, hdigit, hn | hn⟩ := toString_int_eq_cons n
      · exact ⟨d, ds, hn, opens_of_isDigit hdigit⟩
      · exact ⟨_, _, hn, by unfold Opens; decide⟩
  | float x => exact hv.elim
  | str s => exact ⟨_, _, rfl, by unfold Opens; decide⟩
  | list items =>
      cases items with
      | nil => exact ⟨_, _, rfl, by unfold Opens; decide⟩
      | cons v vs => exact ⟨_, _, encodeAt_list_cons style depth v vs, by unfold Opens; decide⟩
  | object members =>
      cases members with
      | nil => exact ⟨_, _, rfl, by unfold Opens; decide⟩
      | cons m ms => exact ⟨_, _, encodeAt_object_cons style depth m ms, by unfold Opens; decide⟩

theorem solid_encodeAt (style : EncodingStyle) (depth : Nat) {v : Value} (hv : Plain v)
    (rest : List Char) : Solid (encodeAt style depth v ++ rest) := by
  obtain ⟨ch, more, h, hopens⟩ := encodeAt_eq_cons style depth hv
  rw [h]
  exact fun d hd => by cases hd; exact hopens.1

/-- There is fuel for the first character of an encoding. -/
theorem exists_fuel (style : EncodingStyle) (depth : Nat) {v : Value} (hv : Plain v) {fuel : Nat}
    (h : (encodeAt style depth v).length ≤ fuel) : ∃ k, fuel = k + 1 := by
  obtain ⟨ch, more, hcons, -⟩ := encodeAt_eq_cons style depth hv
  rw [hcons, List.length_cons] at h
  exact ⟨fuel - 1, by omega⟩

theorem find?_words_int (n : Int) (rest : List Char) :
    (words.find? fun w => w.1.isPrefixOf ((toString n).toList ++ rest)) = none := by
  rw [List.find?_eq_none]
  obtain ⟨d, ds, hdigit, hn | hn⟩ := toString_int_eq_cons n <;> rw [hn]
  all_goals
    intro w hw
    have hne : d ≠ 'n' ∧ d ≠ 't' ∧ d ≠ 'f' ∧ d ≠ 'N' ∧ d ≠ 'I' ∧ d ≠ '-' := by
      refine ⟨?_, ?_, ?_, ?_, ?_, ?_⟩ <;> rintro rfl <;> exact absurd hdigit (by decide)
    simp only [words, List.mem_cons, List.not_mem_nil, or_false] at hw
    rcases hw with rfl | rfl | rfl | rfl | rfl | rfl <;> simp [hne, hne.1.symm, Ne.symm]

theorem put_of_fresh {key value : Document} {entries : List (Document × Document)}
    (h : ∀ entry ∈ entries, entry.1.sameKey key = false) :
    Document.put key value entries = entries ++ [(key, value)] := by
  induction entries with
  | nil => rfl
  | cons entry entries ih =>
      rw [Document.put, h entry List.mem_cons_self, if_neg Bool.false_ne_true,
        ih fun e he => h e (List.mem_cons_of_mem entry he)]
      rfl

theorem endsNumber_cons {ch : Char} {rest : List Char}
    (h : ch.isDigit = false ∧ ch ≠ '.' ∧ ch ≠ 'e' ∧ ch ≠ 'E') : EndsNumber (ch :: rest) := by
  intro d hd
  cases hd
  exact h

theorem endsNumber_newline (depth : Nat) (rest : List Char) :
    EndsNumber (newline depth ++ rest) :=
  endsNumber_cons (by decide)

/-- A text that begins with neither a quote nor a bracket. -/
def IsAtom (cs : List Char) : Prop := ∀ ch ∈ cs.head?, ch ≠ '"' ∧ ch ≠ '\x7b' ∧ ch ≠ '['

theorem readValue_atom {c : Cursor} (h : IsAtom c.rest) (fuel : Nat) :
    readValue (fuel + 1) c =
      match words.find? fun w => w.1.isPrefixOf c.rest with
      | some (word, value) => .ok (value, c.skip word.length)
      | none => readNumber c := by
  rw [readValue]
  split
  case h_1 heq => exact absurd rfl (h _ (by rw [heq]; rfl)).1
  case h_2 heq => exact absurd rfl (h _ (by rw [heq]; rfl)).2.1
  case h_3 heq => exact absurd rfl (h _ (by rw [heq]; rfl)).2.2
  case h_4 => rfl

theorem reads_word {c : Cursor} {word : List Char} {value : Document} {rest : List Char}
    (hrest : c.rest = word ++ rest)
    (hfind : (words.find? fun w => w.1.isPrefixOf (word ++ rest)) = some (word, value))
    (hatom : IsAtom (word ++ rest)) (fuel : Nat) : Reads (readValue (fuel + 1) c) value rest := by
  refine ⟨c.skip word.length, ?_, ?_⟩
  · rw [readValue_atom (hrest ▸ hatom), hrest, hfind]
  · show c.rest.drop word.length = rest
    rw [hrest, List.drop_left]

theorem isAtom_int (n : Int) (rest : List Char) : IsAtom ((toString n).toList ++ rest) := by
  obtain ⟨d, ds, hdigit, hn | hn⟩ := toString_int_eq_cons n <;> rw [hn]
  · rintro ch h
    cases h
    exact isDigit_iff hdigit
  · exact fun ch h => by cases h; decide

theorem reads_int {n : Int} (hn : n.natAbs < 10 ^ longestInteger) {c : Cursor}
    {rest : List Char} (hrest : c.rest = (toString n).toList ++ rest) (h : EndsNumber rest)
    (fuel : Nat) : Reads (readValue (fuel + 1) c) (.int n) rest := by
  obtain ⟨c', hnumber, hend⟩ := reads_readNumber hn hrest h
  refine ⟨c', ?_, hend⟩
  rw [readValue_atom (hrest ▸ isAtom_int n rest), hrest, find?_words_int n rest]
  exact hnumber

theorem encodeItems_cons (style : EncodingStyle) (depth : Nat) (v w : Value) (vs : List Value) :
    encodeItems style depth (v :: w :: vs) =
      newline depth ++ encodeAt style depth v ++ ',' :: encodeItems style depth (w :: vs) := rfl

theorem encodeMembers_cons (style : EncodingStyle) (depth : Nat) (name : String) (v : Value)
    (m : String × Value) (ms : List (String × Value)) :
    encodeMembers style depth ((name, v) :: m :: ms) =
      newline depth ++ encodeText style name ++ ':' :: ' ' :: encodeAt style depth v ++
        ',' :: encodeMembers style depth (m :: ms) := rfl

theorem encodeItems_eq_append (style : EncodingStyle) (depth : Nat) (v : Value)
    (vs : List Value) : ∃ more, encodeItems style depth (v :: vs) =
      newline depth ++ (encodeAt style depth v ++ more) := by
  cases vs with
  | nil => exact ⟨[], congrArg (newline depth ++ ·) (List.append_nil _).symm⟩
  | cons w vs => exact ⟨_, by rw [encodeItems_cons, List.append_assoc]⟩

theorem encodeMembers_eq_append (style : EncodingStyle) (depth : Nat) (m : String × Value)
    (ms : List (String × Value)) :
    ∃ more, encodeMembers style depth (m :: ms) = newline depth ++ '"' :: more := by
  cases ms with
  | nil =>
      rw [encodeMembers, encodeText, List.append_assoc]
      exact ⟨_, rfl⟩
  | cons n ms =>
      rw [encodeMembers_cons, encodeText, List.append_assoc, List.append_assoc]
      exact ⟨_, rfl⟩

/-- A value is read back from its encoding at every depth, whatever follows it. -/
def ReadsBack (style : EncodingStyle) (v : Value) : Prop :=
  ∀ (depth : Nat) {c : Cursor} {rest : List Char} {fuel : Nat},
    c.rest = encodeAt style depth v ++ rest → EndsNumber rest →
    (encodeAt style depth v).length ≤ fuel → Reads (readValue fuel c) (.ofValue v) rest

theorem length_newline (depth : Nat) : (newline depth).length = 2 * depth + 1 := by
  simp [newline]

theorem plainItems_iff {items : List Value} : PlainItems items ↔ ∀ v ∈ items, Plain v := by
  induction items with
  | nil => exact iff_of_true trivial nofun
  | cons v items ih => rw [PlainItems, List.forall_mem_cons, ih]

theorem plainMembers_iff {members : List (String × Value)} :
    PlainMembers members ↔ ∀ m ∈ members, holdsHalf m.1 = false ∧ Plain m.2 := by
  induction members with
  | nil => exact iff_of_true trivial nofun
  | cons m members ih => rw [PlainMembers, List.forall_mem_cons, ih, and_assoc]

theorem reads_encodeItems {style : EncodingStyle} {v : Value} {vs : List Value}
    (hback : ∀ w ∈ v :: vs, Plain w ∧ ReadsBack style w) (depth outer : Nat) {c : Cursor}
    {rest : List Char} {fuel : Nat} (read : List Document)
    (hrest : c.rest = encodeItems style depth (v :: vs) ++ newline outer ++ ']' :: rest)
    (hfuel : (encodeItems style depth (v :: vs)).length ≤ fuel) :
    Reads (readItems fuel read c.skipBlanks)
      (.list (read.reverse ++ Document.ofValues (v :: vs))) rest := by
  have hlength := length_newline depth
  obtain ⟨hplain, hv⟩ := hback v List.mem_cons_self
  induction vs generalizing v c fuel read with
  | nil =>
      rw [encodeItems] at hrest hfuel
      rw [List.length_append] at hfuel
      obtain ⟨fuel, rfl⟩ : ∃ k, fuel = k + 1 := ⟨fuel - 1, by omega⟩
      rw [List.append_assoc, List.append_assoc] at hrest
      have hstart := rest_skipBlanks_newline hrest (solid_encodeAt style depth hplain _)
      have hroom : (encodeAt style depth v).length ≤ fuel := by omega
      obtain ⟨c', hread, hend⟩ := hv depth hstart (endsNumber_newline outer _) hroom
      have hclose : c'.skipBlanks.rest = ']' :: rest :=
        rest_skipBlanks_newline hend (fun ch h => by cases h; rfl)
      refine ⟨c'.skipBlanks.next, ?_, congrArg (List.drop 1) hclose⟩
      simp only [readItems, hread, bind, Except.bind, hclose, List.reverse_cons]
      rfl
  | cons w vs ih =>
      rw [encodeItems_cons] at hrest hfuel
      rw [List.length_append, List.length_append, List.length_cons] at hfuel
      obtain ⟨fuel, rfl⟩ : ∃ k, fuel = k + 1 := ⟨fuel - 1, by omega⟩
      rw [List.append_assoc, List.append_assoc, List.append_assoc] at hrest
      have hstart := rest_skipBlanks_newline hrest (solid_encodeAt style depth hplain _)
      have hroom : (encodeAt style depth v).length ≤ fuel := by omega
      obtain ⟨c', hread, hend⟩ := hv depth hstart (endsNumber_cons (by decide)) hroom
      have hcomma : c'.skipBlanks.rest = _ :=
        rest_skipBlanks [] hend nofun (fun ch h => by cases h; rfl)
      have hback' := fun u hu => hback u (List.mem_cons_of_mem v hu)
      have hnext : c'.skipBlanks.next.rest =
          encodeItems style depth (w :: vs) ++ newline outer ++ ']' :: rest := by
        show c'.skipBlanks.rest.drop 1 = _
        rw [hcomma]
        simp
      have hroom' : (encodeItems style depth (w :: vs)).length ≤ fuel := by omega
      obtain ⟨c'', hmore, hlast⟩ := ih hback' (Document.ofValue v :: read) hnext hroom'
        (hback' w List.mem_cons_self).1 (hback' w List.mem_cons_self).2
      refine ⟨c'', ?_, hlast⟩
      simp only [readItems, hread, bind, Except.bind, hcomma]
      rw [hmore, List.reverse_cons, List.append_assoc]
      rfl

theorem readMembers_member {style : EncodingStyle} {name : String} {v : Value}
    (hname : holdsHalf name = false) (hplain : Plain v) (hv : ReadsBack style v) {depth : Nat}
    {c : Cursor} {more : List Char} {fuel : Nat} (read : List (Document × Document))
    (hrest : c.rest = newline depth ++ encodeText style name ++
      ':' :: ' ' :: encodeAt style depth v ++ more)
    (hmore : EndsNumber more) (hfuel : (encodeAt style depth v).length ≤ fuel) :
    ∃ c' : Cursor, c'.rest = more ∧
      (∀ tail, c'.skipBlanks.rest = '\x7d' :: tail → readMembers (fuel + 1) read c.skipBlanks =
        .ok (.map (Document.put (.text name) (.ofValue v) read), c'.skipBlanks.next)) ∧
      ∀ tail, c'.skipBlanks.rest = ',' :: tail → readMembers (fuel + 1) read c.skipBlanks =
        readMembers fuel (Document.put (.text name) (.ofValue v) read)
          c'.skipBlanks.next.skipBlanks := by
  rw [List.append_assoc, List.append_assoc] at hrest
  have hquoted : Solid (encodeText style name ++ (':' :: ' ' :: encodeAt style depth v ++ more)) :=
    fun ch h => by cases h; rfl
  have hstart := rest_skipBlanks_newline hrest hquoted
  have hquote : c.skipBlanks.rest = '"' :: c.skipBlanks.next.rest := by
    show c.skipBlanks.rest = '"' :: c.skipBlanks.rest.drop 1
    rw [hstart]
    rfl
  obtain ⟨c₁, htext, hcolon⟩ := reads_readText style hname (hquote ▸ hstart)
  have hcolon' : c₁.skipBlanks.rest = ':' :: ' ' :: encodeAt style depth v ++ more :=
    rest_skipBlanks [] hcolon nofun (fun ch h => by cases h; rfl)
  have hvalue : c₁.skipBlanks.next.skipBlanks.rest = encodeAt style depth v ++ more :=
    rest_skipBlanks [' '] (congrArg (List.drop 1) hcolon')
      (fun ch h => by rw [List.mem_singleton.mp h]; rfl) (solid_encodeAt style depth hplain more)
  obtain ⟨c₂, hread, hend⟩ := hv depth hvalue hmore hfuel
  refine ⟨c₂, hend, fun tail htail => ?_, fun tail htail => ?_⟩
  all_goals
    rw [readMembers, hquote]
    simp only [htext, bind, Except.bind, hcolon', List.cons_append, hread, htail]

/-- The members of an object are read back behind those that were read before, of which none has
one of their names. -/
theorem reads_encodeMembers {style : EncodingStyle} {m : String × Value}
    {ms : List (String × Value)}
    (hback : ∀ n ∈ m :: ms, (holdsHalf n.1 = false ∧ Plain n.2) ∧ ReadsBack style n.2)
    (hnames : ((m :: ms).map (·.1)).Nodup) (depth outer : Nat) {c : Cursor} {rest : List Char}
    {fuel : Nat} (read : List (Document × Document))
    (hfresh : ∀ n ∈ m :: ms, ∀ entry ∈ read, entry.1.sameKey (.text n.1) = false)
    (hrest : c.rest = encodeMembers style depth (m :: ms) ++ newline outer ++ '\x7d' :: rest)
    (hfuel : (encodeMembers style depth (m :: ms)).length ≤ fuel) :
    Reads (readMembers fuel read c.skipBlanks) (.map (read ++ Document.ofMembers (m :: ms)))
      rest := by
  have hlength := length_newline depth
  obtain ⟨⟨hname, hplain⟩, hv⟩ := hback m List.mem_cons_self
  induction ms generalizing m c fuel read with
  | nil =>
      rw [encodeMembers] at hrest hfuel
      simp only [List.length_append, List.length_cons] at hfuel
      obtain ⟨fuel, rfl⟩ : ∃ k, fuel = k + 1 := ⟨fuel - 1, by omega⟩
      rw [List.append_assoc] at hrest
      have hroom : (encodeAt style depth m.2).length ≤ fuel := by omega
      obtain ⟨c', hend, hlast, -⟩ := readMembers_member hname hplain hv read hrest
        (endsNumber_newline outer _) hroom
      have hclose : c'.skipBlanks.rest = '\x7d' :: rest :=
        rest_skipBlanks_newline hend (fun ch h => by cases h; rfl)
      refine ⟨c'.skipBlanks.next, ?_, congrArg (List.drop 1) hclose⟩
      rw [hlast rest hclose, put_of_fresh (hfresh m List.mem_cons_self)]
      rfl
  | cons n ms ih =>
      rw [encodeMembers_cons] at hrest hfuel
      simp only [List.length_append, List.length_cons] at hfuel
      obtain ⟨fuel, rfl⟩ : ∃ k, fuel = k + 1 := ⟨fuel - 1, by omega⟩
      rw [List.append_assoc, List.append_assoc] at hrest
      have hroom : (encodeAt style depth m.2).length ≤ fuel := by omega
      obtain ⟨c', hend, -, hgoesOn⟩ := readMembers_member hname hplain hv read hrest
        (endsNumber_cons (by decide)) hroom
      have hcomma : c'.skipBlanks.rest = _ :=
        rest_skipBlanks [] hend nofun (fun ch h => by cases h; rfl)
      have hback' := fun k hk => hback k (List.mem_cons_of_mem m hk)
      rw [List.map_cons, List.nodup_cons] at hnames
      have hfresh' : ∀ k ∈ n :: ms, ∀ entry ∈ read ++ [(Document.text m.1, Document.ofValue m.2)],
          entry.1.sameKey (.text k.1) = false := by
        intro k hk entry hentry
        rcases List.mem_append.mp hentry with hentry | hentry
        · exact hfresh k (List.mem_cons_of_mem m hk) entry hentry
        · rw [List.mem_singleton.mp hentry]
          exact beq_false_of_ne fun h => hnames.1 (h ▸ List.mem_map_of_mem hk)
      have hnext : c'.skipBlanks.next.rest =
          encodeMembers style depth (n :: ms) ++ newline outer ++ '\x7d' :: rest := by
        show c'.skipBlanks.rest.drop 1 = _
        rw [hcomma]
        simp
      have hroom' : (encodeMembers style depth (n :: ms)).length ≤ fuel := by omega
      obtain ⟨c'', hmore, hlast⟩ := ih hback' hnames.2 _ hfresh' hnext hroom'
        (hback' n List.mem_cons_self).2 (hback' n List.mem_cons_self).1.1
        (hback' n List.mem_cons_self).1.2
      refine ⟨c'', ?_, hlast⟩
      rw [hgoesOn _ hcomma, put_of_fresh (hfresh m List.mem_cons_self)]
      refine hmore.trans ?_
      rw [List.append_assoc]
      rfl

theorem readValue_list {c : Cursor} {more : List Char} (hrest : c.rest = '[' :: more) (fuel : Nat) :
    readValue (fuel + 1) c =
      if c.next.skipBlanks.rest.head? = some ']' then .ok (.list [], c.next.skipBlanks.next)
      else readItems fuel [] c.next.skipBlanks := by
  rw [readValue, hrest]
  rfl

theorem readValue_map {c : Cursor} {more : List Char} (hrest : c.rest = '\x7b' :: more)
    (fuel : Nat) :
    readValue (fuel + 1) c =
      if c.next.skipBlanks.rest.head? = some '\x7d' then .ok (.map [], c.next.skipBlanks.next)
      else readMembers fuel [] c.next.skipBlanks := by
  rw [readValue, hrest]
  rfl

theorem sizeOf_lt_of_mem_members {m : String × Value} {members : List (String × Value)}
    (h : m ∈ members) : sizeOf m.2 < sizeOf members := by
  have hm : sizeOf m = 1 + sizeOf m.1 + sizeOf m.2 := rfl
  have := List.sizeOf_lt_of_mem h
  omega

theorem readsBack (style : EncodingStyle) : (v : Value) → Plain v → ReadsBack style v
  | .null, hv => by
      intro depth c rest fuel hrest _ hfuel
      obtain ⟨fuel, rfl⟩ := exists_fuel style depth hv hfuel
      rw [encodeAt] at hrest
      exact reads_word hrest rfl (fun ch h => by cases h; decide) fuel
  | .bool b, hv => by
      intro depth c rest fuel hrest _ hfuel
      obtain ⟨fuel, rfl⟩ := exists_fuel style depth hv hfuel
      rw [encodeAt] at hrest
      cases b
      · exact reads_word hrest rfl (fun ch h => by cases h; decide) fuel
      · exact reads_word hrest rfl (fun ch h => by cases h; decide) fuel
  | .int n, hv => by
      intro depth c rest fuel hrest hend hfuel
      obtain ⟨fuel, rfl⟩ := exists_fuel style depth hv hfuel
      rw [encodeAt] at hrest
      exact reads_int hv hrest hend fuel
  | .float x, hv => hv.elim
  | .str s, hv => by
      intro depth c rest fuel hrest _ hfuel
      obtain ⟨fuel, rfl⟩ := exists_fuel style depth hv hfuel
      rw [encodeAt] at hrest
      have hquote : c.rest = '"' :: c.next.rest := by
        show c.rest = '"' :: c.rest.drop 1
        rw [hrest]
        rfl
      rw [readValue, hquote]
      exact reads_readText style hv (hquote ▸ hrest)
  | .list [], hv => by
      intro depth c rest fuel hrest _ hfuel
      obtain ⟨fuel, rfl⟩ := exists_fuel style depth hv hfuel
      rw [encodeAt] at hrest
      have hclose : c.next.skipBlanks.rest = ']' :: rest :=
        rest_skipBlanks [] (congrArg (List.drop 1) hrest) nofun
          (fun ch h => by cases h; rfl)
      refine ⟨c.next.skipBlanks.next, ?_, congrArg (List.drop 1) hclose⟩
      rw [readValue_list hrest]
      exact if_pos (by rw [hclose]; rfl)
  | .list (v :: vs), hv => by
      intro depth c rest fuel hrest _ hfuel
      obtain ⟨fuel, rfl⟩ := exists_fuel style depth hv hfuel
      rw [encodeAt_list_cons] at hrest hfuel
      have hopen : c.next.rest =
          encodeItems style (depth + 1) (v :: vs) ++ newline depth ++ ']' :: rest := by
        show c.rest.drop 1 = _
        rw [hrest]
        simp
      have hback : ∀ w ∈ v :: vs, Plain w ∧ ReadsBack style w := fun w hw =>
        have hw' := plainItems_iff.mp hv w hw
        ⟨hw', readsBack style w hw'⟩
      have hroom : (encodeItems style (depth + 1) (v :: vs)).length ≤ fuel := by
        simp only [List.length_append, List.length_cons] at hfuel
        omega
      obtain ⟨c', hread, hend⟩ := reads_encodeItems hback (depth + 1) depth [] hopen hroom
      refine ⟨c', ?_, hend⟩
      -- behind the bracket begins an item, which does not close the list
      have hitem : c.next.skipBlanks.rest.head? ≠ some ']' := by
        obtain ⟨more, hmore⟩ := encodeItems_eq_append style (depth + 1) v vs
        obtain ⟨ch, tail, hch, -, hne, -⟩ := encodeAt_eq_cons style (depth + 1)
          (hback v List.mem_cons_self).1
        rw [hmore, List.append_assoc, List.append_assoc, List.append_assoc] at hopen
        rw [rest_skipBlanks_newline hopen (solid_encodeAt style _ (hback v List.mem_cons_self).1 _),
          hch]
        exact fun h => hne (Option.some.inj h)
      rw [readValue_list hrest, if_neg hitem, hread]
      rfl
  | .object [], hv => by
      intro depth c rest fuel hrest _ hfuel
      obtain ⟨fuel, rfl⟩ := exists_fuel style depth hv hfuel
      rw [encodeAt] at hrest
      have hclose : c.next.skipBlanks.rest = '\x7d' :: rest :=
        rest_skipBlanks [] (congrArg (List.drop 1) hrest) nofun
          (fun ch h => by cases h; rfl)
      refine ⟨c.next.skipBlanks.next, ?_, congrArg (List.drop 1) hclose⟩
      rw [readValue_map hrest]
      exact if_pos (by rw [hclose]; rfl)
  | .object (m :: ms), hv => by
      intro depth c rest fuel hrest _ hfuel
      obtain ⟨fuel, rfl⟩ := exists_fuel style depth hv hfuel
      rw [encodeAt_object_cons] at hrest hfuel
      have hopen : c.next.rest =
          encodeMembers style (depth + 1) (m :: ms) ++ newline depth ++ '\x7d' :: rest := by
        show c.rest.drop 1 = _
        rw [hrest]
        simp
      have hback : ∀ n ∈ m :: ms, (holdsHalf n.1 = false ∧ Plain n.2) ∧ ReadsBack style n.2 :=
        fun n hn =>
          have hn' := plainMembers_iff.mp hv.2 n hn
          ⟨hn', readsBack style n.2 hn'.2⟩
      have hroom : (encodeMembers style (depth + 1) (m :: ms)).length ≤ fuel := by
        simp only [List.length_append, List.length_cons] at hfuel
        omega
      obtain ⟨c', hread, hend⟩ :=
        reads_encodeMembers hback hv.1 (depth + 1) depth [] nofun hopen hroom
      refine ⟨c', ?_, hend⟩
      -- behind the brace begins a name, which does not close the object
      have hmember : c.next.skipBlanks.rest.head? ≠ some '\x7d' := by
        obtain ⟨more, hmore⟩ := encodeMembers_eq_append style (depth + 1) m ms
        rw [hmore, List.append_assoc, List.append_assoc] at hopen
        rw [rest_skipBlanks_newline hopen (fun ch h => by cases h; rfl)]
        exact fun h => absurd (Option.some.inj h) (by decide)
      rw [readValue_map hrest, if_neg hmember, hread]
      rfl
termination_by v => v
decreasing_by
  · exact Nat.lt_trans (List.sizeOf_lt_of_mem hw) (by simp)
  · exact Nat.lt_trans (sizeOf_lt_of_mem_members hn) (by simp)

/-- A value that its encoding keeps is what the encoded text decodes to, also with a line feed at
its end. -/
theorem decode_encodeAt (style : EncodingStyle) {v : Value} (hv : Plain v) {ending : List Char}
    (hending : ending = [] ∨ ending = ['\n']) :
    decode (encodeAt style 0 v ++ ending) = .ok (.ofValue v) := by
  have hblanks : ∀ ch ∈ ending, isBlank ch = true := by
    rcases hending with rfl | rfl
    · exact nofun
    · exact fun ch h => by rw [List.mem_singleton.mp h]; rfl
  have hends : EndsNumber ending := by
    rcases hending with rfl | rfl
    · exact nofun
    · exact endsNumber_newline 0 []
  have hmark : (encodeAt style 0 v ++ ending).head? ≠ some '\uFEFF' := by
    obtain ⟨ch, more, hcons, -, -, hmark⟩ := encodeAt_eq_cons style 0 hv
    rw [hcons]
    exact fun h => hmark (Option.some.inj h)
  have hstart : (Cursor.skipBlanks ⟨0, encodeAt style 0 v ++ ending⟩).rest =
      encodeAt style 0 v ++ ending :=
    rest_skipBlanks_of_solid (solid_encodeAt style 0 hv ending)
  have hroom : (encodeAt style 0 v).length ≤ 2 * (encodeAt style 0 v ++ ending).length + 2 := by
    rw [List.length_append]
    omega
  obtain ⟨c, hread, hend⟩ := readsBack style v hv 0 hstart hends hroom
  have hlast : c.skipBlanks.rest = [] :=
    rest_skipBlanks ending (hend.trans (List.append_nil ending).symm) hblanks nofun
  rw [decode, if_neg hmark]
  simp only [bind, Except.bind, pure, Except.pure, hread, hlast, List.isEmpty_nil, if_true]

end Formwork.Json
