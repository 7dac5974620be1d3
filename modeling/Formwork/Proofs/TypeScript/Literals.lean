import Formwork.Proofs.TypeScript.Numbers
import Formwork.Proofs.TypeScript.Sequences
import Formwork.Proofs.TypeScript.Strict

/-!
Literals as they are read: words, numbers, quoted texts, and lists of literals. The literal of a
value is read as one literal, to its end and with every text in it, unless a line breaks in one of
the texts; then nothing is read.
-/

namespace Formwork

/-! ### Values -/

mutual

def Value.breaksLine : Value → Bool
  | .str s => s.toList.any TypeScript.breaksLine
  | .list items => anyBreaksLine items
  | .object members => (Value.object members).display.toList.any TypeScript.breaksLine
  | _ => false

def Value.anyBreaksLine : List Value → Bool
  | [] => false
  | v :: items => v.breaksLine || anyBreaksLine items

end

theorem Value.anyBreaksLine_eq (items : List Value) :
    anyBreaksLine items = items.any Value.breaksLine := by
  induction items with
  | nil => rfl
  | cons v items ih => rw [anyBreaksLine, ih, List.any_cons]

namespace TypeScript

inductive Literal
  | word (cs : List Char)
  | number (cs : List Char)
  | text (cs : List Char)
  | list (items : List Literal)

mutual

def Literal.ofValue : Value → Literal
  | .null => .word "null".toList
  | .bool b => .word (if b then "true" else "false").toList
  | .int n => .number (toString n).toList
  | .float .nan => .word "NaN".toList
  | .float (.infinite negative) => .word (if negative then "-Infinity" else "Infinity").toList
  | .float x => .number (floatLiteral x).toList
  | .str s => .text s.toList
  | .list items => .list (ofValues items)
  | .object members => .text (Value.object members).display.toList

def Literal.ofValues : List Value → List Literal
  | [] => []
  | v :: items => ofValue v :: ofValues items

end

theorem Literal.ofValues_eq (items : List Value) : ofValues items = items.map ofValue := by
  induction items with
  | nil => rfl
  | cons v items ih => rw [ofValues, ih, List.map_cons]

/-! ### Reading -/

def isAtomChar (c : Char) : Bool := c.isAlphanum || c = '+' || c = '-' || c = '.'

def literalWords : List (List Char) :=
  ["null", "true", "false", "NaN", "Infinity", "-Infinity"].map String.toList

def atom? (cs : List Char) : Option Literal :=
  if cs ∈ literalWords then some (.word cs) else if isNumber cs then some (.number cs) else none

/-- A literal with at most `fuel` lists around a part of it, and what follows it. -/
def readLiteral : (fuel : Nat) → List Char → Option (Literal × List Char)
  | 0, _ => none
  | fuel + 1, cs =>
    match cs with
    | '\'' :: body => (readQuoted body).map fun read => (.text read.1, read.2)
    | '[' :: body =>
      match skipSpace body with
      | ']' :: rest => some (.list [], rest)
      | _ => (readSequence (readLiteral fuel) ']' body.length body).map fun read =>
          (.list read.1, read.2)
    | cs => (atom? (cs.takeWhile isAtomChar)).map fun atom => (atom, cs.dropWhile isAtomChar)

def literal? (cs : List Char) : Option Literal :=
  (readLiteral cs.length cs).bind fun read => if read.2 = [] then some read.1 else none

/-! ### Words and numbers -/

/-- Text that goes on no word and no number. -/
def EndsAtom (rest : List Char) : Prop := ∀ c ∈ rest.head?, isAtomChar c = false

theorem readLiteral_atom {cs : List Char} (hne : cs ≠ []) (hatom : ∀ c ∈ cs, isAtomChar c = true)
    {rest : List Char} (hrest : EndsAtom rest) (fuel : Nat) :
    readLiteral (fuel + 1) (cs ++ rest) = (atom? cs).map fun atom => (atom, rest) := by
  obtain ⟨c, ds, hcs⟩ := List.exists_cons_of_ne_nil hne
  have hc : isAtomChar c = true := hatom c (hcs ▸ List.mem_cons_self)
  have hall : (cs ++ rest).takeWhile isAtomChar = cs ∧
      (cs ++ rest).dropWhile isAtomChar = rest := by
    rw [List.takeWhile_append_of_pos hatom, List.dropWhile_append_of_pos hatom]
    cases rest with
    | nil => simp
    | cons d rest =>
        have hd := hrest d rfl
        rw [List.takeWhile_cons_of_neg (by simp [hd]), List.dropWhile_cons_of_neg (by simp [hd])]
        simp
  -- no word or number begins as a text or a list does
  have hother : ∀ d body, isAtomChar d = false → cs ++ rest ≠ d :: body := by
    intro d body hd heq
    rw [hcs] at heq
    rw [← (List.cons.inj heq).1, hc] at hd
    cases hd
  rw [readLiteral, hall.1, hall.2]
  · exact fun body => hother '\'' body (by decide)
  · exact fun body => hother '[' body (by decide)

theorem isAtomChar_of_isNumeral {c : Char} (h : isNumeral c = true) : isAtomChar c = true := by
  simp only [isNumeral, Bool.or_eq_true, beq_iff_eq] at h
  simp only [isAtomChar, Char.isAlphanum, Bool.or_eq_true, decide_eq_true_eq]
  rcases h with (((hdigit | rfl) | rfl) | rfl) | rfl
  · simp [hdigit]
  all_goals decide

theorem atom?_word {cs : List Char} (h : cs ∈ literalWords) : atom? cs = some (.word cs) :=
  if_pos h

theorem atom?_number {cs : List Char} (h : isNumber cs = true) : atom? cs = some (.number cs) := by
  have hwords : ∀ word ∈ literalWords, isNumber word = false := by decide
  rw [atom?, if_neg fun hword => absurd (hwords cs hword) (by simp [h]), if_pos h]

theorem readLiteral_word {cs : List Char} (h : cs ∈ literalWords) {rest : List Char}
    (hrest : EndsAtom rest) (fuel : Nat) :
    readLiteral (fuel + 1) (cs ++ rest) = some (.word cs, rest) := by
  have hwords : ∀ word ∈ literalWords, word ≠ [] ∧ word.all isAtomChar = true := by decide
  rw [readLiteral_atom (hwords cs h).1 (List.all_eq_true.mp (hwords cs h).2) hrest, atom?_word h]
  rfl

theorem readLiteral_number {cs : List Char} (h : isNumber cs = true) (hnumeral : Numeral cs)
    {rest : List Char} (hrest : EndsAtom rest) (fuel : Nat) :
    readLiteral (fuel + 1) (cs ++ rest) = some (.number cs, rest) := by
  have hne : cs ≠ [] := by
    rintro rfl
    exact absurd h (by decide)
  rw [readLiteral_atom hne (fun c hc => isAtomChar_of_isNumeral (hnumeral c hc)) hrest,
    atom?_number h]
  rfl

theorem readLiteral_quotedChars (cs rest : List Char) (fuel : Nat) :
    readLiteral (fuel + 1) (quotedChars cs ++ rest) =
      if cs.any breaksLine then none else some (.text cs, rest) := by
  have hread : readLiteral (fuel + 1) (quotedChars cs ++ rest) =
      (readQuoted (cs.flatMap escapeChar ++ '\'' :: rest)).map fun read =>
        (.text read.1, read.2) := by
    simp [quotedChars, readLiteral]
  rw [hread, readQuoted_escape]
  split <;> rfl

/-! ### Lists -/

theorem literalItems_eq (items : List Value) :
    literalItems items = [',', ' '].intercalate (items.map literalChars) := by
  induction items with
  | nil => rfl
  | cons v items ih =>
      cases items with
      | nil => simp [literalItems]
      | cons w items =>
          rw [literalItems, ih]
          · simp [List.intercalate_cons_cons]
          · simp

theorem length_literalChars_le {v : Value} {items : List Value} (h : v ∈ items) :
    (literalChars v).length ≤ (literalItems items).length := by
  induction items with
  | nil => exact absurd h List.not_mem_nil
  | cons w items ih =>
      cases items with
      | nil => rw [List.mem_singleton.mp h, literalItems]
      | cons x items =>
          rw [literalItems, List.length_append, List.length_cons, List.length_cons]
          · rcases List.mem_cons.mp h with rfl | h
            · omega
            · have hrest := ih h
              omega
          · simp

theorem isNumber_floatLiteral (negative : Bool) (m : Nat) (e : Int) :
    isNumber (floatLiteral (.finite negative m e)).toList = true ∧
      Numeral (floatLiteral (.finite negative m e)).toList := by
  rw [floatLiteral]
  split
  · exact ⟨isNumber_toString _, numeral_toString _⟩
  · exact ⟨isNumber_text negative m e, numeral_text negative m e⟩

theorem not_isSpace_of_isAtomChar {c : Char} (h : isAtomChar c = true) :
    isSpace c = false ∧ c ≠ ']' := by
  constructor
  · refine Bool.eq_false_iff.mpr fun hc => ?_
    simp only [isSpace, Bool.or_eq_true, decide_eq_true_eq] at hc
    rcases hc with ((rfl | rfl) | rfl) | rfl <;> exact absurd h (by decide)
  · rintro rfl
    exact absurd h (by decide)

/-- No literal begins with space or with a closing bracket. -/
theorem exists_literalChars_cons (v : Value) :
    ∃ c cs, literalChars v = c :: cs ∧ isSpace c = false ∧ c ≠ ']' := by
  have hnumber : ∀ cs, isNumber cs = true → Numeral cs →
      ∃ c ds, cs = c :: ds ∧ isSpace c = false ∧ c ≠ ']' := by
    intro cs h hnumeral
    cases cs with
    | nil => exact absurd h (by decide)
    | cons c ds =>
        exact ⟨c, ds, rfl, not_isSpace_of_isAtomChar
          (isAtomChar_of_isNumeral (hnumeral c List.mem_cons_self))⟩
  cases v with
  | null => exact ⟨_, _, rfl, by decide, by decide⟩
  | bool b => cases b <;> exact ⟨_, _, rfl, by decide, by decide⟩
  | int n =>
      rw [literalChars]
      exact hnumber _ (isNumber_toString n) (numeral_toString n)
  | float x =>
      rw [literalChars]
      match x with
      | .nan => exact ⟨_, _, rfl, by decide, by decide⟩
      | .infinite negative => cases negative <;> exact ⟨_, _, rfl, by decide, by decide⟩
      | .finite negative m e =>
          obtain ⟨h, hnumeral⟩ := isNumber_floatLiteral negative m e
          exact hnumber _ h hnumeral
  | str s => exact ⟨'\'', _, by rw [literalChars_str, quotedChars]; rfl, by decide, by decide⟩
  | list items => exact ⟨'[', _, by rw [literalChars]; rfl, by decide, by decide⟩
  | object members =>
      exact ⟨'\'', _, by rw [literalChars, quotedChars]; rfl, by decide, by decide⟩

theorem skipSpace_literalChars (v : Value) (rest : List Char) :
    skipSpace (literalChars v ++ rest) = literalChars v ++ rest := by
  obtain ⟨c, cs, heq, hspace, -⟩ := exists_literalChars_cons v
  rw [heq, List.cons_append, skipSpace_of_not_isSpace hspace]

theorem readLiteral_list_nil (rest : List Char) (fuel : Nat) :
    readLiteral (fuel + 1) (literalChars (.list []) ++ rest) = some (.list [], rest) := by
  rw [literalChars, literalItems]
  rfl

def itemsChars (items : List Value) (rest : List Char) : List Char :=
  sequence ' ' (']' :: rest) (items.map literalChars)

theorem readLiteral_list_cons (v : Value) (items : List Value) (rest : List Char) (fuel : Nat) :
    readLiteral (fuel + 1) (literalChars (.list (v :: items)) ++ rest) =
      (readSequence (readLiteral fuel) ']' (itemsChars (v :: items) rest).length
        (itemsChars (v :: items) rest)).map fun read => (.list read.1, read.2) := by
  have hbody : literalChars (.list (v :: items)) ++ rest =
      '[' :: itemsChars (v :: items) rest := by
    rw [literalChars, literalItems_eq, itemsChars, sequence]
    simp
  obtain ⟨next, -, hsequence, -⟩ := sequence_cons (by decide : isSpace ' ' = true)
    (skipSpace_of_not_isSpace (by decide) rest : skipSpace (']' :: rest) = ']' :: rest)
    (literalChars v) (items.map literalChars)
  obtain ⟨c, cs, hc, hspace, hclose⟩ := exists_literalChars_cons v
  rw [hbody, readLiteral]
  split
  case h_1 heq =>
    rw [itemsChars, List.map_cons, hsequence, skipSpace_literalChars, hc, List.cons_append] at heq
    exact absurd (List.cons.inj heq).1 hclose
  case h_2 => rfl

/-- How the literal of a value is read: to its end if no line breaks in a text of the value, and not
at all otherwise. -/
structure Readable (v : Value) : Prop where
  read : v.breaksLine = false → ∀ fuel, (literalChars v).length ≤ fuel → ∀ rest, EndsAtom rest →
    readLiteral fuel (literalChars v ++ rest) = some (.ofValue v, rest)
  unread : v.breaksLine = true → ∀ fuel, (literalChars v).length ≤ fuel → ∀ rest,
    readLiteral fuel (literalChars v ++ rest) = none

theorem readable_of_atom {v : Value} (hbreaks : v.breaksLine = false)
    (hread : ∀ fuel rest, EndsAtom rest →
      readLiteral (fuel + 1) (literalChars v ++ rest) = some (.ofValue v, rest)) : Readable v where
  read := fun _ fuel hfuel rest hrest => by
    obtain ⟨c, cs, heq, -⟩ := exists_literalChars_cons v
    obtain ⟨fuel, rfl⟩ : ∃ n, fuel = n + 1 :=
      Nat.exists_eq_add_one.mpr (Nat.lt_of_lt_of_le (by rw [heq]; exact Nat.succ_pos _) hfuel)
    exact hread fuel rest hrest
  unread := fun h => absurd hbreaks (by simp [h])

theorem readable_of_quotedChars {v : Value} {cs : List Char}
    (hchars : literalChars v = quotedChars cs) (hbreaks : v.breaksLine = cs.any breaksLine)
    (hvalue : Literal.ofValue v = .text cs) : Readable v := by
  have hfuel : ∀ fuel, (literalChars v).length ≤ fuel → ∃ n, fuel = n + 1 := fun fuel h =>
    Nat.exists_eq_add_one.mpr (Nat.lt_of_lt_of_le (by rw [hchars]; exact Nat.succ_pos _) h)
  refine ⟨fun hb fuel h rest _ => ?_, fun hb fuel h rest => ?_⟩
  · obtain ⟨fuel, rfl⟩ := hfuel fuel h
    rw [hchars, readLiteral_quotedChars, ← hbreaks, hb, hvalue]
    rfl
  · obtain ⟨fuel, rfl⟩ := hfuel fuel h
    rw [hchars, readLiteral_quotedChars, ← hbreaks, hb]
    rfl

theorem endsAtom_of_follows {rest next : List Char} (h : Follows ' ' (']' :: rest) next) :
    EndsAtom next := by
  rcases h with rfl | ⟨more, rfl⟩ <;> rintro c ⟨⟩ <;> decide

theorem Readable.readAs {v : Value} (h : Readable v) (hbreaks : v.breaksLine = false) {fuel : Nat}
    (hfuel : (literalChars v).length ≤ fuel) {rest next : List Char}
    (hnext : Follows ' ' (']' :: rest) next) :
    ReadAs (readLiteral fuel) (literalChars v) (.ofValue v) next :=
  ⟨next, by rw [skipSpace_literalChars, h.read hbreaks fuel hfuel next (endsAtom_of_follows hnext)],
    rfl⟩

section

variable {items : List Value} {fuel : Nat} (h : ∀ v ∈ items, Readable v)
  (hfuel : ∀ v ∈ items, (literalChars v).length ≤ fuel)

include h hfuel

theorem readSequence_itemsChars (hne : items ≠ []) (hall : ∀ v ∈ items, v.breaksLine = false)
    (rest : List Char) :
    readSequence (readLiteral fuel) ']' (itemsChars items rest).length (itemsChars items rest) =
      some (items.map Literal.ofValue, rest) := by
  have hblank : isSpace ' ' = true := by decide
  have hclose : ']' ≠ ',' := by decide
  have hend : skipSpace (']' :: rest) = ']' :: rest := skipSpace_of_not_isSpace (by decide) rest
  have hcount := length_le_sequence ' ' (List.cons_ne_nil ']' rest) (items.map literalChars)
  rw [List.length_map] at hcount
  exact readSequence_sequence Literal.ofValue hblank hend hclose hne
    (fun v hv _ hnext => (h v hv).readAs (hall v hv) (hfuel v hv) hnext) hcount rfl

theorem readSequence_itemsChars_eq_none (hsome : ∃ v ∈ items, v.breaksLine = true) (count : Nat)
    (rest : List Char) :
    readSequence (readLiteral fuel) ']' count (itemsChars items rest) = none := by
  have hblank : isSpace ' ' = true := by decide
  have hend : skipSpace (']' :: rest) = ']' :: rest := skipSpace_of_not_isSpace (by decide) rest
  refine Option.eq_none_iff_forall_ne_some.mpr fun read hread => ?_
  have hgood := good_of_readSequence Literal.ofValue (fun v => v.breaksLine = false) hblank hend
    (fun v hv hnone _ hnext => (h v hv).readAs hnone (hfuel v hv) hnext) rfl hread
  rcases hgood with hall | ⟨front, v, back, bad, next, mid, more, hsplit, hbreaks, -, hitem⟩
  · obtain ⟨v, hv, hbreaks⟩ := hsome
    exact absurd hbreaks (by simp [hall v hv])
  -- the first item with a line break in a text of it is not read
  · have hv : v ∈ items := hsplit ▸ List.mem_append_right front List.mem_cons_self
    rw [skipSpace_literalChars, (h v hv).unread (by simpa using hbreaks) fuel (hfuel v hv)] at hitem
    cases hitem

end

theorem readable_list {items : List Value} (h : ∀ v ∈ items, Readable v) :
    Readable (.list items) := by
  have hbreaks : (Value.list items).breaksLine = items.any Value.breaksLine := by
    rw [Value.breaksLine, Value.anyBreaksLine_eq]
  have hvalue : Literal.ofValue (.list items) = .list (items.map Literal.ofValue) := by
    rw [Literal.ofValue, Literal.ofValues_eq]
  have hfuels : ∀ fuel, (literalChars (.list items)).length ≤ fuel →
      ∃ n, fuel = n + 1 ∧ ∀ v ∈ items, (literalChars v).length ≤ n := by
    intro fuel hfuel
    rw [literalChars, List.length_append, List.length_cons, List.length_singleton] at hfuel
    obtain ⟨n, rfl⟩ : ∃ n, fuel = n + 1 := Nat.exists_eq_add_one.mpr (by omega)
    exact ⟨n, rfl, fun v hv => (length_literalChars_le hv).trans (by omega)⟩
  match items, h with
  | [], _ =>
      refine readable_of_atom hbreaks fun fuel rest _ => ?_
      rw [readLiteral_list_nil, hvalue]
      rfl
  | v :: items, h =>
      refine ⟨fun hnone fuel hfuel rest _ => ?_, fun hsome fuel hfuel rest => ?_⟩
      · obtain ⟨fuel, rfl, hitems⟩ := hfuels fuel hfuel
        rw [hbreaks, List.any_eq_false] at hnone
        rw [readLiteral_list_cons, hvalue,
          readSequence_itemsChars h hitems (List.cons_ne_nil v items)
            (fun w hw => Bool.eq_false_iff.mpr (hnone w hw))]
        rfl
      · obtain ⟨fuel, rfl, hitems⟩ := hfuels fuel hfuel
        rw [hbreaks, List.any_eq_true] at hsome
        rw [readLiteral_list_cons, readSequence_itemsChars_eq_none h hitems hsome]
        rfl

mutual

/-- The literal of a value is read to its end if no line breaks in a text of the value. -/
theorem readable (v : Value) : Readable v := by
  cases v with
  | null =>
      exact readable_of_atom rfl fun fuel rest hrest => readLiteral_word (by decide) hrest fuel
  | bool b =>
      refine readable_of_atom rfl fun fuel rest hrest => ?_
      cases b <;> exact readLiteral_word (by decide) hrest fuel
  | int n =>
      refine readable_of_atom rfl fun fuel rest hrest => ?_
      rw [literalChars]
      exact readLiteral_number (isNumber_toString n) (numeral_toString n) hrest fuel
  | float x =>
      refine readable_of_atom rfl fun fuel rest hrest => ?_
      rw [literalChars]
      match x with
      | .nan => exact readLiteral_word (by decide) hrest fuel
      | .infinite negative => cases negative <;> exact readLiteral_word (by decide) hrest fuel
      | .finite negative m e =>
          obtain ⟨h, hnumeral⟩ := isNumber_floatLiteral negative m e
          exact readLiteral_number h hnumeral hrest fuel
  | str s => exact readable_of_quotedChars (literalChars_str s) rfl rfl
  | list items => exact readable_list (readable_items items)
  | object members => exact readable_of_quotedChars (by rw [literalChars]) rfl rfl

theorem readable_items : ∀ items : List Value, ∀ v ∈ items, Readable v
  | [] => fun _ h => absurd h List.not_mem_nil
  | v :: items => List.forall_mem_cons.mpr ⟨readable v, readable_items items⟩

end

/-- The literal of a value is one literal, with the texts of the value, unless a line breaks in one
of them; then it is none. -/
theorem literal?_literalChars (v : Value) :
    literal? (literalChars v) = if v.breaksLine then none else some (.ofValue v) := by
  rw [literal?]
  cases hbreaks : v.breaksLine with
  | true =>
      have hunread := (readable v).unread hbreaks _ (Nat.le_refl _) []
      rw [List.append_nil] at hunread
      rw [hunread]
      rfl
  | false =>
      have hread := (readable v).read hbreaks _ (Nat.le_refl _) [] nofun
      rw [List.append_nil] at hread
      rw [hread]
      rfl

end TypeScript

end Formwork
