import Formwork.TypeScript.Literal
import Mathlib.Data.List.Basic

/-!
Reading of literals. A quoted literal is read up to the first quote that is not behind a backslash,
and what is read is the text that was written, whatever characters the text has. A literal of any
kind is an item: it closes every quote and every bracket that it opens, and has no comma and no
closing bracket outside of them. The item at the front of a text is therefore found without knowing
what follows it, so that items in a row can be told apart.
-/

namespace Formwork.TypeScript

/-! ### Quoted literals -/

/-- The text of a literal whose opening quote is behind the reader, and what follows the closing
quote. A backslash lets the next character through as it is. -/
def unquote : List Char → Option (List Char × List Char)
  | [] => none
  | '\\' :: c :: cs => (unquote cs).map fun read => (c :: read.1, read.2)
  | c :: cs =>
    if c = '\'' then some ([], cs) else (unquote cs).map fun read => (c :: read.1, read.2)

theorem unquote_escape (cs rest : List Char) :
    unquote (cs.flatMap escapeChar ++ '\'' :: rest) = some (cs, rest) := by
  induction cs with
  | nil => simp [unquote]
  | cons c cs ih =>
      rw [List.flatMap_cons, List.append_assoc]
      by_cases hc : c = '\\' ∨ c = '\''
      · rw [escapeChar, if_pos hc, List.cons_append, List.singleton_append, unquote, ih]
        rfl
      · obtain ⟨hbackslash, hquote⟩ := not_or.mp hc
        rw [escapeChar, if_neg hc, List.singleton_append, unquote.eq_3 _ _ (by simp [hbackslash]),
          if_neg hquote, ih]
        rfl

theorem quotedChars_append_inj {cs cs' rest rest' : List Char}
    (h : quotedChars cs ++ rest = quotedChars cs' ++ rest') : cs = cs' ∧ rest = rest' := by
  have hread : ∀ cs rest, unquote (quotedChars cs ++ rest).tail = some (cs, rest) :=
    fun cs rest => by simpa [quotedChars] using unquote_escape cs rest
  have hsame := hread cs rest
  rw [h, hread cs' rest'] at hsame
  cases hsame
  exact ⟨rfl, rfl⟩

/-! ### Items -/

/-- Where a reader is: in code, in a quoted text, or behind a backslash of one; and the number of
brackets that are open. -/
inductive Mode
  | code (depth : Nat)
  | quoted (depth : Nat)
  | escaped (depth : Nat)
  deriving DecidableEq, Repr

/-- Where a reader is behind a character. An item has ended where a comma or a closing bracket
stands outside of quotes and brackets. -/
def Mode.next : Mode → Char → Option Mode
  | .code d, c =>
    if c = '\'' then some (.quoted d)
    else if c = '[' then some (.code (d + 1))
    else if c = ',' then if d = 0 then none else some (.code d)
    else if c = ']' then if d = 0 then none else some (.code (d - 1))
    else some (.code d)
  | .quoted d, c =>
    some (if c = '\\' then .escaped d else if c = '\'' then .code d else .quoted d)
  | .escaped d, _ => some (.quoted d)

/-- Where a reader is behind a text, if no item has ended on the way. -/
def Mode.run : Mode → List Char → Option Mode
  | m, [] => some m
  | m, c :: cs => (m.next c).bind fun m' => m'.run cs

def itemFrom : Mode → List Char → List Char
  | _, [] => []
  | m, c :: cs =>
    match m.next c with
    | some m' => c :: itemFrom m' cs
    | none => []

def item (cs : List Char) : List Char := itemFrom (.code 0) cs

theorem Mode.run_append (m : Mode) (cs ds : List Char) :
    m.run (cs ++ ds) = (m.run cs).bind fun m' => m'.run ds := by
  induction cs generalizing m with
  | nil => rfl
  | cons c cs ih =>
      rw [List.cons_append, Mode.run, Mode.run, Option.bind_assoc]
      simp only [ih]

/-- A text that closes every quote and every bracket that it opens, and has no comma outside of
them. -/
def Whole (cs : List Char) : Prop := ∀ d, (Mode.code d).run cs = some (.code d)

/-- A text that is whole between brackets. It may have commas of its own. -/
def Enclosed (cs : List Char) : Prop := ∀ d, (Mode.code (d + 1)).run cs = some (.code (d + 1))

theorem Whole.enclosed {cs : List Char} (h : Whole cs) : Enclosed cs := fun d => h (d + 1)

theorem whole_nil : Whole [] := fun _ => rfl

theorem Whole.append {cs ds : List Char} (hcs : Whole cs) (hds : Whole ds) : Whole (cs ++ ds) := by
  intro d
  rw [Mode.run_append, hcs d]
  exact hds d

theorem Enclosed.append {cs ds : List Char} (hcs : Enclosed cs) (hds : Enclosed ds) :
    Enclosed (cs ++ ds) := by
  intro d
  rw [Mode.run_append, hcs d]
  exact hds d

theorem enclosed_separator : Enclosed [',', ' '] := fun _ => rfl

theorem Enclosed.whole {cs : List Char} (h : Enclosed cs) : Whole ('[' :: cs ++ [']']) := by
  intro d
  have hopen : (Mode.code d).next '[' = some (.code (d + 1)) := rfl
  have hclose : (Mode.code (d + 1)).run [']'] = some (.code d) := rfl
  rw [List.cons_append, Mode.run, hopen, Option.bind_some, Mode.run_append, h d, Option.bind_some,
    hclose]

def isPlain (c : Char) : Bool := c ≠ '\'' && c ≠ '[' && c ≠ ',' && c ≠ ']'

theorem whole_of_plain {cs : List Char} (h : cs.all isPlain = true) : Whole cs := by
  intro d
  induction cs with
  | nil => rfl
  | cons c cs ih =>
      rw [List.all_cons, Bool.and_eq_true] at h
      have hnext : (Mode.code d).next c = some (.code d) := by
        have hc := h.1
        simp only [isPlain, Bool.and_eq_true, decide_eq_true_eq, ne_eq] at hc
        obtain ⟨⟨⟨hquote, hopen⟩, hcomma⟩, hclose⟩ := hc
        rw [Mode.next, if_neg hquote, if_neg hopen, if_neg hcomma, if_neg hclose]
      rw [Mode.run, hnext, Option.bind_some, ih h.2]

theorem run_escape (d : Nat) (cs : List Char) :
    (Mode.quoted d).run (cs.flatMap escapeChar) = some (.quoted d) := by
  induction cs with
  | nil => rfl
  | cons c cs ih =>
      have hchar : (Mode.quoted d).run (escapeChar c) = some (.quoted d) := by
        rw [escapeChar]
        split
        case isTrue => rfl
        case isFalse hc =>
          obtain ⟨hbackslash, hquote⟩ := not_or.mp hc
          simp [Mode.run, Mode.next, hbackslash, hquote]
      rw [List.flatMap_cons, Mode.run_append, hchar, Option.bind_some, ih]

theorem whole_quotedChars (cs : List Char) : Whole (quotedChars cs) := by
  intro d
  have hopen : (Mode.code d).next '\'' = some (.quoted d) := rfl
  have hclose : (Mode.quoted d).run ['\''] = some (.code d) := rfl
  rw [quotedChars, List.cons_append, Mode.run, hopen, Option.bind_some, Mode.run_append,
    run_escape, Option.bind_some, hclose]

/-! ### Telling items apart -/

def endsItem (c : Char) : Bool := c = ',' || c = ']'

theorem itemFrom_append {m : Mode} {cs : List Char} (h : m.run cs = some (.code 0)) {c : Char}
    (hc : endsItem c = true) (rest : List Char) : itemFrom m (cs ++ c :: rest) = cs := by
  induction cs generalizing m with
  | nil =>
      cases h
      have hend : (Mode.code 0).next c = none := by
        rcases (by simpa [endsItem] using hc : c = ',' ∨ c = ']') with rfl | rfl <;> rfl
      rw [List.nil_append, itemFrom, hend]
  | cons a cs ih =>
      obtain ⟨m', hnext, hrun⟩ := Option.bind_eq_some_iff.mp h
      rw [List.cons_append, itemFrom, hnext]
      simp only [ih hrun]

theorem Whole.item_append {cs : List Char} (h : Whole cs) {c : Char} (hc : endsItem c = true)
    (rest : List Char) : item (cs ++ c :: rest) = cs :=
  itemFrom_append (h 0) hc rest

theorem Whole.append_inj {cs cs' rest rest' : List Char} (h : Whole cs) (h' : Whole cs')
    {c c' : Char} (hc : endsItem c = true) (hc' : endsItem c' = true)
    (heq : cs ++ c :: rest = cs' ++ c' :: rest') : cs = cs' ∧ c = c' ∧ rest = rest' := by
  have hitem : cs = cs' := by
    rw [← h.item_append hc rest, heq, h'.item_append hc' rest']
  subst hitem
  obtain ⟨hc, hrest⟩ := List.cons.inj (List.append_cancel_left heq)
  exact ⟨rfl, hc, hrest⟩

def row : List (List Char) → List Char → List Char
  | [], rest => ']' :: rest
  | [cs], rest => cs ++ ']' :: rest
  | cs :: items, rest => cs ++ ',' :: ' ' :: row items rest

theorem intercalate_append_bracket (items : List (List Char)) (rest : List Char) :
    [',', ' '].intercalate items ++ ']' :: rest = row items rest := by
  induction items with
  | nil => rfl
  | cons cs items ih =>
      cases items with
      | nil => simp [row]
      | cons ds items =>
          rw [List.intercalate_cons_cons, row, ← ih]
          · simp
          · simp

/-- The first item of a row ends at a comma or at the bracket. -/
theorem exists_row_cons (cs : List Char) (items : List (List Char)) (rest : List Char) :
    ∃ c more, endsItem c = true ∧ row (cs :: items) rest = cs ++ c :: more ∧
      ((c = ']' ∧ items = [] ∧ more = rest) ∨
        (c = ',' ∧ items ≠ [] ∧ more = ' ' :: row items rest)) := by
  cases items with
  | nil => exact ⟨']', rest, rfl, rfl, .inl ⟨rfl, rfl, rfl⟩⟩
  | cons ds items =>
      exact ⟨',', ' ' :: row (ds :: items) rest, rfl, by rw [row]; simp,
        .inr ⟨rfl, List.cons_ne_nil ds items, rfl⟩⟩

theorem row_cons_ne {cs : List Char} (h : Whole cs) (hne : cs ≠ []) (items : List (List Char))
    (rest rest' : List Char) : row (cs :: items) rest ≠ row [] rest' := by
  intro heq
  obtain ⟨c, more, hc, hrow, -⟩ := exists_row_cons cs items rest
  have hitem := h.item_append hc more
  rw [← hrow, heq] at hitem
  exact hne hitem.symm

/-- The items of a row, each of them with a character at least, are told apart. -/
theorem row_inj {items items' : List (List Char)} {rest rest' : List Char}
    (h : ∀ cs ∈ items, Whole cs ∧ cs ≠ []) (h' : ∀ cs ∈ items', Whole cs ∧ cs ≠ [])
    (heq : row items rest = row items' rest') : items = items' ∧ rest = rest' := by
  induction items generalizing items' with
  | nil =>
      cases items' with
      | nil => exact ⟨rfl, (List.cons.inj heq).2⟩
      | cons cs' items' =>
          obtain ⟨hwhole, hne⟩ := h' cs' List.mem_cons_self
          exact absurd heq.symm (row_cons_ne hwhole hne items' rest' rest)
  | cons cs items ih =>
      obtain ⟨hwhole, hne⟩ := h cs List.mem_cons_self
      cases items' with
      | nil => exact absurd heq (row_cons_ne hwhole hne items rest rest')
      | cons cs' items' =>
          obtain ⟨hwhole', -⟩ := h' cs' List.mem_cons_self
          obtain ⟨c, more, hc, hrow, hend⟩ := exists_row_cons cs items rest
          obtain ⟨c', more', hc', hrow', hend'⟩ := exists_row_cons cs' items' rest'
          rw [hrow, hrow'] at heq
          obtain ⟨rfl, rfl, rfl⟩ := hwhole.append_inj hwhole' hc hc' heq
          -- the character behind the first item tells whether it is the last one
          rcases hend with ⟨rfl, rfl, rfl⟩ | ⟨rfl, -, hmore⟩
          · rcases hend' with ⟨-, rfl, rfl⟩ | ⟨hcomma, -⟩
            · exact ⟨rfl, rfl⟩
            · exact absurd hcomma (by decide)
          · rcases hend' with ⟨hbracket, -⟩ | ⟨-, -, hmore'⟩
            · exact absurd hbracket (by decide)
            · obtain ⟨rfl, hrest⟩ := ih (fun ds hds => h ds (List.mem_cons_of_mem cs hds))
                (fun ds hds => h' ds (List.mem_cons_of_mem cs hds))
                (List.cons.inj (hmore.symm.trans hmore')).2
              exact ⟨rfl, hrest⟩

end Formwork.TypeScript
