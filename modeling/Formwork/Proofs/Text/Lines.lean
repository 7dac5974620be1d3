import Formwork.Text.Lines
import Mathlib.Data.List.Basic

/-!
Lines of a text, and indenting as a walk over its characters. A line break becomes a line feed, and
blanks are put in front of the first character of a line that is no line break. So parts of a text
are moved on their own, as long as each of them begins with a character that is no line break; and a
text is left as it is exactly if no line breaks in it.
-/

namespace Formwork.Text

/-- A text without carriage returns has one kind of line break only. -/
theorem unifyNewlines_of_not_mem {cs : List Char} (h : '\r' ∉ cs) : unifyNewlines cs = cs := by
  induction cs with
  | nil => rw [unifyNewlines]
  | cons c cs ih =>
      rw [List.mem_cons, not_or] at h
      have hother : c ≠ '\r' := Ne.symm h.1
      rw [unifyNewlines, if_neg hother, ih h.2]
      exact fun rest heq _ => hother heq

def blanks (n : Nat) : List Char := List.replicate n ' '

/-- The blanks that are due, where `fresh` says that a line begins. -/
def due (n : Nat) (fresh : Bool) : List Char := if fresh then blanks n else []

/-- The characters of a text moved right by `n` blanks. At the end of the text the blanks that are
due are for what comes next. -/
def shiftFrom (n : Nat) : (fresh : Bool) → List Char → List Char
  | fresh, [] => due n fresh
  | _, '\r' :: '\n' :: cs => '\n' :: shiftFrom n true cs
  | fresh, c :: cs =>
    if isLineBreak c then '\n' :: shiftFrom n true cs else due n fresh ++ c :: shiftFrom n false cs

variable {n : Nat}

/-! ### Characters -/

theorem shiftFrom_cons {c : Char} (hc : isLineBreak c = false) (fresh : Bool) (cs : List Char) :
    shiftFrom n fresh (c :: cs) = due n fresh ++ c :: shiftFrom n false cs := by
  have hreturn : c ≠ '\r' := by
    rintro rfl
    exact absurd hc (by decide)
  rw [shiftFrom]
  · rw [hc]
    rfl
  · exact fun _ h _ => hreturn h

theorem shiftFrom_newline (fresh : Bool) (cs : List Char) :
    shiftFrom n fresh ('\n' :: cs) = '\n' :: shiftFrom n true cs := by
  rw [shiftFrom]
  · rfl
  · simp

theorem shiftFrom_append {c : Char} (hc : isLineBreak c = false) (fresh : Bool)
    (cs ds : List Char) :
    shiftFrom n fresh (cs ++ c :: ds) = shiftFrom n fresh cs ++ c :: shiftFrom n false ds := by
  fun_induction shiftFrom n fresh cs with
  | case1 fresh => rw [List.nil_append, shiftFrom_cons hc]
  | case2 fresh cs ih => rw [List.cons_append, List.cons_append, shiftFrom, ih, List.cons_append]
  | case3 fresh b cs hlone hbreak ih =>
      -- a carriage return at the end is followed by no line feed
      have hnext : ∀ es, b = '\r' → cs ++ c :: ds = '\n' :: es → False := by
        intro es hb heq
        cases cs with
        | nil =>
            rw [(List.cons.inj heq).1] at hc
            exact absurd hc (by decide)
        | cons d cs => exact hlone cs hb (congrArg (· :: cs) (List.cons.inj heq).1)
      rw [List.cons_append, shiftFrom.eq_3 _ _ _ _ hnext, if_pos hbreak, ih, List.cons_append]
  | case4 fresh b cs hlone hbreak ih =>
      rw [List.cons_append, shiftFrom_cons (Bool.eq_false_iff.mpr hbreak), ih, List.append_assoc,
        List.cons_append]

/-- Moving twice is moving once by more. -/
theorem shiftFrom_shiftFrom (m : Nat) (fresh : Bool) (cs : List Char) :
    shiftFrom m fresh (shiftFrom n fresh cs) = shiftFrom (m + n) fresh cs := by
  have hblank : isLineBreak ' ' = false := by decide
  have hblanks : ∀ k, shiftFrom m false (blanks k) = blanks k := by
    intro k
    induction k with
    | zero => rfl
    | succ k ih => exact (shiftFrom_cons hblank false (blanks k)).trans (congrArg (' ' :: ·) ih)
  have hdue : ∀ fresh, shiftFrom m fresh (due n fresh) = due (m + n) fresh := by
    intro fresh
    cases fresh with
    | false => rfl
    | true =>
        cases n with
        | zero => rfl
        | succ k =>
            refine (shiftFrom_cons hblank true (blanks k)).trans ?_
            rw [hblanks]
            exact (List.replicate_add m (k + 1) ' ').symm
  fun_induction shiftFrom n fresh cs with
  | case1 fresh => exact hdue fresh
  | case2 fresh cs ih => rw [shiftFrom_newline, ih, shiftFrom]
  | case3 fresh b cs hlone hbreak ih =>
      rw [shiftFrom_newline, ih, shiftFrom.eq_3 _ _ _ _ hlone, if_pos hbreak]
  | case4 fresh b cs hlone hbreak ih =>
      have hb := Bool.eq_false_iff.mpr hbreak
      rw [shiftFrom_append hb, hdue, ih, shiftFrom_cons hb]

def inkOf (cs : List Char) : Nat := cs.countP fun c => !isLineBreak c

theorem inkOf_due (fresh : Bool) : inkOf (due n fresh) = if fresh then n else 0 := by
  have hblank : isLineBreak ' ' = false := by decide
  cases fresh with
  | false => rfl
  | true => simp [inkOf, due, blanks, List.countP_replicate, hblank]

theorem inkOf_cons_break {c : Char} (hc : isLineBreak c = true) (cs : List Char) :
    inkOf (c :: cs) = inkOf cs :=
  List.countP_cons_of_neg (by simp [hc])

theorem inkOf_cons {c : Char} (hc : isLineBreak c = false) (cs : List Char) :
    inkOf (c :: cs) = inkOf cs + 1 :=
  List.countP_cons_of_pos (by simp [hc])

theorem inkOf_shiftFrom (fresh : Bool) (cs : List Char) :
    inkOf cs + (if fresh || cs.any isLineBreak then n else 0) ≤ inkOf (shiftFrom n fresh cs) := by
  have hnewline : isLineBreak '\n' = true := by decide
  have hreturn : isLineBreak '\r' = true := by decide
  fun_induction shiftFrom n fresh cs with
  | case1 fresh =>
      rw [inkOf_due]
      simp [inkOf]
  | case2 fresh cs ih =>
      rw [inkOf_cons_break hreturn, inkOf_cons_break hnewline, inkOf_cons_break hnewline]
      simpa [hreturn] using ih
  | case3 fresh b cs hlone hbreak ih =>
      rw [inkOf_cons_break hbreak, inkOf_cons_break hnewline]
      simpa [hbreak] using ih
  | case4 fresh b cs hlone hbreak ih =>
      have hb := Bool.eq_false_iff.mpr hbreak
      have happend : inkOf (due n fresh ++ b :: shiftFrom n false cs) =
          inkOf (due n fresh) + inkOf (b :: shiftFrom n false cs) := List.countP_append
      rw [happend, inkOf_due, inkOf_cons hb, inkOf_cons hb, List.any_cons, hb, Bool.false_or]
      rw [Bool.false_or] at ih
      generalize cs.any isLineBreak = breaks at ih ⊢
      cases fresh <;> cases breaks <;> simp only [Bool.true_or, Bool.false_or, if_true,
        Bool.false_eq_true, if_false] at ih ⊢ <;> omega

theorem shiftFrom_eq_self {cs : List Char} (h : cs.any isLineBreak = false) :
    shiftFrom n false cs = cs := by
  induction cs with
  | nil => rfl
  | cons c cs ih =>
      obtain ⟨hc, hcs⟩ := Bool.or_eq_false_iff.mp (List.any_cons ▸ h)
      rw [shiftFrom_cons hc, ih hcs]
      rfl

/-- A text is left as it is exactly if no line breaks in it. -/
theorem shiftFrom_eq_self_iff (hn : 0 < n) (cs : List Char) :
    shiftFrom n false cs = cs ↔ cs.any isLineBreak = false := by
  refine ⟨fun h => Bool.eq_false_iff.mpr fun hbreaks => ?_, shiftFrom_eq_self⟩
  have hink := inkOf_shiftFrom (n := n) false cs
  rw [h, hbreaks, Bool.or_true, if_pos rfl] at hink
  omega

/-! ### Lines -/

theorem linesFrom_ne_nil {line cs : List Char} (h : line ≠ [] ∨ cs ≠ []) :
    linesFrom line cs ≠ [] := by
  fun_induction linesFrom line cs with
  | case1 line hempty => exact absurd (by simpa using hempty) (h.resolve_right (by simp))
  | case2 line hfilled => simp
  | case3 => simp
  | case4 => simp
  | case5 line c rest _ _ ih => exact ih (.inl (by simp))

theorem exists_lastLine? {s : String} (h : s ≠ "") : ∃ line, lastLine? s = some line := by
  have hchars : s.toList ≠ [] := by simpa using h
  have hlines : lines s ≠ [] := by
    rw [lines, ne_eq, List.map_eq_nil_iff]
    exact linesFrom_ne_nil (.inr hchars)
  exact ⟨_, List.getLast?_eq_some_getLast hlines⟩

/-- Whether a text is empty or ends with a character that is no line break. -/
def EndsOpen (cs : List Char) : Prop := ∀ c ∈ cs.getLast?, isLineBreak c = false

theorem EndsOpen.tail {c d : Char} {cs : List Char} (h : EndsOpen (c :: d :: cs)) :
    EndsOpen (d :: cs) := by
  rwa [EndsOpen, List.getLast?_cons_cons] at h

def movedLine (n : Nat) (line : List Char) : List Char :=
  if line.isEmpty then line else blanks n ++ line

/-- The lines behind the first one, each with the line feed in front of it. -/
def movedLines (n : Nat) (rest : List (List Char)) : List Char :=
  rest.flatMap fun line => '\n' :: movedLine n line

theorem linesFrom_break {line cs : List Char} {b : Char} (hb : isLineBreak b = true)
    (hlone : ∀ es, b = '\r' → cs = '\n' :: es → False) :
    linesFrom line (b :: cs) = line.reverse :: linesFrom [] cs := by
  rw [linesFrom.eq_3 _ _ _ hlone, if_pos hb]

theorem linesFrom_cons {line cs : List Char} {c : Char} (hc : isLineBreak c = false) :
    linesFrom line (c :: cs) = linesFrom (c :: line) cs := by
  have hreturn : c ≠ '\r' := by
    rintro rfl
    exact absurd hc (by decide)
  rw [linesFrom.eq_3 _ _ _ fun _ h _ => hreturn h, hc]
  rfl

/-- The walk puts in front of the lines of a text what indenting puts there. -/
theorem linesFrom_newline (n : Nat) (line : List Char) {cs : List Char} (h : EndsOpen cs) :
    ∃ more rest, linesFrom line (cs ++ ['\n']) = (line.reverse ++ more) :: rest ∧
      more ++ movedLines n rest = shiftFrom n false cs ∧
      (cs ≠ [] → movedLine n more ++ movedLines n rest = shiftFrom n true cs) := by
  have hnewline : isLineBreak '\n' = true := by decide
  have hend : ∀ line, linesFrom line ['\n'] = [line.reverse] := fun line =>
    linesFrom_break hnewline (by simp)
  have hempty : movedLine n [] = [] := rfl
  fun_induction linesFrom line cs with
  | case1 line | case2 line => exact ⟨[], [], by simp [hend], rfl, fun hne => absurd rfl hne⟩
  | case3 line cs ih =>
      cases cs with
      | nil => exact absurd (h '\n' rfl) (by decide)
      | cons c cs =>
          obtain ⟨more, rest, hlines, -, hmoved⟩ := ih h.tail.tail
          refine ⟨[], more :: rest, ?_, ?_, fun _ => ?_⟩
          · rw [List.cons_append, List.cons_append, linesFrom, hlines, List.append_nil]
            rfl
          all_goals
            rw [shiftFrom, ← hmoved (List.cons_ne_nil c cs)]
            rfl
  | case4 line b cs hlone hbreak ih =>
      cases cs with
      | nil => exact absurd hbreak (by simp [h b rfl])
      | cons c cs =>
          obtain ⟨more, rest, hlines, -, hmoved⟩ := ih h.tail
          have hnext : ∀ es, b = '\r' → c :: cs ++ ['\n'] = '\n' :: es → False := fun es hb heq =>
            hlone cs hb (congrArg (· :: cs) (List.cons.inj heq).1)
          refine ⟨[], more :: rest, ?_, ?_, fun _ => ?_⟩
          · rw [List.cons_append, linesFrom_break hbreak hnext, hlines, List.append_nil]
            rfl
          all_goals
            rw [shiftFrom.eq_3 _ _ _ _ hlone, if_pos hbreak, ← hmoved (List.cons_ne_nil c cs)]
            rfl
  | case5 line c cs hlone hbreak ih =>
      have hc := Bool.eq_false_iff.mpr hbreak
      have hrest : EndsOpen cs := by
        cases cs with
        | nil => exact nofun
        | cons d cs => exact h.tail
      obtain ⟨more, rest, hlines, hmore, -⟩ := ih hrest
      refine ⟨c :: more, rest, ?_, ?_, fun _ => ?_⟩
      · rw [List.cons_append, linesFrom_cons hc, hlines, List.reverse_cons, List.append_assoc]
        rfl
      · rw [shiftFrom_cons hc, ← hmore]
        rfl
      · rw [shiftFrom_cons hc, ← hmore]
        simp [movedLine, due]

theorem intercalate_newline (first : List Char) (rest : List (List Char)) :
    ['\n'].intercalate (first :: rest) = first ++ rest.flatMap ('\n' :: ·) := by
  induction rest generalizing first with
  | nil => simp
  | cons next rest ih =>
      rw [List.intercalate_cons_cons, ih]
      simp

/-! ### Texts -/

/-- A text moved right by `n` blanks, apart from its first line. -/
def shift (n : Nat) (s : String) : String := String.ofList (shiftFrom n false s.toList)

/-- Indenting a text that ends with a character that is no line break moves its characters. -/
theorem indent_eq_shift (n : Nat) {s : String} (h : EndsOpen s.toList) :
    indent n s = shift n s := by
  obtain ⟨more, rest, hlines, hmore, -⟩ := linesFrom_newline n [] h
  have htexts : lines (s ++ "\n") = (more :: rest).map String.ofList := by
    rw [lines, String.toList_append]
    exact congrArg (List.map String.ofList) hlines
  have hmoved : ∀ line : List Char,
      (if (String.ofList line).isEmpty then String.ofList line
        else String.ofList (List.replicate n ' ') ++ String.ofList line).toList =
        movedLine n line := fun line => by
    cases line with
    | nil => rfl
    | cons c line => simp [movedLine, blanks]
  rw [indent, htexts, shift, ← hmore, ← String.toList_inj, String.toList_ofList]
  rw [List.map_cons]
  have hnewline : "\n".toList = ['\n'] := rfl
  rw [String.toList_intercalate, hnewline, List.map_cons, List.map_map, intercalate_newline,
    String.toList_ofList, List.flatMap_map, List.flatMap_map, movedLines]
  exact congrArg (more ++ ·) (List.flatMap_congr fun line _ => congrArg ('\n' :: ·) (hmoved line))

def margin (n : Nat) : String := String.ofList (blanks n)

def BeginsInLine (s : String) : Prop := s.toList.head?.any (!isLineBreak ·) = true

def EndsInLine (s : String) : Prop := s.toList.getLast?.any (!isLineBreak ·) = true

instance (s : String) : Decidable (BeginsInLine s) := inferInstanceAs (Decidable (_ = true))

instance (s : String) : Decidable (EndsInLine s) := inferInstanceAs (Decidable (_ = true))

theorem begins_iff {s : String} :
    BeginsInLine s ↔ ∃ c cs, s.toList = c :: cs ∧ isLineBreak c = false := by
  rw [BeginsInLine]
  cases s.toList with
  | nil => simp
  | cons c cs => simp [and_comm]

theorem ends_iff {s : String} :
    EndsInLine s ↔ ∃ cs c, s.toList = cs ++ [c] ∧ isLineBreak c = false := by
  rw [EndsInLine]
  rcases List.eq_nil_or_concat s.toList with h | ⟨cs, c, h⟩
  · simp [h]
  · rw [h, List.concat_eq_append, List.getLast?_concat]
    constructor
    · intro hc
      exact ⟨cs, c, rfl, by simpa using hc⟩
    · rintro ⟨ds, d, heq, hd⟩
      obtain ⟨-, rfl⟩ := List.append_singleton_inj.mp heq
      simpa using hd

theorem BeginsInLine.append {s : String} (h : BeginsInLine s) (t : String) :
    BeginsInLine (s ++ t) := by
  obtain ⟨c, cs, hs, hc⟩ := begins_iff.mp h
  exact begins_iff.mpr ⟨c, cs ++ t.toList, by rw [String.toList_append, hs]; rfl, hc⟩

theorem EndsInLine.append {t : String} (h : EndsInLine t) (s : String) : EndsInLine (s ++ t) := by
  obtain ⟨cs, c, ht, hc⟩ := ends_iff.mp h
  exact ends_iff.mpr ⟨s.toList ++ cs, c, by rw [String.toList_append, ht, List.append_assoc], hc⟩

theorem EndsInLine.endsOpen {s : String} (h : EndsInLine s) : EndsOpen s.toList := by
  obtain ⟨cs, c, hs, hc⟩ := ends_iff.mp h
  intro d hd
  rw [hs, List.getLast?_concat, Option.mem_some_iff] at hd
  rwa [← hd]

theorem shift_append (s : String) {t : String} (ht : BeginsInLine t) :
    shift n (s ++ t) = shift n s ++ shift n t := by
  obtain ⟨c, cs, htext, hc⟩ := begins_iff.mp ht
  rw [← String.toList_inj]
  simp only [shift, String.toList_append, String.toList_ofList, htext]
  rw [shiftFrom_append hc, shiftFrom_cons hc]
  rfl

theorem shift_append_of_ends {s : String} (hs : EndsInLine s) (t : String) :
    shift n (s ++ t) = shift n s ++ shift n t := by
  obtain ⟨ds, d, hstext, hd⟩ := ends_iff.mp hs
  rw [← String.toList_inj]
  simp only [shift, String.toList_append, String.toList_ofList, hstext, List.append_assoc,
    List.singleton_append]
  rw [shiftFrom_append hd, shiftFrom_append hd, List.append_assoc]
  rfl

theorem shift_line {s t : String} (hs : EndsInLine s) (ht : BeginsInLine t) :
    shift n (s ++ "\n" ++ t) = shift n s ++ "\n" ++ (margin n ++ shift n t) := by
  obtain ⟨c, cs, htext, hc⟩ := begins_iff.mp ht
  obtain ⟨ds, d, hstext, hd⟩ := ends_iff.mp hs
  have hnewline : "\n".toList = ['\n'] := rfl
  rw [← String.toList_inj]
  simp only [shift, margin, String.toList_append, String.toList_ofList, htext, hstext, hnewline]
  have hchars : ds ++ [d] ++ ['\n'] ++ c :: cs = ds ++ d :: '\n' :: c :: cs := by simp
  rw [hchars, shiftFrom_append hd, shiftFrom_append hd, shiftFrom_newline, shiftFrom_cons hc,
    shiftFrom_cons hc]
  simp [due, shiftFrom]

theorem shift_shift (m : Nat) (s : String) : shift m (shift n s) = shift (m + n) s := by
  rw [shift, shift, String.toList_ofList, shiftFrom_shiftFrom, shift]

/-- A text is carried as it is exactly if no line breaks in it. -/
theorem shift_eq_self_iff (hn : 0 < n) (s : String) :
    shift n s = s ↔ s.toList.any isLineBreak = false := by
  rw [← String.toList_inj, shift, String.toList_ofList, shiftFrom_eq_self_iff hn]

theorem shift_eq_self {s : String} (h : s.toList.any isLineBreak = false) : shift n s = s := by
  rw [shift, shiftFrom_eq_self h, String.ofList_toList]

theorem BeginsInLine.shift {s : String} (h : BeginsInLine s) : BeginsInLine (shift n s) := by
  obtain ⟨c, cs, hs, hc⟩ := begins_iff.mp h
  refine begins_iff.mpr ⟨c, shiftFrom n false cs, ?_, hc⟩
  rw [Text.shift, String.toList_ofList, hs, shiftFrom_cons hc]
  rfl

theorem EndsInLine.shift {s : String} (h : EndsInLine s) : EndsInLine (shift n s) := by
  obtain ⟨cs, c, hs, hc⟩ := ends_iff.mp h
  refine ends_iff.mpr ⟨shiftFrom n false cs, c, ?_, hc⟩
  rw [Text.shift, String.toList_ofList, hs, shiftFrom_append hc]
  rfl

end Formwork.Text
