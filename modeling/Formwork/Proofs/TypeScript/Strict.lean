import Formwork.Proofs.TypeScript.Reading
import Mathlib.Data.List.Forall2

/-!
Literals as a compiler reads them. A quoted literal stands on one line: a line break inside of it is
an error, unless a backslash stands for it. The writer escapes quotes and backslashes and nothing
else, so what it writes is read back exactly if there is no line break in the text.
-/

namespace Formwork.TypeScript

/-- A character that ends a line, which a quoted literal may not hold as it is. -/
def breaksLine (c : Char) : Bool := c = '\n' || c = '\r'

/-- A character that makes a longer escape behind a backslash, or none that stands for a character:
the digits of a code, or a line that goes on. -/
def isLongEscape (c : Char) : Bool :=
  c = 'x' || c = 'u' || c.isDigit || breaksLine c || c = '\u2028' || c = '\u2029'

/-- What a backslash and one character stand for. Longer escapes are not read. -/
def escaped? : Char → Option Char
  | 'b' => some '\x08'
  | 'f' => some '\x0c'
  | 'n' => some '\n'
  | 'r' => some '\r'
  | 't' => some '\t'
  | 'v' => some '\x0b'
  | c => if isLongEscape c then none else some c

/-- The text of a literal whose opening quote is behind the reader, and what follows the closing
quote. -/
def readQuoted : List Char → Option (List Char × List Char)
  | [] => none
  | '\\' :: c :: cs =>
    (escaped? c).bind fun d => (readQuoted cs).map fun read => (d :: read.1, read.2)
  | c :: cs =>
    if c = '\'' then some ([], cs)
    else if breaksLine c then none
    else (readQuoted cs).map fun read => (c :: read.1, read.2)

theorem readQuoted_append {cs text left : List Char} (h : readQuoted cs = some (text, left))
    (rest : List Char) : readQuoted (cs ++ rest) = some (text, left ++ rest) := by
  fun_induction readQuoted cs generalizing text with
  | case1 => exact absurd h (by simp)
  | case2 c cs ih =>
      obtain ⟨d, hd, hread⟩ := Option.bind_eq_some_iff.mp h
      obtain ⟨⟨text', left'⟩, hread', heq⟩ := Option.map_eq_some_iff.mp hread
      cases heq
      rw [List.cons_append, List.cons_append, readQuoted, hd, Option.bind_some, ih hread']
      rfl
  | case3 cs hlone =>
      cases h
      rw [List.cons_append, readQuoted.eq_3 _ _ (by simp), if_pos rfl]
  | case4 c cs hlone hquote hbreak => exact absurd h (by simp)
  | case5 c cs hlone hquote hbreak ih =>
      obtain ⟨⟨text', left'⟩, hread, heq⟩ := Option.map_eq_some_iff.mp h
      cases heq
      -- a backslash at the end escapes nothing, and then nothing is read
      have hbackslash : ∀ d ds, c = '\\' → cs ++ rest = d :: ds → False := by
        intro d ds hc _
        cases cs with
        | nil => exact absurd hread (by simp [readQuoted])
        | cons e es => exact hlone e es hc rfl
      rw [List.cons_append, readQuoted.eq_3 _ _ hbackslash, if_neg hquote, if_neg hbreak, ih hread]
      rfl

/-- What is written is read back, unless a line breaks in it. -/
theorem readQuoted_escape (cs rest : List Char) :
    readQuoted (cs.flatMap escapeChar ++ '\'' :: rest) =
      if cs.any breaksLine then none else some (cs, rest) := by
  induction cs with
  | nil => simp [readQuoted]
  | cons c cs ih =>
      rw [List.flatMap_cons, List.append_assoc, List.any_cons]
      by_cases hc : c = '\\' ∨ c = '\''
      · have hescaped : escaped? c = some c := by rcases hc with rfl | rfl <;> decide
        have hbreak : breaksLine c = false := by rcases hc with rfl | rfl <;> decide
        rw [escapeChar, if_pos hc, List.cons_append, List.singleton_append, readQuoted, ih,
          hescaped, hbreak, Option.bind_some, Bool.false_or]
        split <;> rfl
      · obtain ⟨hbackslash, hquote⟩ := not_or.mp hc
        rw [escapeChar, if_neg hc, List.singleton_append,
          readQuoted.eq_3 _ _ (by simp [hbackslash]), if_neg hquote, ih]
        cases breaksLine c with
        | true => rfl
        | false =>
            rw [Bool.false_or, if_neg Bool.false_ne_true]
            split <;> rfl

/-! ### Quoted literals -/

def Quotes : List Char → List Char → Prop
  | [], _ => False
  | c :: cs, text => c = '\'' ∧ readQuoted cs = some (text, [])

theorem quotes_quotedChars_iff {cs text : List Char} :
    Quotes (quotedChars cs) text ↔ text = cs ∧ cs.any breaksLine = false := by
  have hread := readQuoted_escape cs []
  rw [quotedChars, List.cons_append, Quotes, hread]
  cases cs.any breaksLine <;> simp [eq_comm]

theorem Quotes.exists_read {cs text : List Char} (h : Quotes cs text) (rest : List Char) :
    ∃ body, cs = '\'' :: body ∧ readQuoted (body ++ rest) = some (text, rest) := by
  cases cs with
  | nil => exact h.elim
  | cons c body =>
      obtain ⟨rfl, hread⟩ := h
      exact ⟨body, rfl, readQuoted_append hread rest⟩

theorem not_breaksLine_of_row {literals texts : List (List Char)}
    (h : List.Forall₂ Quotes literals texts) {rest : List Char}
    (hrow : row literals rest = row (texts.map quotedChars) rest) :
    ∀ text ∈ texts, text.any breaksLine = false := by
  induction h with
  | nil => exact fun text htext => absurd htext List.not_mem_nil
  | @cons cs text literals texts hquotes hrest ih =>
      obtain ⟨c, more, -, heq, hend⟩ := exists_row_cons cs literals rest
      obtain ⟨c', more', -, heq', hend'⟩ :=
        exists_row_cons (quotedChars text) (texts.map quotedChars) rest
      rw [List.map_cons, heq, heq'] at hrow
      obtain ⟨body, rfl, hread⟩ := hquotes.exists_read (c :: more)
      -- the same characters are read in both rows, so the first literals end at one place
      have hbody : body ++ c :: more = text.flatMap escapeChar ++ '\'' :: c' :: more' := by
        simpa [quotedChars] using hrow
      rw [hbody, readQuoted_escape] at hread
      cases hbreak : text.any breaksLine with
      | true => simp [hbreak] at hread
      | false =>
          obtain ⟨rfl, rfl⟩ : c' = c ∧ more' = more := by simpa [hbreak] using hread
          refine List.forall_mem_cons.mpr ⟨hbreak, ?_⟩
          rcases hend with ⟨-, rfl, -⟩ | ⟨rfl, -, hmore⟩
          · cases hrest
            exact fun text htext => absurd htext List.not_mem_nil
          · rcases hend' with ⟨hcomma, -⟩ | ⟨-, -, hmore'⟩
            · exact absurd hcomma (by decide)
            · exact ih (List.cons.inj (hmore.symm.trans hmore')).2

theorem quotes_row_iff {texts : List (List Char)} (rest : List Char) :
    (∃ literals, List.Forall₂ Quotes literals texts ∧
      row literals rest = row (texts.map quotedChars) rest) ↔
      ∀ text ∈ texts, text.any breaksLine = false := by
  constructor
  · rintro ⟨literals, h, hrow⟩
    exact not_breaksLine_of_row h hrow
  · intro h
    refine ⟨texts.map quotedChars, ?_, rfl⟩
    rw [List.forall₂_map_left_iff, List.forall₂_same]
    exact fun text htext => quotes_quotedChars_iff.mpr ⟨rfl, h text htext⟩

/-! ### Texts between quotes as they are

Such a text is given back exactly if each of its characters stands for itself, which quotes,
backslashes and line breaks do not. Two backslashes stand for one, so no text with backslashes is
given back by chance.
-/

/-- A character that stands for itself in a quoted literal. -/
def standsForItself (c : Char) : Bool := c ≠ '\\' && c ≠ '\'' && !breaksLine c

/-- A text whose characters all stand for themselves. -/
def Verbatim (cs : List Char) : Prop := ∀ c ∈ cs, standsForItself c = true

instance (cs : List Char) : Decidable (Verbatim cs) :=
  List.decidableBAll _ cs

theorem verbatim_cons {c : Char} {cs : List Char} :
    Verbatim (c :: cs) ↔ standsForItself c = true ∧ Verbatim cs :=
  List.forall_mem_cons

theorem verbatim_nil : Verbatim [] := fun _ h => absurd h List.not_mem_nil

/-- The next character of a literal, if it stands for itself. -/
theorem readQuoted_cons {c : Char} (h : standsForItself c = true) (cs : List Char) :
    readQuoted (c :: cs) = (readQuoted cs).map fun read => (c :: read.1, read.2) := by
  simp only [standsForItself, Bool.and_eq_true, decide_eq_true_eq, Bool.not_eq_true'] at h
  obtain ⟨⟨hbackslash, hquote⟩, hbreak⟩ := h
  rw [readQuoted.eq_3 _ _ (fun _ _ hc _ => hbackslash hc), if_neg hquote, hbreak,
    if_neg Bool.false_ne_true]

theorem Verbatim.readQuoted {cs : List Char} (h : Verbatim cs) (rest : List Char) :
    readQuoted (cs ++ '\'' :: rest) = some (cs, rest) := by
  induction cs with
  | nil => simp [TypeScript.readQuoted]
  | cons c cs ih =>
      obtain ⟨hc, hcs⟩ := verbatim_cons.mp h
      rw [List.cons_append, readQuoted_cons hc, ih hcs]
      rfl

/-- A first character other than a backslash is read as itself. -/
theorem eq_of_readQuoted_cons {c d : Char} {cs text left : List Char} (hc : c ≠ '\\')
    (h : readQuoted (c :: cs) = some (d :: text, left)) :
    d = c ∧ standsForItself c = true ∧ readQuoted cs = some (text, left) := by
  rw [readQuoted.eq_3 _ _ fun _ _ heq _ => hc heq] at h
  split at h
  · simp at h
  case isFalse hquote =>
    split at h
    · cases h
    case isFalse hbreak =>
      obtain ⟨read, hread, heq⟩ := Option.map_eq_some_iff.mp h
      simp only [Prod.mk.injEq, List.cons.injEq] at heq
      obtain ⟨⟨rfl, rfl⟩, rfl⟩ := heq
      exact ⟨rfl, by simp [standsForItself, hc, hquote, hbreak], hread⟩

theorem eq_backslash_of_readQuoted {c : Char} {cs text left : List Char}
    (h : readQuoted ('\\' :: c :: cs) = some ('\\' :: text, left)) :
    c = '\\' ∧ readQuoted cs = some (text, left) := by
  rw [readQuoted] at h
  obtain ⟨d, hd, hmap⟩ := Option.bind_eq_some_iff.mp h
  obtain ⟨read, hread, heq⟩ := Option.map_eq_some_iff.mp hmap
  simp only [Prod.mk.injEq, List.cons.injEq] at heq
  obtain ⟨⟨rfl, rfl⟩, rfl⟩ := heq
  refine ⟨?_, hread⟩
  unfold escaped? at hd
  split at hd
  case h_7 =>
    split at hd
    · cases hd
    · exact Option.some.inj hd
  all_goals exact absurd hd (by decide)

/-- Two backslashes stand for one, so what is read never has more of them in front than stand
there. -/
theorem readQuoted_ne_replicate (cs : List Char) (n : Nat) (rest left : List Char) :
    readQuoted (cs ++ '\'' :: rest) ≠ some (List.replicate (n + 1) '\\' ++ cs, left) := by
  intro h
  rw [List.replicate_succ, List.cons_append] at h
  match cs with
  | [] => simp [readQuoted] at h
  | c :: cs =>
      by_cases hc : c = '\\'
      · subst hc
        match cs with
        | [] => exact absurd (eq_backslash_of_readQuoted h).1 (by decide)
        | d :: cs =>
            obtain ⟨rfl, hrest⟩ := eq_backslash_of_readQuoted h
            -- the two backslashes that are gone belong to those that are missing
            have hmove : List.replicate n '\\' ++ '\\' :: '\\' :: cs =
                List.replicate (n + 1 + 1) '\\' ++ cs := by
              simp [List.replicate_succ']
            rw [hmove] at hrest
            exact readQuoted_ne_replicate cs (n + 1) rest left hrest
      · exact hc (eq_of_readQuoted_cons hc h).1.symm

/-- A text that is put between quotes as it is, is given back only if its characters stand for
themselves. -/
theorem verbatim_of_readQuoted {cs rest left : List Char}
    (h : readQuoted (cs ++ '\'' :: rest) = some (cs, left)) : Verbatim cs := by
  induction cs with
  | nil => exact verbatim_nil
  | cons c cs ih =>
      by_cases hc : c = '\\'
      · subst hc
        match cs with
        | [] => exact absurd (eq_backslash_of_readQuoted h).1 (by decide)
        | d :: cs =>
            obtain ⟨rfl, hrest⟩ := eq_backslash_of_readQuoted h
            exact absurd hrest (readQuoted_ne_replicate cs 0 rest left)
      · obtain ⟨-, hstands, hrest⟩ := eq_of_readQuoted_cons hc h
        exact verbatim_cons.mpr ⟨hstands, ih hrest⟩

end Formwork.TypeScript
