import Formwork.Text.Blank
import Formwork.Text.Lines
import Mathlib.Data.List.TakeWhile

/-!
Style sheets as lists of rules. A rule sets properties for what its selector names. Texts of rules
are read in pieces: rules end with a closing brace and declarations with a semicolon, an opening
brace stands between a selector and its declarations, and a colon between a property and its value.
Rules whose texts have none of these marks are read off the text that they are written as.
-/

namespace Formwork.StyleSheet

open Text

structure Rule where
  selector : String
  declarations : List (String × String)
  deriving DecidableEq, Repr

/-! ### Reading -/

def trimmed (cs : List Char) : String := String.ofList (trimChars isBlank cs)

def filled (parts : List (List Char)) : List (List Char) :=
  parts.filter fun cs => !cs.all isBlank

def readDeclaration? (cs : List Char) : Option (String × String) :=
  match pieces ':' cs with
  | [property, value] => some (trimmed property, trimmed value)
  | _ => none

def readRule? (cs : List Char) : Option Rule :=
  match pieces '\x7b' cs with
  | [selector, body] =>
    ((filled (pieces ';' body)).mapM readDeclaration?).map fun declarations =>
      ⟨trimmed selector, declarations⟩
  | _ => none

/-- The rules of a style sheet, unless something in it is no rule. -/
def read? (sheet : String) : Option (List Rule) :=
  (filled (pieces '\x7d' sheet.toList)).mapM readRule?

/-- The words that a value divides by, in the order in which they stand there. -/
def divisorsIn : List (List Char) → List String
  | ['/'] :: divisor :: rest => String.ofList divisor :: divisorsIn rest
  | _ :: rest => divisorsIn rest
  | [] => []

def Rule.divisors (r : Rule) : List String :=
  r.declarations.flatMap fun d => divisorsIn (words d.2.toList)

/-! ### Writing -/

def declarationText (d : String × String) : String := "\n  " ++ d.1 ++ ": " ++ d.2

def Rule.text (r : Rule) : String :=
  r.selector ++ " \x7b" ++ String.join (r.declarations.map fun d => declarationText d ++ ";") ++
    "\n"

def text : List Rule → String
  | [] => ""
  | r :: rest =>
    r.text ++ "\x7d" ++ String.join (rest.map fun r => "\n\n" ++ r.text ++ "\x7d") ++ "\n"

/-! ### Pieces -/

theorem piecesFrom_append {sep : Char} {cs : List Char} (h : sep ∉ cs) (piece rest : List Char) :
    piecesFrom sep piece (cs ++ rest) = piecesFrom sep (cs.reverse ++ piece) rest := by
  induction cs generalizing piece with
  | nil => rfl
  | cons c cs ih =>
      obtain ⟨hc, hcs⟩ := List.ne_and_not_mem_of_not_mem_cons h
      rw [List.cons_append, piecesFrom, if_neg hc.symm, ih hcs, List.reverse_cons,
        List.append_assoc]
      rfl

theorem pieces_of_not_mem {sep : Char} {cs : List Char} (h : sep ∉ cs) : pieces sep cs = [cs] := by
  have hfrom := piecesFrom_append h [] []
  rw [List.append_nil, List.append_nil] at hfrom
  rw [pieces, hfrom, piecesFrom, List.reverse_reverse]

theorem pieces_append {sep : Char} {cs : List Char} (h : sep ∉ cs) (rest : List Char) :
    pieces sep (cs ++ sep :: rest) = cs :: pieces sep rest := by
  rw [pieces, piecesFrom_append h, piecesFrom, if_pos rfl, List.append_nil, List.reverse_reverse]
  rfl

theorem pieces_ended {α : Type} {write : α → List Char} {sep : Char} {as : List α}
    (h : ∀ a ∈ as, sep ∉ write a) {last : List Char} (hlast : sep ∉ last) :
    pieces sep ((as.flatMap fun a => write a ++ [sep]) ++ last) = as.map write ++ [last] := by
  induction as with
  | nil => exact pieces_of_not_mem hlast
  | cons a as ih =>
      obtain ⟨ha, has⟩ := List.forall_mem_cons.mp h
      rw [List.flatMap_cons, List.append_assoc, List.append_assoc, List.singleton_append,
        pieces_append ha, ih has]
      rfl

/-- Pieces with something in them are read one after the other, up to blanks behind the last. -/
theorem mapM_filled {α β : Type} {write : α → List Char} {read : List Char → Option β}
    {value : α → β} {as : List α} (hread : ∀ a ∈ as, read (write a) = some (value a))
    (hfilled : ∀ a ∈ as, ¬ (write a).all isBlank) {last : List Char} (hlast : last.all isBlank) :
    (filled (as.map write ++ [last])).mapM read = some (as.map value) := by
  induction as with
  | nil => simp [filled, hlast]
  | cons a as ih =>
      obtain ⟨ha, has⟩ := List.forall_mem_cons.mp hread
      obtain ⟨ha', has'⟩ := List.forall_mem_cons.mp hfilled
      have hrest := ih has has'
      rw [filled] at hrest ⊢
      rw [List.map_cons, List.cons_append, List.filter_cons, if_pos (by simpa using ha'),
        List.mapM_cons, ha, hrest]
      rfl

theorem not_all_blank {cs : List Char} {c : Char} (hmem : c ∈ cs) (hc : isBlank c = false) :
    ¬ cs.all isBlank := fun hall =>
  Bool.false_ne_true (hc.symm.trans (List.all_eq_true.mp hall c hmem))

/-! ### Blanks -/

theorem dropWhile_blanks {l : List Char} (hl : l.all isBlank) (cs : List Char) :
    (l ++ cs).dropWhile isBlank = cs.dropWhile isBlank := by
  rw [List.dropWhile_append, List.dropWhile_eq_nil_iff.mpr (List.all_eq_true.mp hl)]
  rfl

theorem trimEndChars_blanks {r : List Char} (hr : r.all isBlank) (cs : List Char) :
    trimEndChars isBlank (cs ++ r) = trimEndChars isBlank cs := by
  rw [trimEndChars, trimEndChars, List.reverse_append,
    dropWhile_blanks (by rwa [List.all_reverse])]

theorem trimmed_blanks {l r : List Char} (hl : l.all isBlank) (hr : r.all isBlank)
    (cs : List Char) : trimmed (l ++ (cs ++ r)) = trimmed cs := by
  rw [trimmed, trimmed, trimChars, trimChars, dropWhile_blanks hl, List.dropWhile_append]
  split
  case isTrue hnone =>
    rw [List.isEmpty_iff.mp hnone, List.dropWhile_eq_nil_iff.mpr (List.all_eq_true.mp hr)]
  case isFalse => rw [trimEndChars_blanks hr]

theorem dropWhile_of_head? {cs : List Char} (h : ∀ c ∈ cs.head?, isBlank c = false) :
    cs.dropWhile isBlank = cs := by
  cases cs with
  | nil => rfl
  | cons c cs => rw [List.dropWhile_cons, h c rfl, if_neg Bool.false_ne_true]

theorem trimmed_of_ends {cs : List Char} (hfirst : ∀ c ∈ cs.head?, isBlank c = false)
    (hlast : ∀ c ∈ cs.getLast?, isBlank c = false) : trimmed cs = String.ofList cs := by
  rw [trimmed, trimChars, dropWhile_of_head? hfirst, trimEndChars,
    dropWhile_of_head? (by rwa [List.head?_reverse]), List.reverse_reverse]

/-! ### Words -/

theorem wordsFrom_append {cs : List Char} (h : ∀ c ∈ cs, isBlank c = false)
    (word rest : List Char) :
    wordsFrom word (cs ++ rest) = wordsFrom (cs.reverse ++ word) rest := by
  induction cs generalizing word with
  | nil => rfl
  | cons c cs ih =>
      obtain ⟨hc, hcs⟩ := List.forall_mem_cons.mp h
      rw [List.cons_append, wordsFrom, hc, if_neg Bool.false_ne_true, ih hcs, List.reverse_cons,
        List.append_assoc]
      rfl

theorem words_append {cs : List Char} (h : ∀ c ∈ cs, isBlank c = false) (hne : cs ≠ [])
    (rest : List Char) : words (cs ++ ' ' :: rest) = cs :: words rest := by
  have hfilled : cs.reverse.isEmpty = false := by simpa using hne
  rw [words, wordsFrom_append h, List.append_nil, wordsFrom, if_pos (by decide), hfilled,
    if_neg Bool.false_ne_true, List.reverse_reverse]
  rfl

/-! ### Reading what is written -/

def isMark (c : Char) : Bool := c == '\x7b' || c == '\x7d' || c == ':' || c == ';'

def isUnmarked (cs : List Char) : Bool := cs.all fun c => !isMark c

theorem not_mem_of_isUnmarked {cs : List Char} (h : isUnmarked cs = true) {mark : Char}
    (hmark : isMark mark = true) : mark ∉ cs := by
  intro hmem
  have hplain := List.all_eq_true.mp h mark hmem
  rw [hmark] at hplain
  exact Bool.false_ne_true hplain

/-- A text without marks, and without blanks at its ends. -/
structure Plain (s : String) : Prop where
  unmarked : isUnmarked s.toList = true
  trimmed : trimmed s.toList = s

instance (s : String) : Decidable (Plain s) :=
  decidable_of_iff (isUnmarked s.toList = true ∧ StyleSheet.trimmed s.toList = s)
    ⟨fun h => ⟨h.1, h.2⟩, fun h => ⟨h.unmarked, h.trimmed⟩⟩

theorem Plain.not_mem {s : String} (h : Plain s) {mark : Char} (hmark : isMark mark = true) :
    mark ∉ s.toList :=
  not_mem_of_isUnmarked h.unmarked hmark

structure Rule.Plain (r : Rule) : Prop where
  selector : StyleSheet.Plain r.selector
  property : ∀ d ∈ r.declarations, StyleSheet.Plain d.1
  value : ∀ d ∈ r.declarations, StyleSheet.Plain d.2

instance (r : Rule) : Decidable r.Plain :=
  decidable_of_iff (StyleSheet.Plain r.selector ∧ (∀ d ∈ r.declarations, StyleSheet.Plain d.1) ∧
    ∀ d ∈ r.declarations, StyleSheet.Plain d.2)
    ⟨fun h => ⟨h.1, h.2.1, h.2.2⟩, fun h => ⟨h.selector, h.property, h.value⟩⟩

theorem readDeclaration?_text {d : String × String} (hproperty : Plain d.1) (hvalue : Plain d.2) :
    readDeclaration? (declarationText d).toList = some d := by
  have htext : (declarationText d).toList =
      ("\n  ".toList ++ (d.1.toList ++ [])) ++ ':' :: (" ".toList ++ (d.2.toList ++ [])) := by
    simp only [declarationText, String.toList_append, List.append_assoc, List.append_nil]
    rfl
  have hfront : ':' ∉ "\n  ".toList ++ (d.1.toList ++ []) := by
    have hmark : ':' ∉ d.1.toList := hproperty.not_mem rfl
    simp [hmark]
  have hback : ':' ∉ " ".toList ++ (d.2.toList ++ []) := by
    have hmark : ':' ∉ d.2.toList := hvalue.not_mem rfl
    simp [hmark]
  rw [readDeclaration?, htext, pieces_append hfront, pieces_of_not_mem hback]
  dsimp only
  rw [trimmed_blanks (by decide) (by decide), trimmed_blanks (by decide) (by decide),
    hproperty.trimmed, hvalue.trimmed]

theorem not_mem_declarationText {d : String × String} (hproperty : Plain d.1) (hvalue : Plain d.2)
    {mark : Char} (hmark : isMark mark = true) (hcolon : mark ≠ ':') :
    mark ∉ (declarationText d).toList := by
  have hlead : mark ∉ "\n  ".toList := not_mem_of_isUnmarked rfl hmark
  have hmiddle : mark ∉ ": ".toList := List.not_mem_cons_of_ne_of_not_mem hcolon
    (not_mem_of_isUnmarked (rfl : isUnmarked [' '] = true) hmark)
  simp only [declarationText, String.toList_append, List.mem_append, not_or]
  exact ⟨⟨⟨hlead, hproperty.not_mem hmark⟩, hmiddle⟩, hvalue.not_mem hmark⟩

def Rule.body (r : Rule) : List Char :=
  (r.declarations.flatMap fun d => (declarationText d).toList ++ [';']) ++ ['\n']

theorem Rule.toList_text (r : Rule) :
    r.text.toList = r.selector.toList ++ (" ".toList ++ '\x7b' :: r.body) := by
  simp only [Rule.text, Rule.body, String.toList_append, String.toList_join, List.flatMap_map,
    List.append_assoc]
  rfl

section

variable {r : Rule} (hr : r.Plain)

include hr

theorem not_mem_body {mark : Char} (hmark : isMark mark = true) (hcolon : mark ≠ ':')
    (hsemicolon : mark ≠ ';') : mark ∉ r.body := by
  rw [Rule.body, List.mem_append, List.mem_flatMap]
  rintro (⟨d, hd, h⟩ | h)
  · rcases List.mem_append.mp h with h | h
    · exact not_mem_declarationText (hr.property d hd) (hr.value d hd) hmark hcolon h
    · exact hsemicolon (List.mem_singleton.mp h)
  · rw [List.mem_singleton.mp h] at hmark
    exact absurd hmark (by decide)

theorem readDeclarations_body : (filled (pieces ';' r.body)).mapM readDeclaration? =
    some r.declarations := by
  have hends : ∀ d ∈ r.declarations, ';' ∉ (declarationText d).toList := fun d hd =>
    not_mem_declarationText (hr.property d hd) (hr.value d hd) (by decide) (by decide)
  have hread : ∀ d ∈ r.declarations,
      readDeclaration? (declarationText d).toList = some (id d) := fun d hd =>
    readDeclaration?_text (hr.property d hd) (hr.value d hd)
  have hcolon : ∀ d ∈ r.declarations, ¬ (declarationText d).toList.all isBlank := fun d _ =>
    not_all_blank (c := ':') (by simp [declarationText]) (by decide)
  rw [Rule.body, pieces_ended hends (by decide), mapM_filled hread hcolon (by decide), List.map_id]

theorem readRule?_text {lead : List Char} (hlead : lead.all isBlank) :
    readRule? (lead ++ r.text.toList) = some r := by
  have hfront : '\x7b' ∉ lead ++ (r.selector.toList ++ " ".toList) := by
    have hlead' : '\x7b' ∉ lead := fun h => not_all_blank h (by decide) hlead
    have hselector : '\x7b' ∉ r.selector.toList := hr.selector.not_mem rfl
    simp [hlead', hselector]
  have hbody : '\x7b' ∉ r.body := not_mem_body hr (by decide) (by decide) (by decide)
  have htext : lead ++ r.text.toList =
      lead ++ (r.selector.toList ++ " ".toList) ++ '\x7b' :: r.body := by
    simp only [Rule.toList_text, List.append_assoc]
  rw [readRule?, htext, pieces_append hfront, pieces_of_not_mem hbody]
  dsimp only
  rw [readDeclarations_body hr, trimmed_blanks hlead (by decide), hr.selector.trimmed]
  rfl

theorem closing_not_mem_text {lead : List Char} (hlead : lead.all isBlank) :
    '\x7d' ∉ lead ++ r.text.toList := by
  have hlead' : '\x7d' ∉ lead := fun h => not_all_blank h (by decide) hlead
  have hselector : '\x7d' ∉ r.selector.toList := hr.selector.not_mem rfl
  have hbody : '\x7d' ∉ r.body := not_mem_body hr (by decide) (by decide) (by decide)
  simp [Rule.toList_text, hlead', hselector, hbody]

end

/-- Rules are read off the text that they are written as. -/
theorem read?_text {rules : List Rule} (h : ∀ r ∈ rules, r.Plain) :
    read? (text rules) = some rules := by
  cases rules with
  | nil => rfl
  | cons first rest =>
      -- the first rule has nothing before it, and the others a free line
      let parts : List (List Char × Rule) := ([], first) :: rest.map fun r => ("\n\n".toList, r)
      have hparts : ∀ p ∈ parts, p.1.all isBlank ∧ p.2.Plain := by
        refine List.forall_mem_cons.mpr ⟨⟨rfl, h first List.mem_cons_self⟩, ?_⟩
        have hfree : "\n\n".toList.all isBlank = true := by decide
        exact List.forall_mem_map.mpr fun r hr => ⟨hfree, h r (List.mem_cons_of_mem _ hr)⟩
      have htext : (text (first :: rest)).toList =
          (parts.flatMap fun p => (p.1 ++ p.2.text.toList) ++ ['\x7d']) ++ ['\n'] := by
        simp only [text, parts, String.toList_append, String.toList_join, List.flatMap_cons,
          List.flatMap_map, List.nil_append]
        rfl
      have hends : ∀ p ∈ parts, '\x7d' ∉ p.1 ++ p.2.text.toList := fun p hp =>
        closing_not_mem_text (hparts p hp).2 (hparts p hp).1
      have hread : ∀ p ∈ parts, readRule? (p.1 ++ p.2.text.toList) = some p.2 := fun p hp =>
        readRule?_text (hparts p hp).2 (hparts p hp).1
      have hfilled : ∀ p ∈ parts, ¬ (p.1 ++ p.2.text.toList).all isBlank := fun p _ =>
        not_all_blank (c := '\x7b') (by simp [Rule.toList_text]) (by decide)
      have hrules : parts.map Prod.snd = first :: rest := by
        rw [List.map_cons, List.map_map]
        exact congrArg (first :: ·) (List.map_id rest)
      rw [read?, htext, pieces_ended hends (by decide), mapM_filled hread hfilled (by decide),
        hrules]

end Formwork.StyleSheet
