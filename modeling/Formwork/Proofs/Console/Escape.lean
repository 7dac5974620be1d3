import Formwork.Proofs.Console.Showing
import Formwork.Report
import Mathlib.Data.List.TakeWhile
import Mathlib.Tactic.Push

/-!
Escaped text in a message. A message that is put in a colour has an opening tag, the text, and a
closing tag; if the text is escaped, the message can always be shown, whatever the text is. In
escaped text every tag stands behind an odd number of backslashes, so it is read as plain text, and
what is left are the tags of the message itself. Only the closing one may be lost: backslashes at
the end of the text are read together with it, and the style then goes on to the end of the
message.
-/

namespace Formwork.Console.Markup

/-! ### Tags and the backslashes before them -/

def isInner (c : Char) : Bool := decide (c ≠ ']' ∧ c ≠ '[')

def IsBody : List Char → Prop
  | [] => False
  | c :: inner => startsTag c = true ∧ ∀ d ∈ inner, isInner d = true

def guarded (backslashes : Nat) (body : List Char) : List Char :=
  List.replicate backslashes '\\' ++ '[' :: (body ++ [']'])

theorem length_guarded (n : Nat) (body : List Char) :
    (guarded n body).length = n + body.length + 2 := by
  simp only [guarded, List.length_append, List.length_replicate, List.length_cons, List.length_nil]
  omega

theorem guarded_eq_cons (n : Nat) (body : List Char) :
    ∃ c tail, guarded n body = c :: tail ∧ n + body.length + 2 - 1 = tail.length := by
  have hlength := length_guarded n body
  cases hcons : guarded n body with
  | nil =>
      rw [hcons] at hlength
      simp at hlength
  | cons c tail =>
      rw [hcons, List.length_cons] at hlength
      exact ⟨c, tail, rfl, by omega⟩

theorem takeWhile_append_of_stop {p : Char → Bool} {front : List Char} {c : Char}
    (hfront : ∀ d ∈ front, p d = true) (hc : p c = false) (rest : List Char) :
    (front ++ c :: rest).takeWhile p = front := by
  rw [List.takeWhile_append_of_pos hfront, List.takeWhile_cons_of_neg (by simp [hc]),
    List.append_nil]

theorem drop_length_takeWhile (p : Char → Bool) (cs : List Char) :
    cs.drop (cs.takeWhile p).length = cs.dropWhile p := by
  have h := congrArg (List.drop (cs.takeWhile p).length)
    (List.takeWhile_append_dropWhile (p := p) (l := cs))
  rw [List.drop_left] at h
  exact h.symm

theorem tagBody?_eq (c : Char) (rest : List Char) :
    tagBody? (c :: rest) =
      if startsTag c && (rest.dropWhile isInner).head? == some ']' then
        some (c :: rest.takeWhile isInner)
      else none := by
  show (if startsTag c && (rest.drop (rest.takeWhile isInner).length).head? == some ']' then
    some (c :: rest.takeWhile isInner) else none) = _
  rw [drop_length_takeWhile]

theorem tagBody?_append {body : List Char} (h : IsBody body) (rest : List Char) :
    tagBody? (body ++ ']' :: rest) = some body := by
  cases body with
  | nil => exact h.elim
  | cons c inner =>
      obtain ⟨hc, hinner⟩ := h
      have htake := takeWhile_append_of_stop (c := ']') hinner (by decide) rest
      have hdrop : (inner ++ ']' :: rest).dropWhile isInner = ']' :: rest := by
        rw [List.dropWhile_append_of_pos hinner, List.dropWhile_cons_of_neg (by decide)]
      rw [List.cons_append, tagBody?_eq, htake, hdrop, hc]
      rfl

/-- A body is found only where it stands. -/
theorem isBody_of_tagBody? {cs body : List Char} (h : tagBody? cs = some body) :
    IsBody body ∧ ∃ rest, cs = body ++ ']' :: rest := by
  cases cs with
  | nil => exact absurd h (by simp [tagBody?])
  | cons c rest =>
      rw [tagBody?_eq] at h
      split at h
      case isTrue hstart =>
        obtain ⟨hc, hclose⟩ := Bool.and_eq_true_iff.mp hstart
        obtain ⟨more, hmore⟩ : ∃ more, rest.dropWhile isInner = ']' :: more := by
          cases hdrop : rest.dropWhile isInner with
          | nil => rw [hdrop] at hclose; exact absurd hclose (by decide)
          | cons d more =>
              rw [hdrop] at hclose
              exact ⟨more, by rw [show d = ']' by simpa using hclose]⟩
        cases Option.some.inj h
        refine ⟨⟨hc, fun d hd => List.mem_takeWhile_imp hd⟩, more, ?_⟩
        rw [List.cons_append, ← hmore, List.takeWhile_append_dropWhile]
      case isFalse => exact absurd h (by simp)

theorem escapable?_guarded (n : Nat) {body : List Char} (h : IsBody body) (rest : List Char) :
    escapable? (guarded n body ++ rest) = some ⟨n, body⟩ := by
  have hshape : guarded n body ++ rest =
      List.replicate n '\\' ++ '[' :: (body ++ ']' :: rest) := by simp [guarded]
  have htake : ((guarded n body ++ rest).takeWhile (· = '\\')).length = n := by
    rw [hshape, takeWhile_append_of_stop (by simp) (by decide), List.length_replicate]
  have hdrop : (guarded n body ++ rest).drop n = '[' :: (body ++ ']' :: rest) := by
    rw [hshape, List.drop_left' List.length_replicate]
  rw [escapable?]
  simp only [htake, hdrop, tagBody?_append h, Option.map_some]

/-- Backslashes and a tag are found only where they stand. -/
theorem exists_of_escapable? {cs : List Char} {m : Escapable} (h : escapable? cs = some m) :
    IsBody m.body ∧ ∃ rest, cs = guarded m.backslashes m.body ++ rest := by
  have hfront : cs.takeWhile (· = '\\') =
      List.replicate (cs.takeWhile (· = '\\')).length '\\' :=
    List.eq_replicate_of_mem fun c hc => by simpa using List.mem_takeWhile_imp hc
  have hsplit := List.takeWhile_append_dropWhile (p := (· = '\\')) (l := cs)
  rw [escapable?] at h
  simp only [drop_length_takeWhile] at h
  split at h
  case h_1 rest hrest =>
    obtain ⟨body, hbody, rfl⟩ := Option.map_eq_some_iff.mp h
    obtain ⟨hok, more, rfl⟩ := isBody_of_tagBody? hbody
    refine ⟨hok, more, ?_⟩
    rw [← hsplit, hrest, hfront]
    simp [guarded]
  case h_2 => exact absurd h (by simp)

/-! ### Text in which no tag is read -/

/-- A text in which every tag is behind an odd number of backslashes, up to a closing tag that ends
it. -/
inductive Guarded (close : List Char) : List Char → Prop
  | close (n : Nat) : Guarded close (guarded n close)
  | tag (n : Nat) {body rest : List Char} : IsBody body → Guarded close rest →
      Guarded close (guarded (2 * n + 1) body ++ rest)
  | char {c : Char} {rest : List Char} : escapable? (c :: rest) = none → Guarded close rest →
      Guarded close (c :: rest)

/-- Pieces that are plain text, up to a tag that may be the last of them. -/
def Inert (close : List Char) : List Piece → Prop
  | [] => True
  | .plain _ :: rest => Inert close rest
  | .tag _ body :: rest => body = close ∧ rest = []

theorem inert_flush_append {close plain : List Char} {ps : List Piece} (h : Inert close ps) :
    Inert close (flush plain ++ ps) := by
  rw [flush]
  split
  · exact h
  · exact h

theorem piecesFrom_skip (position skip : Nat) (plain cs : List Char) :
    piecesFrom position skip plain cs = piecesFrom (position + skip) 0 plain (cs.drop skip) := by
  induction skip generalizing position cs with
  | zero => rfl
  | succ skip ih =>
      cases cs with
      | nil => rfl
      | cons c rest =>
          rw [piecesFrom, if_pos (Nat.succ_pos skip), Nat.add_sub_cancel, ih, List.drop_succ_cons,
            Nat.add_assoc, Nat.add_comm 1 skip]

theorem piecesFrom_guarded (position : Nat) (plain : List Char) (n : Nat) {body : List Char}
    (h : IsBody body) (rest : List Char) :
    ∃ position', piecesFrom position 0 plain (guarded n body ++ rest) =
      flush plain ++ (⟨n, body⟩ : Escapable).pieces position ++ piecesFrom position' 0 [] rest := by
  have hfound := escapable?_guarded n h rest
  obtain ⟨c, tail, hcons, htail⟩ := guarded_eq_cons n body
  rw [hcons, List.cons_append] at hfound ⊢
  refine ⟨position + 1 + tail.length, ?_⟩
  rw [piecesFrom, if_neg (Nat.lt_irrefl 0), hfound]
  simp only [Escapable.length, htail]
  rw [piecesFrom_skip, List.drop_left]

theorem Guarded.inert {close : List Char} (hclose : IsBody close) {cs : List Char}
    (h : Guarded close cs) (position : Nat) (plain : List Char) :
    Inert close (piecesFrom position 0 plain cs) := by
  -- what has been read as plain text so far does not matter
  induction h generalizing position plain with
  | close n =>
      obtain ⟨position', hpieces⟩ := piecesFrom_guarded position plain n hclose []
      rw [List.append_nil] at hpieces
      rw [hpieces, List.append_assoc]
      refine inert_flush_append ?_
      rw [Escapable.pieces]
      split <;> split <;> simp [Inert, piecesFrom, flush]
  | tag n hbody _ ih =>
      -- an odd number of backslashes leaves one that takes the tag its meaning
      obtain ⟨position', hpieces⟩ := piecesFrom_guarded position plain (2 * n + 1) hbody _
      have hodd : (2 * n + 1) % 2 = 1 := by omega
      rw [hpieces, List.append_assoc]
      refine inert_flush_append ?_
      rw [Escapable.pieces]
      simp only [hodd, if_true]
      split
      · exact ih position' []
      · exact ih position' []
  | char hnone _ ih =>
      rw [piecesFrom, if_neg (Nat.lt_irrefl 0), hnone]
      exact ih _ _

/-! ### Escaped text is guarded -/

theorem escapeFrom_skip (skip : Nat) (cs : List Char) :
    escapeFrom skip cs = escapeFrom 0 (cs.drop skip) := by
  induction skip generalizing cs with
  | zero => rfl
  | succ skip ih =>
      cases cs with
      | nil => rfl
      | cons c rest =>
          rw [escapeFrom, if_pos (Nat.succ_pos skip), Nat.add_sub_cancel, ih, List.drop_succ_cons]

theorem escapeFrom_of_none {c : Char} {rest : List Char} (h : escapable? (c :: rest) = none) :
    escapeFrom 0 (c :: rest) = c :: escapeFrom 0 rest := by
  rw [escapeFrom, if_neg (Nat.lt_irrefl 0), h]

theorem escapeFrom_tag (n : Nat) {body : List Char} (h : IsBody body) (rest : List Char) :
    escapeFrom 0 (guarded n body ++ rest) = guarded (2 * n + 1) body ++ escapeFrom 0 rest := by
  have hfound := escapable?_guarded n h rest
  obtain ⟨c, tail, hcons, htail⟩ := guarded_eq_cons n body
  rw [hcons, List.cons_append] at hfound ⊢
  rw [escapeFrom, if_neg (Nat.lt_irrefl 0), hfound]
  simp only [Escapable.length, htail]
  rw [escapeFrom_skip, List.drop_left]
  rfl

theorem escapable?_backslash (cs : List Char) :
    escapable? ('\\' :: cs) =
      (escapable? cs).map fun m => ⟨m.backslashes + 1, m.body⟩ := by
  rw [escapable?, escapable?, List.takeWhile_cons_of_pos (by decide), List.length_cons]
  simp only [List.drop_succ_cons]
  split
  · rw [Option.map_map]
    rfl
  · rfl

theorem escapable?_bracket (cs : List Char) :
    escapable? ('[' :: cs) = (tagBody? cs).map fun body => ⟨0, body⟩ := rfl

theorem escapable?_other {c : Char} (hbackslash : c ≠ '\\') (hbracket : c ≠ '[')
    (cs : List Char) : escapable? (c :: cs) = none := by
  rw [escapable?, List.takeWhile_cons_of_neg (by simpa using hbackslash)]
  simp only [List.length_nil, List.drop_zero]
  split
  case h_1 rest heq => exact absurd (List.cons.inj heq).1 hbracket
  case h_2 => rfl

section

variable {close : List Char} {d : Nat}

theorem dropWhile_guarded (n : Nat) (body rest : List Char) :
    ((guarded n body ++ rest).dropWhile isInner).head? = some '[' := by
  have hfront : ∀ c ∈ List.replicate n '\\', isInner c = true := fun c hc => by
    rw [(List.mem_replicate.mp hc).2]
    rfl
  rw [guarded, List.append_assoc, List.dropWhile_append_of_pos hfront, List.cons_append,
    List.dropWhile_cons_of_neg (by decide)]
  rfl

/-- Escaping puts no tag's end in front of the first bracket. -/
theorem head?_of_escaped {cs : List Char}
    (h : ((escapeFrom 0 cs ++ guarded d close).dropWhile isInner).head? = some ']') :
    (cs.dropWhile isInner).head? = some ']' := by
  have hopening : ∀ n body rest,
      ((guarded n body ++ rest).dropWhile isInner).head? ≠ some ']' := fun n body rest => by
    rw [dropWhile_guarded]
    decide
  induction cs with
  | nil => exact absurd ((List.append_nil (guarded d close)).symm ▸ h) (hopening d close [])
  | cons c rest ih =>
      cases hfound : escapable? (c :: rest) with
      | some m =>
          obtain ⟨hbody, more, hmore⟩ := exists_of_escapable? hfound
          rw [hmore, escapeFrom_tag _ hbody, List.append_assoc] at h
          exact absurd h (hopening _ _ _)
      | none =>
          rw [escapeFrom_of_none hfound, List.cons_append] at h
          by_cases hc : isInner c = true
          · rw [List.dropWhile_cons_of_pos hc] at h ⊢
            exact ih h
          · rw [List.dropWhile_cons_of_neg hc] at h ⊢
            exact h

theorem tagBody?_guarded (n : Nat) (body rest : List Char) :
    tagBody? (guarded n body ++ rest) = none := by
  cases n with
  | zero => rw [guarded, List.replicate_zero, List.nil_append, List.cons_append, tagBody?_eq]; rfl
  | succ n =>
      rw [guarded, List.replicate_succ, List.cons_append, List.cons_append, tagBody?_eq]
      rfl

theorem tagBody?_escaped {cs : List Char} (h : tagBody? cs = none) :
    tagBody? (escapeFrom 0 cs ++ guarded d close) = none := by
  cases cs with
  | nil => exact List.append_nil (guarded d close) ▸ tagBody?_guarded d close []
  | cons c rest =>
      cases hfound : escapable? (c :: rest) with
      | some m =>
          obtain ⟨hbody, more, hmore⟩ := exists_of_escapable? hfound
          rw [hmore, escapeFrom_tag _ hbody, List.append_assoc]
          exact tagBody?_guarded _ _ _
      | none =>
          rw [escapeFrom_of_none hfound, List.cons_append, tagBody?_eq]
          rw [tagBody?_eq] at h
          refine if_neg fun htag => ?_
          obtain ⟨hstart, hclosed⟩ := Bool.and_eq_true_iff.mp htag
          have hhead := head?_of_escaped (by simpa using hclosed)
          rw [if_pos (by simp [hstart, hhead])] at h
          exact absurd h (by simp)

/-- A character that begins no tag begins none in the escaped text. The backslashes at the end of
a text are left out, since they meet what follows. -/
theorem escapable?_escaped {c : Char} {rest : List Char} (h : escapable? (c :: rest) = none)
    (hother : ∃ e ∈ c :: rest, e ≠ '\\') :
    escapable? (c :: (escapeFrom 0 rest ++ guarded d close)) = none := by
  induction rest generalizing c with
  | nil =>
      obtain ⟨e, he, hne⟩ := hother
      rw [List.mem_singleton.mp he] at hne
      by_cases hbracket : c = '['
      · rw [hbracket, escapable?_bracket, tagBody?_escaped rfl]
        rfl
      · exact escapable?_other hne hbracket _
  | cons c' rest ih =>
      by_cases hbackslash : c = '\\'
      · subst hbackslash
        rw [escapable?_backslash, Option.map_eq_none_iff] at h
        have hother' : ∃ e ∈ c' :: rest, e ≠ '\\' := by
          obtain ⟨e, he, hne⟩ := hother
          exact ⟨e, (List.mem_cons.mp he).resolve_left hne, hne⟩
        rw [escapeFrom_of_none h, List.cons_append, escapable?_backslash, ih h hother']
        rfl
      · by_cases hbracket : c = '['
        · subst hbracket
          rw [escapable?_bracket, Option.map_eq_none_iff] at h
          rw [escapable?_bracket, tagBody?_escaped h]
          rfl
        · exact escapable?_other hbackslash hbracket _

theorem escapeFrom_replicate (n : Nat) :
    escapeFrom 0 (List.replicate n '\\') = List.replicate n '\\' := by
  have hnone : ∀ n, escapable? (List.replicate n '\\') = none := fun n => by
    induction n with
    | zero => rfl
    | succ n ih => rw [List.replicate_succ, escapable?_backslash, ih]; rfl
  induction n with
  | zero => rfl
  | succ n ih => rw [List.replicate_succ, escapeFrom_of_none (hnone (n + 1)), ih]

theorem guarded_escapeFrom (close : List Char) (d : Nat) (cs : List Char) :
    Guarded close (escapeFrom 0 cs ++ guarded d close) := by
  -- on the length, since escaping goes on behind a whole tag
  induction hn : cs.length using Nat.strong_induction_on generalizing cs with
  | _ n ih =>
      subst hn
      cases cs with
      | nil => exact .close d
      | cons c rest =>
          cases hfound : escapable? (c :: rest) with
          | some m =>
              obtain ⟨hbody, more, hmore⟩ := exists_of_escapable? hfound
              have hlt : more.length < (c :: rest).length := by
                rw [hmore, List.length_append, length_guarded]
                omega
              rw [hmore, escapeFrom_tag _ hbody, List.append_assoc]
              exact .tag _ hbody (ih more.length hlt more rfl)
          | none =>
              by_cases hall : ∀ e ∈ c :: rest, e = '\\'
              · -- backslashes at the end join those of the closing tag
                rw [List.eq_replicate_of_mem hall, escapeFrom_replicate, guarded,
                  ← List.append_assoc, List.replicate_append_replicate]
                exact .close _
              · have hother : ∃ e ∈ c :: rest, e ≠ '\\' := by
                  push Not at hall
                  exact hall
                rw [escapeFrom_of_none hfound, List.cons_append]
                exact .char (escapable?_escaped hfound hother) (ih rest.length (by simp) rest rfl)

end

end Formwork.Console.Markup

/-! ### Messages in a colour -/

namespace Formwork.Console

open Markup

/-- A word that is no function of shares is known as a colour or not, and nothing else can be wrong
with it. -/
theorem Style.checkColor_cases {word : String} (h : Style.argument? "rgb" word.toList = none) :
    Style.checkColor word = .ok () ∨ Style.checkColor word = .error .unknown := by
  rw [Style.checkColor, h]
  simp only
  split
  · exact .inl rfl
  · exact .inr rfl

/-- The colours of messages. -/
def messageColors : List String := ["green", "red", "yellow"]

def printedColors : List String := messageColors ++ Stage.all.map Stage.color

theorem mem_printedColors {color : String} (h : color ∈ messageColors) :
    color ∈ printedColors :=
  List.mem_append_left _ h

theorem color_mem_printedColors (s : Stage) : s.color ∈ printedColors := by
  cases s <;> decide

theorem eq_of_mem_printedColors {color : String} (h : color ∈ printedColors) :
    color = "green" ∨ color = "red" ∨ color = "yellow" ∨ color = "bright_cyan" ∨
      color = "bright_yellow" ∨ color = "bright_green" ∨ color = "bright_magenta" ∨
      color = "bright_blue" := by
  simpa [printedColors, messageColors, Stage.all, Stage.color] using h

theorem Style.readOnto_color (s : Style) {color : String} (h : color ∈ printedColors) :
    Style.readOnto s [color] = .ok { s with color := some color } ∨
      Style.readOnto s [color] = .error .unknown := by
  have hcolor : Text.lower color = color ∧ color ≠ "on" ∧ color ≠ "not" ∧ color ≠ "link" ∧
      Mark.ofWord? color = none ∧ Style.argument? "rgb" color.toList = none := by
    rcases eq_of_mem_printedColors h with rfl | rfl | rfl | rfl | rfl | rfl | rfl | rfl <;> decide
  obtain ⟨hlower, hon, hnot, hlink, hmark, hshares⟩ := hcolor
  rw [Style.readOnto, hlower]
  simp only [hmark, if_neg hon, if_neg hnot, if_neg hlink]
  rcases Style.checkColor_cases hshares with hknown | hunknown
  · rw [hknown]
    exact .inl rfl
  · rw [hunknown]
    exact .inr rfl

theorem Style.readOnto_bold (color : String) :
    Style.readOnto {} ["bold", color] = Style.readOnto { marks := [(.bold, true)] } [color] := rfl

/-- A text that is its own canonical name, and that is a style or words that are passed over. -/
theorem canonical_of_read {text : String} {s : Style}
    (hread : Style.read text = .ok s ∨ Style.read text = .error .unknown) (htext : s.text = text)
    (hlower : Text.lower (Text.strip text) = text) :
    canonical text = .ok text ∧ checkStyle text = .ok () := by
  rw [canonical, Style.canonical, checkStyle]
  rcases hread with hread | hread
  · rw [hread]
    exact ⟨congrArg Except.ok htext, rfl⟩
  · rw [hread]
    exact ⟨congrArg Except.ok hlower, rfl⟩

theorem canonical_bold {color : String} (h : color ∈ printedColors) :
    canonical ("bold " ++ color) = .ok ("bold " ++ color) ∧
      checkStyle ("bold " ++ color) = .ok () := by
  have hwords : Text.strip ("bold " ++ color) ≠ "none" ∧
      (Text.words ("bold " ++ color).toList).map String.ofList = ["bold", color] ∧
      Text.lower (Text.strip ("bold " ++ color)) = "bold " ++ color ∧
      (Style.mk [(.bold, true)] (some color) none none).text = "bold " ++ color := by
    rcases eq_of_mem_printedColors h with rfl | rfl | rfl | rfl | rfl | rfl | rfl | rfl <;> decide
  obtain ⟨hnone, hwords, hlower, htext⟩ := hwords
  refine canonical_of_read ?_ htext hlower
  rw [Style.read, if_neg hnone, hwords, Style.readOnto_bold]
  exact Style.readOnto_color _ h

theorem isBody_bold {color : String} (h : color ∈ printedColors) :
    IsBody ("bold " ++ color).toList ∧ IsBody ('/' :: ("bold " ++ color).toList) := by
  rcases eq_of_mem_printedColors h with rfl | rfl | rfl | rfl | rfl | rfl | rfl | rfl <;>
    exact ⟨⟨rfl, List.all_eq_true.mp rfl⟩, ⟨rfl, List.all_eq_true.mp rfl⟩⟩

theorem styleTag_bold {color : String} (h : color ∈ printedColors) :
    StyleTag ("bold " ++ color) := by
  obtain ⟨hcanonical, hcheck⟩ := canonical_bold h
  obtain ⟨hsplit, hclosing, hstrip⟩ :
      splitTag ("bold " ++ color).toList = ("bold " ++ color, none) ∧
      splitTag ('/' :: ("bold " ++ color).toList) = ("/" ++ ("bold " ++ color), none) ∧
      Text.strip ("bold " ++ color) = "bold " ++ color := by
    rcases eq_of_mem_printedColors h with rfl | rfl | rfl | rfl | rfl | rfl | rfl | rfl <;>
      exact ⟨rfl, rfl, rfl⟩
  exact
    { split := hsplit
      splitClosing := hclosing
      head := ⟨'b', "old ".toList ++ color.toList, by simp, by decide, by decide⟩
      strip := hstrip
      canonical := hcanonical
      check := hcheck }

theorem renders_inert {word : String} (htag : StyleTag word) {ps : List Piece}
    (hps : Inert ('/' :: word.toList) ps) (start : Nat) :
    Renders word [⟨start, ⟨word, none⟩⟩] ps := by
  induction ps with
  | nil => exact renders_nil (by simp)
  | cons p ps ih =>
      cases p with
      | plain cs => exact (ih hps).plain cs
      | tag position body =>
          obtain ⟨rfl, rfl⟩ := hps
          exact (renders_nil (by simp)).closing htag start position

theorem guarded_message (color : String) {front : String}
    (hfront : '\\' ∉ front.toList ∧ '[' ∉ front.toList) (text : String) :
    ∃ cs, ("[bold " ++ color ++ "]" ++ (front ++ escape text) ++ "[/bold " ++ color ++ "]").toList =
        guarded 0 ("bold " ++ color).toList ++ cs ∧
      Guarded ('/' :: ("bold " ++ color).toList) cs := by
  let close := '/' :: ("bold " ++ color).toList
  obtain ⟨d, hescape⟩ : ∃ d, (escape text).toList ++ guarded 0 close =
      escapeFrom 0 text.toList ++ guarded d close := by
    rw [escape]
    simp only [String.toList_ofList]
    split
    · exact ⟨1, by simp [guarded]⟩
    · exact ⟨0, rfl⟩
  have hplain : ∀ plain rest : List Char, (∀ c ∈ plain, c ≠ '\\' ∧ c ≠ '[') →
      Guarded close rest → Guarded close (plain ++ rest) := fun plain rest hall hrest => by
    induction plain with
    | nil => exact hrest
    | cons c plain ih =>
        obtain ⟨hbackslash, hbracket⟩ := hall c List.mem_cons_self
        exact .char (escapable?_other hbackslash hbracket _)
          (ih fun e he => hall e (List.mem_cons_of_mem c he))
  refine ⟨front.toList ++ ((escape text).toList ++ guarded 0 close), ?_, ?_⟩
  · simp [guarded, close, String.toList_append]
  · rw [hescape]
    exact hplain _ _ (fun c hc => ⟨fun h => hfront.1 (h ▸ hc), fun h => hfront.2 (h ▸ hc)⟩)
      (guarded_escapeFrom close d text.toList)

theorem wellFormed_message {color front : String} (hcolor : color ∈ printedColors)
    (hfront : '\\' ∉ front.toList ∧ '[' ∉ front.toList) (text : String) :
    WellFormed
      ("[bold " ++ color ++ "]" ++ (front ++ escape text) ++ "[/bold " ++ color ++ "]") := by
  obtain ⟨hopen, hclose⟩ := isBody_bold hcolor
  obtain ⟨cs, hcs, hguarded⟩ := guarded_message color hfront text
  obtain ⟨position, hpieces⟩ := piecesFrom_guarded 0 [] 0 hopen cs
  have htag := styleTag_bold hcolor
  refine Renders.wellFormed htag ?_
  rw [pieces, hcs, hpieces]
  show Renders _ [] (.tag 0 ("bold " ++ color).toList :: piecesFrom position 0 [] cs)
  exact .opening htag (fun start => renders_inert htag (hguarded.inert hclose position []) start) 0

theorem colored_escape_output (color front : String) (hcolor : color ∈ messageColors)
    (hfront : '\\' ∉ front.toList ∧ '[' ∉ front.toList) (text : String) (limit : Nat) :
    ∃ out, (Report.colored color (front ++ escape text)).output limit = .ok out :=
  Item.output_text (wellFormed_message (mem_printedColors hcolor) hfront text) limit

end Formwork.Console
