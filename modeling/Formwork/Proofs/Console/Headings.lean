import Formwork.Proofs.Console.Escape

/-!
What can be shown whatever a run is about: the headings of its stages, and texts without brackets,
in which no tag can be read, alone or between the tags of a style.
-/

namespace Formwork.Console

open Markup

/-! ### Texts without brackets -/

theorem Markup.escapable?_eq_none {cs : List Char} (h : '[' ∉ cs) : escapable? cs = none := by
  cases hfound : escapable? cs with
  | none => rfl
  | some m =>
      obtain ⟨-, rest, rfl⟩ := exists_of_escapable? hfound
      exact absurd (by simp [guarded]) h

theorem Markup.piecesFrom_of_not_mem (position : Nat) (plain : List Char) {cs : List Char}
    (h : '[' ∉ cs) : piecesFrom position 0 plain cs = flush (cs.reverse ++ plain) := by
  induction cs generalizing position plain with
  | nil => rfl
  | cons c cs ih =>
      rw [piecesFrom, if_neg (Nat.lt_irrefl 0), escapable?_eq_none h]
      show piecesFrom (position + 1) 0 (c :: plain) cs = _
      rw [ih (position + 1) (c :: plain) fun hmem => h (List.mem_cons_of_mem c hmem),
        List.reverse_cons, List.append_assoc, List.singleton_append]

theorem Markup.wellFormed_of_not_mem {markup : String} (h : '[' ∉ markup.toList) :
    WellFormed markup := by
  rw [WellFormed, render, pieces, piecesFrom_of_not_mem 0 [] h, flush]
  split
  · exact ⟨_, rfl, by simp⟩
  · exact ⟨_, rfl, by simp⟩

/-! ### Texts without brackets between tags -/

namespace Markup

theorem piecesFrom_append_of_plain {cs : List Char} (h : ∀ c ∈ cs, c ≠ '\\' ∧ c ≠ '[')
    (position : Nat) (plain rest : List Char) :
    piecesFrom position 0 plain (cs ++ rest) =
      piecesFrom (position + cs.length) 0 (cs.reverse ++ plain) rest := by
  induction cs generalizing position plain with
  | nil => rfl
  | cons c cs ih =>
      obtain ⟨hbackslash, hbracket⟩ := h c List.mem_cons_self
      rw [List.cons_append, piecesFrom, if_neg (Nat.lt_irrefl 0),
        escapable?_other hbackslash hbracket]
      show piecesFrom (position + 1) 0 (c :: plain) (cs ++ rest) = _
      rw [ih (fun d hd => h d (List.mem_cons_of_mem c hd)), List.length_cons, List.reverse_cons,
        List.append_assoc, List.singleton_append, Nat.add_right_comm, Nat.add_assoc]

theorem escapable?_append {cs : List Char} (h : '[' ∉ cs) (hother : ∃ c ∈ cs, c ≠ '\\')
    (rest : List Char) : escapable? (cs ++ rest) = none := by
  induction cs with
  | nil => exact absurd hother (by simp)
  | cons c cs ih =>
      by_cases hc : c = '\\'
      · subst hc
        have hmore : ∃ d ∈ cs, d ≠ '\\' := by simpa using hother
        rw [List.cons_append, escapable?_backslash,
          ih (fun hmem => h (List.mem_cons_of_mem _ hmem)) hmore]
        rfl
      · exact escapable?_other hc (fun hbracket => h (hbracket ▸ List.mem_cons_self)) _

/-- A text without brackets before a tag: backslashes at its end are read together with the tag. -/
theorem piecesFrom_append_guarded {cs body : List Char} (h : '[' ∉ cs) (hbody : IsBody body)
    (n position : Nat) (plain rest : List Char) :
    ∃ plain' m position' position'', piecesFrom position 0 plain (cs ++ (guarded n body ++ rest)) =
      flush plain' ++ ((⟨m, body⟩ : Escapable).pieces position' ++
        piecesFrom position'' 0 [] rest) := by
  induction cs generalizing position plain with
  | nil =>
      obtain ⟨position', hpieces⟩ := piecesFrom_guarded position plain n hbody rest
      exact ⟨plain, n, position, position', by rw [List.nil_append, hpieces, List.append_assoc]⟩
  | cons c cs ih =>
      by_cases hother : ∃ d ∈ c :: cs, d ≠ '\\'
      case pos =>
        obtain ⟨plain', m, position', position'', hpieces⟩ :=
          ih (fun hmem => h (List.mem_cons_of_mem c hmem)) (position + 1) (c :: plain)
        refine ⟨plain', m, position', position'', ?_⟩
        rw [List.cons_append, piecesFrom, if_neg (Nat.lt_irrefl 0), ← List.cons_append,
          escapable?_append h hother]
        exact hpieces
      case neg =>
        -- nothing but backslashes
        have hall : c :: cs = List.replicate (cs.length + 1) '\\' :=
          List.eq_replicate_iff.mpr ⟨rfl, fun d hd => by_contra fun hne => hother ⟨d, hd, hne⟩⟩
        have hguarded : c :: cs ++ (guarded n body ++ rest) =
            guarded (cs.length + 1 + n) body ++ rest := by
          simp only [hall, guarded, ← List.replicate_append_replicate, List.append_assoc]
        obtain ⟨position', hpieces⟩ :=
          piecesFrom_guarded position plain (cs.length + 1 + n) hbody rest
        exact ⟨plain, cs.length + 1 + n, position, position', by
          rw [hguarded, hpieces, List.append_assoc]⟩

theorem Renders.closing_pieces {word : String} {opened : List OpenTag} {ps : List Piece}
    (htag : StyleTag word) {start : Nat} (hclosed : Renders word opened ps)
    (hopen : Renders word (⟨start, ⟨word, none⟩⟩ :: opened) ps) (m position : Nat) :
    Renders word (⟨start, ⟨word, none⟩⟩ :: opened)
      ((⟨m, '/' :: word.toList⟩ : Escapable).pieces position ++ ps) := by
  have hlast : Renders word (⟨start, ⟨word, none⟩⟩ :: opened)
      ((if m % 2 = 1 then .plain (⟨m, '/' :: word.toList⟩ : Escapable).tag
        else .tag (position + m) ('/' :: word.toList)) :: ps) := by
    split
    · exact hopen.plain _
    · exact hclosed.closing htag start _
  rw [Escapable.pieces, List.append_assoc]
  split
  · exact hlast.plain _
  · exact hlast

/-- A text without brackets in the tags of a style, between two others, is well formed. -/
theorem wellFormed_tagged {word markup : String} (htag : StyleTag word)
    (hbody : IsBody word.toList ∧ IsBody ('/' :: word.toList)) {front inner back : List Char}
    (hfront : ∀ c ∈ front, c ≠ '\\' ∧ c ≠ '[') (hinner : '[' ∉ inner) (hback : '[' ∉ back)
    (hmarkup : markup.toList =
      front ++ (guarded 0 word.toList ++ (inner ++ (guarded 0 ('/' :: word.toList) ++ back)))) :
    WellFormed markup := by
  obtain ⟨position, hopening⟩ := piecesFrom_guarded (0 + front.length) (front.reverse ++ []) 0
    hbody.1 (inner ++ (guarded 0 ('/' :: word.toList) ++ back))
  obtain ⟨plain, m, position', position'', hclosing⟩ :=
    piecesFrom_append_guarded hinner hbody.2 0 position [] back
  have hrest : ∀ opened : List OpenTag, (∀ o ∈ opened, o.tag = ⟨word, none⟩) →
      Renders word opened (piecesFrom position'' 0 [] back) := fun opened hopened => by
    rw [piecesFrom_of_not_mem position'' [] hback, ← List.append_nil (flush _)]
    exact (renders_nil hopened).flush _
  refine Renders.wellFormed htag ?_
  rw [pieces, hmarkup, piecesFrom_append_of_plain hfront, hopening, hclosing, List.append_assoc]
  refine Renders.flush (.opening htag (fun start => ?_) _) _
  exact .flush (.closing_pieces htag (hrest [] (by simp)) (hrest _ (by simp)) m position') plain

theorem styleTag_emphasis : StyleTag "bold" where
  split := rfl
  splitClosing := rfl
  head := ⟨'b', "old".toList, rfl, by decide, by decide⟩
  strip := rfl
  canonical := rfl
  check := rfl

theorem styleTag_green : StyleTag "green" := by
  have hread : Style.read "green" = Style.readOnto {} ["green"] := by
    have hwords : (Text.words "green".toList).map String.ofList = ["green"] := rfl
    rw [Style.read, if_neg (by decide), hwords]
  have hgreen : "green" ∈ printedColors := mem_printedColors List.mem_cons_self
  have hcolor := Style.readOnto_color {} hgreen
  rw [← hread] at hcolor
  obtain ⟨hcanonical, hcheck⟩ := canonical_of_read hcolor (by decide) (by decide)
  exact
    { split := rfl
      splitClosing := rfl
      head := ⟨'g', "reen".toList, rfl, by decide, by decide⟩
      strip := rfl
      canonical := hcanonical
      check := hcheck }

theorem wellFormed_emphasis {markup : String} {front inner back : List Char}
    (hfront : ∀ c ∈ front, c ≠ '\\' ∧ c ≠ '[') (hinner : '[' ∉ inner) (hback : '[' ∉ back)
    (hmarkup : markup.toList =
      front ++ ("[bold]".toList ++ (inner ++ ("[/bold]".toList ++ back)))) : WellFormed markup :=
  wellFormed_tagged styleTag_emphasis
    ⟨⟨rfl, List.all_eq_true.mp rfl⟩, ⟨rfl, List.all_eq_true.mp rfl⟩⟩ hfront hinner hback hmarkup

theorem wellFormed_noIssues : WellFormed "  [green]+[/green] No issues found" := by
  have hmarkup : "  [green]+[/green] No issues found".toList =
      "  ".toList ++ ("[green]".toList ++ (['+'] ++
        ("[/green]".toList ++ " No issues found".toList))) := rfl
  exact wellFormed_tagged styleTag_green
    ⟨⟨rfl, List.all_eq_true.mp rfl⟩, ⟨rfl, List.all_eq_true.mp rfl⟩⟩ (by simp) (by decide)
    (by decide) hmarkup

end Markup

end Formwork.Console

namespace Formwork

open Console

theorem Report.stage_output (s : Stage) (limit : Nat) :
    ∀ item ∈ Report.stage s, ∃ out, item.output limit = .ok out := by
  let title := " Stage " ++ toString s.number ++ ": " ++ Text.upper s.name ++ " "
  have htitle : '\\' ∉ title.toList ∧ '[' ∉ title.toList := by cases s <;> decide
  have hrule : "[bold " ++ s.color ++ "]" ++ (title ++ Markup.escape "") ++
      "[/bold " ++ s.color ++ "]" =
      "[bold " ++ s.color ++ "] Stage " ++ toString s.number ++ ": " ++ Text.upper s.name ++
        " [/bold " ++ s.color ++ "]" := by
    cases s <;> rfl
  have hwell := wellFormed_message (color_mem_printedColors s) htitle ""
  rw [hrule] at hwell
  rw [Report.stage, Report.headingIn, List.forall_mem_cons, List.forall_mem_singleton]
  exact ⟨Item.output_blank limit, Item.output_rule hwell limit⟩

end Formwork
