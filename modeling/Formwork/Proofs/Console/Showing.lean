import Formwork.Proofs.Console.Tags
import Formwork.Proofs.Outcome

/-!
What is shown. Markup that is well formed is shown on a console of any width, wherever it stands: as
a text, in a rule or a panel, or in the title and the cells of a table.
-/

namespace Formwork.Console

open Markup

variable {α : Type}

/-- An outcome without a fault. -/
abbrev Faultless (x : Except RenderError α) : Prop := Ends (fun _ => True) (fun _ => False) x

theorem Faultless.exists_ok {x : Except RenderError α} (h : Faultless x) : ∃ a, x = .ok a := by
  cases x with
  | ok a => exact ⟨a, rfl⟩
  | error f => exact h.elim

/-! ### Styles -/

theorem Rendered.resolve_eq {r : Rendered}
    (hstyles : ∀ style ∈ r.styles, checkStyle style.2 = .ok ()) : r.resolve = .ok r.text := by
  have hforM : ∀ styles : List (Nat × String), (∀ style ∈ styles, checkStyle style.2 = .ok ()) →
      styles.forM (fun style => checkStyle style.2) = .ok () := fun styles h => by
    induction styles with
    | nil => rfl
    | cons style styles ih =>
        show (do checkStyle style.2; styles.forM fun style => checkStyle style.2) = _
        rw [h style List.mem_cons_self]
        exact ih fun s hs => h s (List.mem_cons_of_mem style hs)
  rw [Rendered.resolve, hforM r.styles hstyles]
  rfl

namespace Markup.WellFormed

variable {markup : String}

theorem render (h : WellFormed markup) : Faultless (Markup.render markup) := by
  obtain ⟨r, hr, -⟩ := h
  rw [hr]
  exact trivial

theorem resolve_bind {f : Styled → Except RenderError α} (h : WellFormed markup)
    (hf : ∀ text, Faultless (f text)) :
    Faultless (Markup.render markup >>= fun r => r.resolve >>= f) := by
  obtain ⟨r, hr, hstyles⟩ := h
  rw [hr]
  show Faultless (r.resolve >>= f)
  rw [Rendered.resolve_eq hstyles]
  exact hf r.text

end Markup.WellFormed

/-! ### Tables -/

namespace Table

theorem faultless_columnWidth (room : Nat) {texts : List String}
    (h : ∀ text ∈ texts, WellFormed text) : Faultless (columnWidth room texts) := by
  refine Ends.ite trivial (Ends.bind (P := fun _ => True) (Ends.mapM fun text htext => ?_)
    fun _ _ => trivial)
  exact (h text htext).render.bind fun _ _ => trivial

theorem faultless_columnWidths (room : Nat) {items values : List String}
    (hitems : ∀ text ∈ items, WellFormed text) (hvalues : ∀ text ∈ values, WellFormed text) :
    Faultless (columnWidths room items values) := by
  refine (faultless_columnWidth room hitems).bind fun _ _ =>
    (faultless_columnWidth room hvalues).bind fun _ _ => Ends.ite trivial ?_
  exact (faultless_columnWidth _ hitems).bind fun _ _ =>
    (faultless_columnWidth _ hvalues).bind fun _ _ => trivial

theorem faultless_cellLines (wraps : Bool) (limit : Nat) {markup : String}
    (h : WellFormed markup) : Faultless (cellLines wraps limit markup) :=
  Ends.ite trivial (h.resolve_bind fun _ => trivial)

theorem faultless_rowLines (bar : Char) (widths : Nat × Nat) {row : String × String}
    (hitem : WellFormed row.1) (hvalue : WellFormed row.2) :
    Faultless (rowLines bar widths row) :=
  (faultless_cellLines false widths.1 hitem).bind fun _ _ =>
    (faultless_cellLines true widths.2 hvalue).bind fun _ _ => trivial

theorem faultless_titleLines (limit : Nat) {title : String} (h : WellFormed title) :
    Faultless (titleLines limit (.str title)) := by
  rw [titleLines.eq_def]
  cases htruthy : (Value.str title).truthy with
  | false => exact trivial
  | true => exact h.resolve_bind fun _ => trivial

theorem wellFormed_headings : WellFormed headings.1 ∧ WellFormed headings.2 :=
  ⟨⟨_, rfl, by simp⟩, ⟨_, rfl, by simp⟩⟩

theorem faultless_lines (limit : Nat) {title : String} {rows : List (String × String)}
    (htitle : WellFormed title) (hrows : ∀ row ∈ rows, WellFormed row.1 ∧ WellFormed row.2) :
    Faultless (lines limit ⟨.str title, rows⟩) := by
  obtain ⟨hitem, hvalue⟩ := wellFormed_headings
  have hcolumn : ∀ (part : String × String → String), WellFormed (part headings) →
      (∀ row ∈ rows, WellFormed (part row)) →
      ∀ text ∈ part headings :: rows.map part, WellFormed text := fun part hheading hparts => by
    rw [List.forall_mem_cons]
    exact ⟨hheading, List.forall_mem_map.mpr hparts⟩
  refine (faultless_columnWidths _ (hcolumn (·.1) hitem fun row hrow => (hrows row hrow).1)
    (hcolumn (·.2) hvalue fun row hrow => (hrows row hrow).2)).bind fun widths _ => ?_
  refine (faultless_titleLines _ htitle).bind fun _ _ => ?_
  refine (faultless_rowLines '┃' widths hitem hvalue).bind fun _ _ => ?_
  refine Ends.bind (P := fun _ => True) (Ends.mapM fun row hrow => ?_) fun _ _ => trivial
  exact faultless_rowLines '│' widths (hrows row hrow).1 (hrows row hrow).2

end Table

/-! ### Things to print -/

namespace Item

variable {markup : String}

theorem output_of_rawLines {item : Item} {limit : Nat} (h : Faultless (item.rawLines limit)) :
    ∃ out, item.output limit = .ok out := by
  obtain ⟨lines, hlines⟩ := h.exists_ok
  rw [Item.output, Item.lines, hlines]
  cases item <;> exact ⟨_, rfl⟩

theorem faultless_textLines (limit : Nat) (h : WellFormed markup) :
    Faultless (textLines limit markup) :=
  h.resolve_bind fun _ => trivial

theorem output_text (h : WellFormed markup) (limit : Nat) :
    ∃ out, (Item.text markup).output limit = .ok out := by
  refine output_of_rawLines ?_
  exact Ends.ite (h.render.map fun _ _ => trivial) (faultless_textLines limit h)

theorem output_rule (h : WellFormed markup) (limit : Nat) :
    ∃ out, (Item.rule markup).output limit = .ok out := by
  obtain ⟨r, hr, hstyles⟩ := h
  refine output_of_rawLines (Ends.ite trivial ?_)
  simp only [ruleLines, hr, Rendered.resolve_eq hstyles, bind, Except.bind]
  exact Ends.ite trivial trivial

theorem output_panel (h : WellFormed markup) (limit : Nat) :
    ∃ out, (Item.panel markup).output limit = .ok out := by
  refine output_of_rawLines (Ends.ite trivial ?_)
  show Faultless (panelLines limit markup)
  rw [panelLines]
  split
  · exact trivial
  · exact (faultless_textLines _ h).bind fun _ _ => trivial

theorem output_table {title : String} {rows : List (String × String)} (htitle : WellFormed title)
    (hrows : ∀ row ∈ rows, WellFormed row.1 ∧ WellFormed row.2) (limit : Nat) :
    ∃ out, (Item.table ⟨.str title, rows⟩).output limit = .ok out := by
  refine output_of_rawLines ?_
  exact Ends.ite trivial (Table.faultless_lines limit htitle hrows)

theorem output_blank (limit : Nat) : ∃ out, Item.blank.output limit = .ok out :=
  output_of_rawLines (Ends.ite trivial trivial)

def fault? (limit : Nat) (item : Item) : Option RenderError :=
  match item.output limit with
  | .ok _ => none
  | .error f => some f

theorem fault?_eq_none {limit : Nat} {item : Item} (h : ∃ out, item.output limit = .ok out) :
    item.fault? limit = none := by
  obtain ⟨out, hout⟩ := h
  rw [fault?, hout]

theorem fault?_text_of_render {f : RenderError} (h : render markup = .error f) (limit : Nat) :
    (Item.text markup).fault? limit = some f := by
  have hlines : (Item.text markup).rawLines limit = .error f := by
    rw [rawLines]
    split
    · rw [h]
      rfl
    · simp only [textLines, h]
      rfl
  rw [fault?, Item.output, Item.lines, hlines]
  rfl

end Item

/-- Why the first of the things that are not shown is not. -/
def firstFault? (limit : Nat) (items : List Item) : Option RenderError :=
  items.findSome? (Item.fault? limit)

theorem firstFault?_append (limit : Nat) (items items' : List Item) :
    firstFault? limit (items ++ items') =
      (firstFault? limit items).or (firstFault? limit items') :=
  List.findSome?_append

theorem firstFault?_eq_none {limit : Nat} {items : List Item}
    (h : ∀ item ∈ items, ∃ out, item.output limit = .ok out) : firstFault? limit items = none :=
  List.findSome?_eq_none_iff.mpr fun item hitem => Item.fault?_eq_none (h item hitem)

end Formwork.Console
