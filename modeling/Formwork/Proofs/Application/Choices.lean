import Formwork.Proofs.Application.Validation
import Formwork.Proofs.Text.Lines

/-!
Choices in the markup of a field and of its page. A field that lets choose from its options has an
element for each option, in their order and each on its line, with the option as its value and as
its label. The markup is indented twice, and an indented text has blanks wherever a line broke in
it. So an element carries its option as it is exactly if no line breaks in the option; all the
boundaries of lines that Unicode knows count.
-/

namespace Formwork.Application

open Template TypeScript
open Text (shift margin BeginsInLine EndsInLine)

/-! ### Rows -/

/-- A text on a line of its own that is moved right by `n` blanks. -/
def placed (n : Nat) (row : String) : String := margin n ++ shift n row

def inLines (front : String) (rows : List String) (back : String) : String :=
  front ++ "\n" ++ (lines rows ++ back)

theorem begins_margin (n : Nat) (s : String) : BeginsInLine (margin (n + 1) ++ s) :=
  have hblank : BeginsInLine (margin (n + 1)) :=
    Text.begins_iff.mpr ⟨' ', Text.blanks n, by rw [margin, String.toList_ofList]; rfl, by decide⟩
  hblank.append s

theorem begins_placed (n : Nat) (row : String) : BeginsInLine (placed (n + 1) row) :=
  begins_margin n _

theorem ends_placed {n : Nat} {row : String} (h : EndsInLine row) : EndsInLine (placed n row) :=
  h.shift.append _

theorem placed_placed (m n : Nat) {row : String} (h : BeginsInLine row) :
    placed m (placed n row) = placed (m + n) row := by
  have hmargin : (margin n).toList.any Text.isLineBreak = false := by
    rw [margin, String.toList_ofList, List.any_eq_false]
    intro c hc
    rw [List.eq_of_mem_replicate hc]
    decide
  have hmargins : margin m ++ margin n = margin (m + n) := by
    rw [← String.toList_inj]
    simp [margin, Text.blanks]
  rw [placed, placed, Text.shift_append _ h.shift, Text.shift_shift, Text.shift_eq_self hmargin,
    ← String.append_assoc, hmargins, placed]

theorem shift_inLines {n : Nat} {front back : String} {rows : List String}
    (hfront : EndsInLine front) (hrows : ∀ row ∈ rows, BeginsInLine row ∧ EndsInLine row)
    (hback : BeginsInLine back) :
    shift n (inLines front rows back) =
      inLines (shift n front) (rows.map (placed n)) (margin n ++ shift n back) := by
  induction rows generalizing front with
  | nil =>
      simp only [inLines, lines_nil, List.map_nil, String.empty_append]
      exact Text.shift_line hfront hback
  | cons row rows ih =>
      obtain ⟨⟨hbegins, hends⟩, hmore⟩ := List.forall_mem_cons.mp hrows
      have hrest : lines (row :: rows) ++ back = inLines row rows back := by
        rw [inLines, lines_cons, String.append_assoc]
      have hbegin : BeginsInLine (inLines row rows back) := by
        rw [inLines, String.append_assoc]
        exact hbegins.append _
      rw [inLines, hrest, Text.shift_line hfront hbegin, ih hends hmore]
      simp only [inLines, List.map_cons, lines_cons, placed, String.append_assoc]

theorem indent_inLines (n : Nat) {front back : String} {rows : List String}
    (hfront : EndsInLine front) (hrows : ∀ row ∈ rows, BeginsInLine row ∧ EndsInLine row)
    (hbegins : BeginsInLine back) (hends : EndsInLine back) :
    Text.indent n (inLines front rows back) =
      inLines (shift n front) (rows.map (placed n)) (margin n ++ shift n back) := by
  have hwhole : EndsInLine (inLines front rows back) := by
    rw [inLines, ← String.append_assoc]
    exact hends.append _
  rw [Text.indent_eq_shift n hwhole.endsOpen, shift_inLines hfront hrows hbegins]

/-! ### Choices -/

/-- How a field shows its choices: the rows in front of them, and what stands around the value and
the label of a choice. -/
structure ChoiceForm where
  before : List String := []
  opening : String
  between : String → String
  closing : String

def ChoiceForm.element (form : ChoiceForm) (option : String) : String :=
  form.opening ++ option ++ form.between option ++ option ++ form.closing

def ChoiceForm.rows (form : ChoiceForm) (options : List String) : List String :=
  form.before ++ options.map form.element

/-- How fields of a kind show their choices, if they have any. A drop-down list has a blank choice
in front of the others. -/
def choiceForm? (name : String) : FieldKind → Option ChoiceForm
  | .dropdown => some
    { before := ["  <option value=\"\">-- Select --</option>"]
      opening := "  <option value=\""
      between := fun _ => "\">"
      closing := "</option>" }
  | .checkboxlist => some
    { opening := "  <label><input type=\"checkbox\" name=\"" ++ name ++ "\" value=\""
      between := fun option => "\" [checked]=\"form.get(" ++ literalText (.str name) ++
        ")?.value?.includes(" ++ literalText (.str option) ++ ")\" (change)=\"toggleOption(" ++
        literalText (.str name) ++ ", " ++ literalText (.str option) ++ ", $event)\" /> "
      closing := "</label>" }
  | .radiobuttonlist => some
    { opening := "  <label><input type=\"radio\" name=\"" ++ name ++ "\" formControlName=\"" ++
        name ++ "\" value=\""
      between := fun _ => "\" /> "
      closing := "</label>" }
  | .textbox | .textarea | .checkbox | .radiobutton => none

/-- The parts of the choices begin and end with characters that are no line breaks. -/
structure ChoiceForm.Sound (form : ChoiceForm) : Prop where
  before : ∀ row ∈ form.before, BeginsInLine row ∧ EndsInLine row
  begins : BeginsInLine form.opening
  opening : EndsInLine form.opening
  between : ∀ option, BeginsInLine (form.between option) ∧ EndsInLine (form.between option)
  closing : BeginsInLine form.closing ∧ EndsInLine form.closing

theorem sound_of_choiceForm? {name : String} {kind : FieldKind} {form : ChoiceForm}
    (h : choiceForm? name kind = some form) : form.Sound := by
  have hquote : ∀ s : String, EndsInLine (s ++ "\" value=\"") := fun s =>
    (by decide : EndsInLine _).append s
  have hlabel : BeginsInLine "</label>" ∧ EndsInLine "</label>" := by decide
  have hnone : ∀ row ∈ ([] : List String), BeginsInLine row ∧ EndsInLine row := by decide
  cases kind <;> cases h
  case dropdown =>
    have hbetween : BeginsInLine "\">" ∧ EndsInLine "\">" := by decide
    exact ⟨by decide, by decide, by decide, fun _ => hbetween, by decide⟩
  case checkboxlist =>
    refine ⟨hnone, ?_, hquote _, fun option => ⟨?_, ?_⟩, hlabel⟩
    · simp only [String.append_assoc]
      exact (by decide : BeginsInLine "  <label><input type=\"checkbox\" name=\"").append _
    · simp only [String.append_assoc]
      exact (by decide : BeginsInLine "\" [checked]=\"form.get(").append _
    · exact (by decide : EndsInLine ", $event)\" /> ").append _
  case radiobuttonlist =>
    have hbetween : BeginsInLine "\" /> " ∧ EndsInLine "\" /> " := by decide
    refine ⟨hnone, ?_, hquote _, fun _ => hbetween, hlabel⟩
    simp only [String.append_assoc]
    exact (by decide : BeginsInLine "  <label><input type=\"radio\" name=\"").append _

theorem ChoiceForm.Sound.placed_element {form : ChoiceForm} (h : form.Sound) (n : Nat)
    (option : String) :
    placed n (form.element option) = margin n ++ (shift n form.opening ++ shift n option ++
      shift n (form.between option) ++ shift n option ++ shift n form.closing) := by
  obtain ⟨hbegins, hends⟩ := h.between option
  rw [placed, ChoiceForm.element, Text.shift_append _ h.closing.1,
    Text.shift_append_of_ends (hends.append _), Text.shift_append _ hbegins,
    Text.shift_append_of_ends h.opening]

theorem ChoiceForm.Sound.rows {form : ChoiceForm} (h : form.Sound) (options : List String) :
    ∀ row ∈ form.rows options, BeginsInLine row ∧ EndsInLine row := by
  refine List.forall_mem_append.mpr ⟨h.before, List.forall_mem_map.mpr fun option _ => ⟨?_, ?_⟩⟩
  · simp only [ChoiceForm.element, String.append_assoc]
    exact h.begins.append _
  · exact h.closing.2.append _

/-! ### Groups with choices -/

namespace FieldGroup

def choicesOpening (g : FieldGroup) : String :=
  match g.kind with
  | .dropdown => "</label>\n<select id=\"" ++ g.name ++ "\" formControlName=\"" ++ g.name ++
      "\" class=\"form-control\">"
  | _ => "</label>\n<div>"

def choicesClosing (g : FieldGroup) : String :=
  match g.kind with
  | .dropdown => "</select>"
  | _ => "</div>"

def front (g : FieldGroup) : String := g.opening ++ g.caption ++ g.choicesOpening

def back (g : FieldGroup) : String := "\n".intercalate (g.choicesClosing :: g.errors)

theorem ends_front (g : FieldGroup) : EndsInLine g.front := by
  refine EndsInLine.append ?_ _
  rw [choicesOpening]
  split
  · exact (by decide : EndsInLine "\" class=\"form-control\">").append _
  · decide

theorem lines_back (g : FieldGroup) :
    lines (g.choicesClosing :: g.errors) = g.back ++ "\n" := by
  rw [back]
  generalize g.choicesClosing = first
  induction g.errors generalizing first with
  | nil => simp
  | cons next rest ih =>
      rw [lines_cons, ih]
      simp [String.intercalate_cons_cons, String.append_assoc]

theorem begins_back (g : FieldGroup) : BeginsInLine g.back := by
  have hclosing : BeginsInLine g.choicesClosing := by
    rw [choicesClosing]
    split <;> decide
  rw [back]
  cases g.errors with
  | nil => simpa using hclosing
  | cons next rest =>
      rw [String.intercalate_cons_cons, String.append_assoc]
      exact hclosing.append _

theorem ends_intercalate {first : String} {rest : List String}
    (h : ∀ t ∈ first :: rest, EndsInLine t) :
    EndsInLine ("\n".intercalate (first :: rest)) := by
  induction rest generalizing first with
  | nil => simpa using h
  | cons next rest ih =>
      rw [String.intercalate_cons_cons]
      exact (ih (List.forall_mem_cons.mp h).2).append _

theorem ends_errorLine (name error message : String) :
    EndsInLine (errorLine name error message) := by
  unfold errorLine
  exact EndsInLine.append (by decide) _

theorem ends_back (g : FieldGroup) : EndsInLine g.back := by
  refine ends_intercalate (List.forall_mem_cons.mpr ⟨?_, List.forall_mem_append.mpr ⟨?_, ?_⟩⟩)
  · rw [choicesClosing]
    split <;> decide
  · intro t ht
    obtain ⟨message, -, rfl⟩ := Option.map_eq_some_iff.mp (Option.mem_toList.mp ht)
    exact ends_errorLine _ _ _
  · intro t ht
    obtain ⟨message, -, rfl⟩ := Option.map_eq_some_iff.mp (Option.mem_toList.mp ht)
    exact ends_errorLine _ _ _

theorem dropdownChoice_eq {name : String} {form : ChoiceForm}
    (h : choiceForm? name .dropdown = some form) : dropdownChoice = form.element := by
  cases h
  rfl

theorem checkboxChoice_eq {name : String} {form : ChoiceForm}
    (h : choiceForm? name .checkboxlist = some form) : checkboxChoice name = form.element := by
  cases h
  funext option
  unfold checkboxChoice ChoiceForm.element
  simp only [String.append_assoc]

theorem radioChoice_eq {name : String} {form : ChoiceForm}
    (h : choiceForm? name .radiobuttonlist = some form) : radioChoice name = form.element := by
  cases h
  funext option
  unfold radioChoice ChoiceForm.element
  simp only [String.append_assoc]

/-- The options of a field are those of its group, and nothing else of it depends on them. -/
theorem ofField_options (f : Field) (options : List String) :
    ofField { f with options } = { ofField f with options } := by
  simp only [ofField]
  rfl

section

variable {g : FieldGroup} {form : ChoiceForm} (h : choiceForm? g.name g.kind = some form)

include h

theorem closing_eq : g.closing = g.choicesOpening ++ "\n" ++ (lines (form.rows g.options) ++
    (g.choicesClosing ++ "\n")) := by
  have hselect : "</label>\n<select id=\"" = "</label>" ++ ("\n" ++ "<select id=\"") := rfl
  have hdiv : "</label>\n<div>" = "</label>" ++ ("\n" ++ "<div>") := rfl
  obtain ⟨kind, name, options, _, _, _⟩ := g
  unfold closing choicesOpening choicesClosing
  cases kind
  case dropdown =>
    have hbefore : form.before = ["  <option value=\"\">-- Select --</option>"] := by
      cases h
      rfl
    simp only [ChoiceForm.rows, hbefore, ← dropdownChoice_eq h, List.cons_append, List.nil_append,
      lines_cons, lines_nil, hselect, String.append_assoc, String.append_empty]
  case checkboxlist =>
    have hbefore : form.before = [] := by
      cases h
      rfl
    simp only [ChoiceForm.rows, hbefore, ← checkboxChoice_eq h, List.nil_append, lines_cons,
      lines_nil, hdiv, String.append_assoc, String.append_empty]
  case radiobuttonlist =>
    have hbefore : form.before = [] := by
      cases h
      rfl
    simp only [ChoiceForm.rows, hbefore, ← radioChoice_eq h, List.nil_append, lines_cons,
      lines_nil, hdiv, String.append_assoc, String.append_empty]
  all_goals cases h

theorem body_eq : g.body = inLines g.front (form.rows g.options) g.back ++ "\n" := by
  have hback := g.lines_back
  rw [lines_cons] at hback
  rw [body, closing_eq h, inLines, front]
  simp only [String.append_assoc] at hback ⊢
  rw [hback]

/-- The markup of a group has a row for each choice, between texts that do not depend on the
options. -/
theorem text_options : ∃ front back, EndsInLine front ∧ BeginsInLine back ∧ EndsInLine back ∧
    ∀ options : List String, ({ g with options } : FieldGroup).text =
      inLines front ((form.rows options).map (placed 2)) back := by
  refine ⟨"<div class=\"form-group\">\n  " ++ shift 2 g.front,
    margin 2 ++ shift 2 g.back ++ "\n</div>", g.ends_front.shift.append _,
    (begins_margin 1 _).append _, EndsInLine.append (by decide) _, fun options => ?_⟩
  have hbody : ({ g with options } : FieldGroup).body =
      inLines g.front (form.rows options) g.back ++ "\n" := body_eq h
  have hsound := (sound_of_choiceForm? h).rows options
  obtain ⟨cs, c, hend, hc⟩ := Text.ends_iff.mp g.ends_back
  have hnewline : c ≠ '\n' := by
    rintro rfl
    exact absurd hc (by decide)
  have htrim : Text.dropFinalNewlines ({ g with options } : FieldGroup).body =
      inLines g.front (form.rows options) g.back := by
    rw [hbody, inLines, ← String.append_assoc, String.append_assoc]
    exact dropFinalNewlines_line _ _ hend hnewline
  have hopening : "<div class=\"form-group\">\n  " =
      "<div class=\"form-group\">" ++ ("\n" ++ "  ") := rfl
  rw [text, htrim, indent_inLines 2 g.ends_front hsound g.begins_back g.ends_back, hopening]
  simp only [inLines, lines_cons, lines_nil, String.append_assoc, String.append_empty]

theorem column_options (columnClass : String) : ∃ front back, ∀ options : List String,
    FormPage.column columnClass { g with options } =
      inLines front ((form.rows options).map (placed 8)) back := by
  obtain ⟨front, back, hfront, hbegins, hends, htext⟩ := text_options h
  refine ⟨"    <div class=\"" ++ columnClass ++ "\">\n      " ++ shift 6 front,
    margin 6 ++ shift 6 back ++ "\n    </div>", fun options => ?_⟩
  have hsound := (sound_of_choiceForm? h).rows options
  have hrows : ∀ row ∈ (form.rows options).map (placed 2), BeginsInLine row ∧ EndsInLine row :=
    List.forall_mem_map.mpr fun row hrow => ⟨begins_placed 1 row, ends_placed (hsound row hrow).2⟩
  have hplaced : ((form.rows options).map (placed 2)).map (placed 6) =
      (form.rows options).map (placed 8) := by
    rw [List.map_map]
    exact List.map_congr_left fun row hrow => placed_placed 6 2 (hsound row hrow).1
  unfold FormPage.column
  rw [htext, indent_inLines 6 hfront hrows hbegins hends, hplaced]
  simp only [inLines, String.append_assoc]

end

end FieldGroup

theorem lines_append (rows more : List String) :
    lines (rows ++ more) = lines rows ++ lines more := by
  rw [lines, List.map_append, String.join_append]
  rfl

theorem FormPage.exists_inLines (p : FormPage) (before after : List FieldGroup)
    (front back : String) : ∃ pageFront pageBack, ∀ (g : FieldGroup) (rows : List String),
      column p.columnClass g = inLines front rows back →
        ({ p with groups := before ++ g :: after } : FormPage).text =
          inLines pageFront rows pageBack := by
  refine ⟨lines ["<div class=\"container\">",
      "  <form [formGroup]=\"form\" (ngSubmit)=\"onSubmit()\" class=\"" ++ p.formClass ++ "\">"] ++
      lines (before.map (column p.columnClass)) ++ front,
    back ++ "\n" ++ lines (after.map (column p.columnClass)) ++
      lines ["    <div class=\"" ++ p.actionsClass ++ "\">"] ++ lines (p.buttons.map button) ++
      lines ["    </div>", "  </form>", "</div>"], fun g rows hcolumn => ?_⟩
  unfold text
  simp only
  rw [List.map_append, List.map_cons, hcolumn, lines_append, lines_cons (inLines front rows back)]
  simp only [inLines, String.append_assoc]

end Formwork.Application

namespace Formwork

open Application
open Text (shift margin)

/-- The choices of a field, in its markup and on its page. Between texts that do not depend on the
options there is a row for each option, in their order and behind the blank choice of a drop-down
list; the page has the same rows, further to the right. The element of an option is moved part by
part, and carries the option as it is, as its value and as its label, exactly if no line breaks in
the option. -/
theorem Field.choices_in_order (f : Field) {form : ChoiceForm}
    (h : choiceForm? f.name f.kind = some form) :
    (∃ front back, ∀ options : List String,
      ({ f with options } : Field).markup =
        .ok (inLines front ((form.rows options).map (placed 2)) back)) ∧
    (∀ (c : Component) (layout : Layout) (before after : List Field), ∃ front back,
      ∀ options : List String,
        ({ c with fields := before ++ { f with options } :: after } : Component).markup layout =
          Number.limited Template.tooLong layout.isWritable
            (inLines front ((form.rows options).map (placed 8)) back)) ∧
    ∀ n > 0, ∀ option : String,
      placed n (form.element option) = margin n ++ (shift n form.opening ++ shift n option ++
        shift n (form.between option) ++ shift n option ++ shift n form.closing) ∧
      (shift n option = option ↔ option.toList.any Text.isLineBreak = false) := by
  -- what stands around the choices comes from the name, the kind and the constraints of the field
  obtain ⟨g, hgroup, hform⟩ : ∃ g : FieldGroup,
      (∀ options, FieldGroup.ofField { f with options } = { g with options }) ∧
        choiceForm? g.name g.kind = some form := by
    have hkind : (FieldGroup.ofField f).kind = f.kind := by simp only [FieldGroup.ofField]
    have hname : (FieldGroup.ofField f).name = f.name := rfl
    exact ⟨FieldGroup.ofField f, FieldGroup.ofField_options f, by rw [hkind, hname, h]⟩
  refine ⟨?markup, fun c layout before after => ?page, fun n hn option =>
    ⟨(sound_of_choiceForm? h).placed_element n option, Text.shift_eq_self_iff hn option⟩⟩
  case markup =>
    obtain ⟨front, back, -, -, -, htext⟩ := FieldGroup.text_options hform
    refine ⟨front, back, fun options => ?_⟩
    rw [fieldMarkup_eq, hgroup, htext]
  case page =>
    obtain ⟨front, back, hcolumn⟩ := FieldGroup.column_options hform layout.columnText
    obtain ⟨pageFront, pageBack, hpage⟩ := (FormPage.ofComponent c layout).exists_inLines
      (before.map FieldGroup.ofField) (after.map FieldGroup.ofField) front back
    refine ⟨pageFront, pageBack, fun options => ?_⟩
    have hofComponent : FormPage.ofComponent
        { c with fields := before ++ { f with options } :: after } layout =
        { FormPage.ofComponent c layout with
          groups := before.map FieldGroup.ofField ++ { g with options } ::
            after.map FieldGroup.ofField } := by
      rw [FormPage.ofComponent, List.map_append, List.map_cons, hgroup, FormPage.ofComponent]
    rw [formPage_eq, hofComponent, hpage _ _ (hcolumn options)]

def country : Field :=
  { name := "country", declaredKind := "dropdown", options := ["USA", "a\nb"] }

/-- An option of two lines is no longer what it was, and the other one is. -/
theorem choices_in_order_country : ∃ form front back,
    choiceForm? country.name country.kind = some form ∧
      country.markup = .ok (inLines front ((form.rows ["USA", "a\nb"]).map (placed 2)) back) ∧
      shift 2 "USA" = "USA" ∧ shift 2 "a\nb" ≠ "a\nb" := by
  have hkind : country.kind = .dropdown := by decide
  obtain ⟨form, hform⟩ : ∃ form, choiceForm? country.name country.kind = some form := by
    rw [hkind]
    exact ⟨_, rfl⟩
  obtain ⟨⟨front, back, hmarkup⟩, -, hchoice⟩ := Field.choices_in_order country hform
  refine ⟨form, front, back, hform, hmarkup ["USA", "a\nb"], ?_, ?_⟩
  · exact (hchoice 2 (by decide) "USA").2.mpr (by decide)
  · exact fun h => absurd ((hchoice 2 (by decide) "a\nb").2.mp h) (by decide)

end Formwork
