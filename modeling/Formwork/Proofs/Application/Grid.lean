import Formwork.Proofs.Application.StyleSheet
import Formwork.Proofs.Application.Validation
import Formwork.Proofs.Json.RoundTrip

/-!
The grid that the fields of a form stand in, for every number of columns. The class around the
fields is written into the markup, and the rules for it into the style sheet, each made from the
number on its own. On the Bootstrap grid the class has a width from 1 to 12, or none, unless there
are more columns than the grid has. On the custom grid the style sheet has one rule for the class,
and that rule divides by the number of columns, whatever it is.
-/

namespace Formwork.Application

open Template StyleSheet

/-! ### Numbers -/

theorem head?_toString_int (n : Int) : (toString n).toList.head? = some '-' ↔ n < 0 := by
  rw [Json.toList_toString_int]
  by_cases h : n < 0
  · simp [h]
  · rw [if_neg h, List.nil_append]
    refine iff_of_false (fun hhead => ?_) h
    have hdigit := Json.isDigit_of_mem_toDigits (List.mem_of_head? hhead)
    exact absurd hdigit (by decide)

theorem not_isBlank_of_mem_toString_int {n : Int} {c : Char} (h : c ∈ (toString n).toList) :
    Text.isBlank c = false := by
  rcases Json.mem_toString_int h with rfl | hdigit
  · decide
  · have hrange : 48 ≤ c.toNat ∧ c.toNat ≤ 57 := by
      simpa [Char.isDigit, UInt32.le_iff_toNat_le] using hdigit
    simp only [Text.isBlank, Bool.or_eq_false_iff, Bool.and_eq_false_iff, decide_eq_false_iff_not,
      beq_eq_false_iff_ne]
    omega

theorem isUnmarked_toString_int (n : Int) : isUnmarked (toString n).toList = true := by
  refine List.all_eq_true.mpr fun c hc => ?_
  rcases Json.mem_toString_int hc with rfl | hdigit
  · rfl
  · have hother : ∀ mark : Char, mark.isDigit = false → (c == mark) = false := fun mark hmark =>
      beq_eq_false_iff_ne.mpr fun heq => Bool.false_ne_true (hmark.symm.trans (heq ▸ hdigit))
    rw [isMark, hother '\x7b' rfl, hother '\x7d' rfl, hother ':' rfl, hother ';' rfl]
    rfl

theorem toString_int_injective : Function.Injective (toString : Int → String) := by
  intro n m h
  have hsign : n < 0 ↔ m < 0 := by rw [← head?_toString_int, h, head?_toString_int]
  have hdigits : Nat.toDigits 10 n.natAbs = Nat.toDigits 10 m.natAbs := by
    have hchars := congrArg String.toList h
    rw [Json.toList_toString_int, Json.toList_toString_int] at hchars
    simp only [hsign] at hchars
    exact List.append_cancel_left hchars
  have habs : n.natAbs = m.natAbs :=
    calc
      n.natAbs = Nat.ofDigitChars 10 (Nat.toDigits 10 n.natAbs) 0 :=
        Nat.ofDigitChars_ten_toDigits.symm
      _ = Nat.ofDigitChars 10 (Nat.toDigits 10 m.natAbs) 0 := by rw [hdigits]
      _ = m.natAbs := Nat.ofDigitChars_ten_toDigits
  omega

/-! ### The Bootstrap grid -/

/-- A class of the Bootstrap grid for a number of columns: one without a width, or one whose width
fits the grid, in every column if there are no more columns than the grid has. -/
def IsGridClass (columns : Int) (name : String) : Prop :=
  name = "col-md" ∨ ∃ width : Int, name = "col-md-" ++ toString width ∧
    1 ≤ width ∧ width ≤ Layout.gridColumns ∧
    (0 < columns → columns ≤ Layout.gridColumns → width * columns ≤ Layout.gridColumns)

theorem gridClass_narrow {columns : Int} (h : Layout.gridColumns < columns) :
    (Layout.mk true columns).columnText = "col-md-0" := by
  have hpositive : ¬ columns ≤ 0 := by
    rw [Layout.gridColumns] at h
    omega
  have hwidth : Layout.gridColumns / columns = 0 := Int.ediv_eq_zero_of_lt (by decide) h
  rw [Layout.columnText, if_pos rfl, if_neg hpositive, hwidth]
  rfl

theorem isGridClass_iff (columns : Int) :
    IsGridClass columns (Layout.mk true columns).columnText ↔ columns ≤ Layout.gridColumns := by
  constructor
  · intro hclass
    by_contra hmany
    rw [gridClass_narrow (by omega)] at hclass
    rcases hclass with hclass | ⟨width, hclass, hpositive, -⟩
    · exact absurd hclass (by decide)
    · have hzero : width = 0 := by
        have heq : "col-md-" ++ toString (0 : Int) = "col-md-" ++ toString width := hclass
        exact (toString_int_injective (String.append_right_inj _ |>.mp heq)).symm
      omega
  · intro hfew
    rw [Layout.columnText, if_pos rfl]
    by_cases hpositive : columns ≤ 0
    · exact .inl (if_pos hpositive)
    · rw [if_neg hpositive]
      have hmany : 0 < columns := by omega
      refine .inr ⟨Layout.gridColumns / columns, rfl, ?_, ?_, fun _ _ => ?_⟩
      · exact Int.le_ediv_of_mul_le hmany (by omega)
      · exact Int.ediv_le_self _ (by decide)
      · exact Int.ediv_mul_le _ (by omega)

/-! ### The custom grid -/

/-- A number between texts without marks is part of a text without marks. -/
theorem plain_around (front back : String) (n : Int)
    (hfront : ∃ c cs, front.toList = c :: cs ∧ Text.isBlank c = false)
    (hback : (back.toList.getLast?.any Text.isBlank) = false)
    (hmarks : isUnmarked front.toList = true ∧ isUnmarked back.toList = true) :
    Plain (front ++ toString n ++ back) := by
  constructor
  · rw [String.toList_append, String.toList_append, isUnmarked, List.all_append, List.all_append]
    exact Bool.and_eq_true_iff.mpr
      ⟨Bool.and_eq_true_iff.mpr ⟨hmarks.1, isUnmarked_toString_int n⟩, hmarks.2⟩
  · rw [trimmed_of_ends, String.ofList_toList]
    · obtain ⟨c, cs, hchars, hc⟩ := hfront
      simp only [String.toList_append, hchars, List.cons_append, List.head?_cons]
      rintro _ ⟨⟩
      exact hc
    · intro c hc
      rw [String.toList_append, List.getLast?_append, String.toList_append,
        List.getLast?_append] at hc
      have hlast : (toString n).toList.getLast?.isSome = true := by
        rw [Json.toList_toString_int, List.getLast?_append]
        simp [List.getLast?_isSome]
      cases hb : back.toList.getLast? with
      | some d =>
          rw [hb, Option.some_or] at hc
          cases hc
          rwa [hb] at hback
      | none =>
          obtain ⟨d, hd⟩ := Option.isSome_iff_exists.mp hlast
          rw [hb, Option.none_or, hd, Option.some_or] at hc
          cases hc
          exact not_isBlank_of_mem_toString_int (List.mem_of_getLast? hd)

theorem plain_gridRules (columns : Int) : ∀ r ∈ gridRules columns, r.Plain := by
  have hselector : Plain (".custom-col-" ++ toString columns) := by
    have h := plain_around ".custom-col-" "" columns ⟨_, _, rfl, rfl⟩ rfl ⟨rfl, rfl⟩
    rwa [String.append_empty] at h
  have hvalue : Plain ("0 0 calc(100% / " ++ toString columns ++ " - 1rem)") :=
    plain_around _ _ columns ⟨_, _, rfl, rfl⟩ rfl ⟨rfl, rfl⟩
  have hflex : Plain "flex" := by decide
  have hproperties : ∀ value : String, ∀ d ∈ [("flex", value)], Plain d.1 := fun _ =>
    List.forall_mem_singleton.mpr hflex
  have hvalues : ∀ d ∈ [("flex", "0 0 calc(100% / " ++ toString columns ++ " - 1rem)")],
      Plain d.2 := List.forall_mem_singleton.mpr hvalue
  simp only [gridRules, List.forall_mem_cons]
  exact ⟨by decide, ⟨hselector, hproperties _, hvalues⟩, by decide, by decide,
    List.forall_mem_nil _⟩

theorem divisorsIn_columns (columns : Int) :
    divisorsIn (Text.words ("0 0 calc(100% / " ++ toString columns ++ " - 1rem)").toList) =
      [toString columns] := by
  have hwords : Text.words ("0 0 calc(100% / " ++ toString columns ++ " - 1rem)").toList =
      ["0".toList, "0".toList, "calc(100%".toList, ['/'], (toString columns).toList, "-".toList,
        "1rem)".toList] := by
    have hfront : ∀ rest : List Char, Text.words ("0 0 calc(100% / ".toList ++ rest) =
        "0".toList :: "0".toList :: "calc(100%".toList :: ['/'] :: Text.words rest := fun _ => rfl
    have hne : (toString columns).toList ≠ [] := by
      obtain ⟨d, ds, -, h | h⟩ := Json.toString_int_eq_cons columns <;>
      · rw [h]
        exact List.cons_ne_nil _ _
    have hnumber : Text.words ((toString columns).toList ++ " - 1rem)".toList) =
        [(toString columns).toList, "-".toList, "1rem)".toList] :=
      words_append (fun c hc => not_isBlank_of_mem_toString_int hc) hne "- 1rem)".toList
    rw [String.toList_append, String.toList_append, List.append_assoc, hfront, hnumber]
  rw [hwords]
  show [String.ofList (toString columns).toList] = _
  rw [String.ofList_toList]

theorem filter_gridRules (columns : Int) :
    (gridRules columns).filter
        (fun r => r.selector = "." ++ (Layout.mk false columns).columnText) =
      [⟨".custom-col-" ++ toString columns,
        [("flex", "0 0 calc(100% / " ++ toString columns ++ " - 1rem)")]⟩] := by
  have hclass : "." ++ (Layout.mk false columns).columnText =
      ".custom-col-" ++ toString columns := by
    rw [Layout.columnText, if_neg Bool.false_ne_true, ← String.append_assoc]
    rfl
  have hstart : (".custom-col-" ++ toString columns).toList.take 9 = ".custom-c".toList := by
    rw [String.toList_append]
    rfl
  have hother : ∀ s ∈ [".custom-layout", ".custom-actions", ".text-danger"],
      s ≠ ".custom-col-" ++ toString columns := by
    have hstarts : ∀ s ∈ [".custom-layout", ".custom-actions", ".text-danger"],
        s.toList.take 9 ≠ ".custom-c".toList := by decide
    rintro s hs rfl
    exact hstarts _ hs hstart
  simp only [List.forall_mem_cons] at hother
  obtain ⟨hlayout, hactions, hdanger, -⟩ := hother
  rw [hclass]
  simp only [gridRules, List.filter_cons, List.filter_nil, decide_eq_true_eq, hlayout, hactions,
    hdanger, if_false, if_true]

end Formwork.Application

namespace Formwork

open Application StyleSheet

/-- The grid in the files of a component. On the Bootstrap grid the class around the fields is one
of the grid as long as there are no more columns than the grid has. On the custom grid the style
sheet has one rule for the class, which divides by the number of columns and by nothing else. -/
theorem Component.grid_valid_iff (c : Component) (layout : Layout) (base : String) :
    ∃ (module sheet : String) (page : FormPage) (rules : List Rule),
      c.files layout base = Number.limited Template.tooLong (c.isWritable && layout.isWritable)
        [⟨Component.filePath base c.name ++ ".ts", module⟩,
          ⟨Component.filePath base c.name ++ ".html", page.text⟩,
          ⟨Component.filePath base c.name ++ ".css", sheet⟩] ∧
      page.groups = c.fields.map FieldGroup.ofField ∧
      read? sheet = some rules ∧
      (layout.useBootstrap = true →
        (IsGridClass layout.columns page.columnClass ↔ layout.columns ≤ Layout.gridColumns) ∧
        (Layout.gridColumns < layout.columns → page.columnClass = "col-md-0")) ∧
      (layout.useBootstrap = false → ∃ rule,
        (rules.filter fun r => r.selector = "." ++ page.columnClass) = [rule] ∧
        rule.divisors = [toString layout.columns] ∧
        ((∀ text ∈ rule.divisors, ∃ divisor : Int, text = toString divisor ∧ 0 < divisor) ↔
          0 < layout.columns)) := by
  obtain ⟨methods, hmodule⟩ := componentForm_eq c
  generalize ComponentModule.text _ = module at hmodule
  obtain ⟨useBootstrap, columns⟩ := layout
  have hfiles : ∀ sheet,
      Component.style ⟨useBootstrap, columns⟩ =
        Number.limited Template.tooLong (Layout.isWritable ⟨useBootstrap, columns⟩) sheet →
      c.files ⟨useBootstrap, columns⟩ base =
        Number.limited Template.tooLong (c.isWritable && Layout.isWritable ⟨useBootstrap, columns⟩)
          [⟨Component.filePath base c.name ++ ".ts", module⟩,
            ⟨Component.filePath base c.name ++ ".html",
              (FormPage.ofComponent c ⟨useBootstrap, columns⟩).text⟩,
            ⟨Component.filePath base c.name ++ ".css", sheet⟩] := fun sheet hsheet => by
    rw [Component.files, hmodule, formPage_eq, hsheet]
    cases c.isWritable
    · rfl
    · cases Layout.isWritable ⟨useBootstrap, columns⟩ <;> rfl
  have hstyle := style_eq ⟨useBootstrap, columns⟩
  cases useBootstrap with
  | true =>
      exact ⟨module, _, _, [], hfiles _ hstyle, rfl, rfl,
        fun _ => ⟨isGridClass_iff columns, gridClass_narrow⟩, nofun⟩
  | false =>
      have hdivisor : (∀ text ∈ [toString columns],
          ∃ divisor : Int, text = toString divisor ∧ 0 < divisor) ↔ 0 < columns := by
        rw [List.forall_mem_singleton]
        constructor
        · rintro ⟨divisor, heq, hpositive⟩
          rwa [toString_int_injective heq]
        · exact fun hpositive => ⟨columns, rfl, hpositive⟩
      have hdivisors : Rule.divisors ⟨".custom-col-" ++ toString columns,
          [("flex", "0 0 calc(100% / " ++ toString columns ++ " - 1rem)")]⟩ =
            [toString columns] := by
        rw [Rule.divisors, List.flatMap_singleton, divisorsIn_columns]
      rw [if_neg Bool.false_ne_true] at hstyle
      refine ⟨module, StyleSheet.text (gridRules columns), _, gridRules columns, hfiles _ hstyle,
        rfl, read?_text (plain_gridRules columns), nofun,
        fun _ => ⟨_, filter_gridRules columns, hdivisors, ?_⟩⟩
      rw [hdivisors]
      exact hdivisor

end Formwork
