import Formwork.Proofs.Number.Writable

/-!
The issues of a specification, whatever numbers are in them. An issue of a range or of the number of
columns tells the numbers, so that the search for issues fails where one of them is too long. Where
it does not fail it finds these issues.
-/

namespace Formwork.Check

def rangeIssues (place : String) (f : Field) : List Issue :=
  match f.validations.bind (·.range) with
  | some (low, high) =>
    if high.lt low then [rangeIssue place low.toValue.display high.toValue.display] else []
  | none => []

def issuesOfFields (component : String) : (seen : List String) → List Field → List Issue
  | _, [] => []
  | seen, f :: rest =>
    fieldNameIssues (fieldPlace component f.name) seen f ++
      fieldKindIssues (fieldPlace component f.name) f ++
      rangeIssues (fieldPlace component f.name) f ++ issuesOfFields component (f.name :: seen) rest

def issuesOfComponents : (seen : NamesSeen) → List Component → List Issue
  | _, [] => []
  | seen, c :: rest =>
    routeIssues seen c.name ++ classIssues seen c.name ++ issuesOfFields c.name [] c.fields ++
      issuesOfComponents (seen.note c.name) rest

def columnsIssues : Option Layout → List Issue
  | some layout =>
    if supportedColumns.contains layout.columns then []
    else [columnsIssue (Value.int layout.columns).display]
  | none => []

def issuesOf (spec : Specification) (layout : Option Layout) : List Issue :=
  emptinessIssues spec.components ++ issuesOfComponents {} spec.components ++ columnsIssues layout

/-! ### The search for issues -/

open Number

theorem fieldRangeIssues_eq (place : String) (f : Field) :
    fieldRangeIssues place f = limited {} f.isTellable (rangeIssues place f) := by
  rw [fieldRangeIssues, Field.isTellable, rangeIssues]
  cases f.validations.bind (·.range) with
  | none => rfl
  | some range =>
      obtain ⟨low, high⟩ := range
      have htext : ∀ n : Number, n.text = limited {} n.isWritable n.toValue.display := fun n => by
        rw [text, Value.write, n.isWritable_toValue]
        rfl
      cases h : high.lt low with
      | true =>
          simp only [h, if_true, Bool.not_true, Bool.false_or, htext]
          exact limited_bind (limited_bind_pure _ _ _ _)
      | false => simp [h]

theorem fieldIssues_eq_limited (component : String) (seen : List String) (fields : List Field) :
    fieldIssues component seen fields =
      limited {} (fields.all Field.isTellable) (issuesOfFields component seen fields) := by
  induction fields generalizing seen with
  | nil => rfl
  | cons f fields ih =>
      simp only [fieldIssues, List.all_cons, fieldRangeIssues_eq, ih]
      exact limited_bind (limited_bind_pure _ _ _ _)

theorem componentIssues_eq (seen : NamesSeen) (components : List Component) :
    componentIssues seen components =
      limited {} (components.all fun c => c.fields.all Field.isTellable)
        (issuesOfComponents seen components) := by
  induction components generalizing seen with
  | nil => rfl
  | cons c components ih =>
      simp only [componentIssues, List.all_cons, fieldIssues_eq_limited, ih]
      exact limited_bind (limited_bind_pure _ _ _ _)

theorem layoutIssues_eq (layout : Option Layout) :
    layoutIssues layout =
      limited {} (layout.all fun l => isShort l.columns) (columnsIssues layout) := by
  cases layout with
  | none => rfl
  | some l =>
      rw [layoutIssues, columnsIssues, Option.all_some]
      split
      case isTrue h =>
        have hshort : ∀ n ∈ supportedColumns, isShort n = true := fun n hn =>
          isShort_of_lt (by revert n; decide)
        rw [hshort l.columns (List.contains_iff_mem.mp h)]
        rfl
      case isFalse => rw [Value.write, Value.isWritable]; exact limited_bind_pure _ _ _ _

/-- The issues are found exactly if every number in them is short enough to be written. -/
theorem findIssues_eq (spec : Specification) (layout : Option Layout) :
    findIssues spec layout = limited {} (spec.isTellable layout) (issuesOf spec layout) := by
  rw [findIssues, componentIssues_eq, layoutIssues_eq, Specification.isTellable, issuesOf]
  exact limited_bind (limited_bind_pure _ _ _ _)

theorem findIssues_eq_ok {spec : Specification} {layout : Option Layout} {issues : List Issue} :
    findIssues spec layout = .ok issues ↔
      spec.isTellable layout = true ∧ issuesOf spec layout = issues := by
  rw [findIssues_eq, limited_eq_ok]

end Formwork.Check
