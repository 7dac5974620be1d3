import Formwork.Proofs.Check.Verdict

/-!
Repeated routes. The checks tell of a route that is taken exactly if two components share one: the
walk over the components remembers the first use of every route, so that a later component with the
same route finds it, and no other check has an issue of that kind.
-/

namespace Formwork.Check

/-- None of the issues has a code. -/
def Free (code : String) (issues : List Issue) : Prop := ∀ i ∈ issues, i.code ≠ code

@[simp] theorem free_nil (code : String) : Free code [] := fun _ h => absurd h List.not_mem_nil

@[simp] theorem free_append (code : String) (is js : List Issue) :
    Free code (is ++ js) ↔ Free code is ∧ Free code js :=
  List.forall_mem_append

@[simp] theorem free_singleton (code : String) (i : Issue) : Free code [i] ↔ i.code ≠ code :=
  List.forall_mem_singleton

/-! ### Codes of issues

Every check has codes of its own, so that it has no issue with any other code. -/

/-- The codes that issues of a field have. -/
def fieldCodes : List String := ["duplicate-field", "unknown-type", "empty-options", "range-order"]

section

variable {code : String}

theorem free_fieldNameIssues (hcode : code ≠ "duplicate-field") (place : String)
    (seen : List String) (f : Field) : Free code (fieldNameIssues place seen f) := by
  rw [fieldNameIssues]
  split
  · exact (free_singleton code _).mpr hcode.symm
  · exact free_nil code

theorem free_fieldKindIssues (hunknown : code ≠ "unknown-type") (hempty : code ≠ "empty-options")
    (place : String) (f : Field) : Free code (fieldKindIssues place f) := by
  rw [fieldKindIssues]
  split
  · exact (free_singleton code _).mpr hunknown.symm
  · split
    · exact (free_singleton code _).mpr hempty.symm
    · exact free_nil code

theorem free_rangeIssues (hcode : code ≠ "range-order") (place : String) (f : Field) :
    Free code (rangeIssues place f) := by
  rw [rangeIssues]
  split
  · split
    · exact (free_singleton code _).mpr hcode.symm
    · exact free_nil code
  · exact free_nil code

theorem free_issuesOfFields (hcode : code ∉ fieldCodes) (component : String) (seen : List String)
    (fields : List Field) : Free code (issuesOfFields component seen fields) := by
  obtain ⟨hname, hunknown, hempty, hrange⟩ : code ≠ "duplicate-field" ∧ code ≠ "unknown-type" ∧
      code ≠ "empty-options" ∧ code ≠ "range-order" := by simpa [fieldCodes] using hcode
  induction fields generalizing seen with
  | nil => exact free_nil code
  | cons f fields ih =>
      rw [issuesOfFields, free_append, free_append, free_append]
      exact ⟨⟨⟨free_fieldNameIssues hname _ seen f, free_fieldKindIssues hunknown hempty _ f⟩,
        free_rangeIssues hrange _ f⟩, ih (f.name :: seen)⟩

theorem free_classIssues (hcode : code ≠ "duplicate-class") (seen : NamesSeen)
    (n : String) : Free code (classIssues seen n) := by
  rw [classIssues]
  split
  · split
    · exact free_nil code
    · exact (free_singleton code _).mpr hcode.symm
  · exact free_nil code

theorem free_emptinessIssues (hcode : code ≠ "no-components")
    (components : List Component) : Free code (emptinessIssues components) := by
  rw [emptinessIssues]
  split
  · exact (free_singleton code _).mpr hcode.symm
  · exact free_nil code

theorem free_columnsIssues (hcode : code ≠ "column-layout")
    (layout : Option Layout) : Free code (columnsIssues layout) := by
  cases layout with
  | none => exact free_nil code
  | some l =>
      rw [columnsIssues]
      split
      · exact free_nil code
      · exact (free_singleton code _).mpr hcode.symm

end

/-! ### Routes -/

theorem free_routeIssues {seen : NamesSeen} {names : List String}
    (h : Tracks Naming.pathForm seen.routes names) (n : String) :
    Free "duplicate-route" (routeIssues seen n) ↔
      Naming.pathForm n ∉ names.map Naming.pathForm := by
  rw [← h.lookup_eq_none, routeIssues]
  cases seen.routes.lookup (Naming.pathForm n) with
  | none => simp
  | some earlier => simp

theorem free_issuesOfComponents {seen : NamesSeen} {names : List String}
    (h : Tracks Naming.pathForm seen.routes names) (hnames : (names.map Naming.pathForm).Nodup)
    (components : List Component) :
    Free "duplicate-route" (issuesOfComponents seen components) ↔
      ((names ++ components.map (·.name)).map Naming.pathForm).Nodup := by
  induction components generalizing seen names with
  | nil => simp [issuesOfComponents, hnames]
  | cons c components ih =>
      have hstep : names ++ (c :: components).map (·.name) =
          (names ++ [c.name]) ++ components.map (·.name) := by simp
      have hclass : Free "duplicate-route" (classIssues seen c.name) :=
        free_classIssues (by decide) seen c.name
      have hfields : Free "duplicate-route" (issuesOfFields c.name [] c.fields) :=
        free_issuesOfFields (by decide) c.name [] c.fields
      rw [issuesOfComponents, free_append, free_append, free_append, free_routeIssues h, hstep]
      simp only [hclass, hfields, and_true]
      by_cases hroute : Naming.pathForm c.name ∈ names.map Naming.pathForm
      case pos =>
        refine iff_of_false (fun hall => hall.1 hroute) fun hall => ?_
        rw [List.map_append] at hall
        exact (nodup_map_append_singleton hnames).mp hall.of_append_left hroute
      case neg =>
        rw [ih (h.note c.name) ((nodup_map_append_singleton hnames).mpr hroute)]
        exact and_iff_right hroute

/-- There is no issue of a repeated route exactly if all routes are different. -/
theorem free_issuesOf_route (spec : Specification) (layout : Option Layout) :
    Free "duplicate-route" (issuesOf spec layout) ↔
      (spec.components.map fun c => Naming.pathForm c.name).Nodup := by
  have hseen : Tracks Naming.pathForm ({} : NamesSeen).routes [] := tracks_nil Naming.pathForm
  have hwalk : Free "duplicate-route" (issuesOfComponents {} spec.components) ↔
      ((spec.components.map (·.name)).map Naming.pathForm).Nodup :=
    free_issuesOfComponents hseen List.nodup_nil spec.components
  have hemptiness : Free "duplicate-route" (emptinessIssues spec.components) :=
    free_emptinessIssues (by decide) spec.components
  have hlayout : Free "duplicate-route" (columnsIssues layout) :=
    free_columnsIssues (by decide) layout
  rw [issuesOf, free_append, free_append, hwalk, List.map_map]
  simp only [hemptiness, hlayout, true_and, and_true, Function.comp_def]

end Formwork.Check
