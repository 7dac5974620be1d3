import Formwork.Proofs.Check.Duplicates

/-!
What the checks report, position by position. Each component and each field has a report of its own,
which depends on it and on what stands before it, and the issues are those of the reports in
document order. The walk keeps three records: the routes, where the first use stays, the classes,
where it stays too though a use by the same name is no issue, and the field names, which begin anew
with each component. All three say the same as a search among the members passed so far, and what is
passed is what a report may depend on. So components that are added at the end change no earlier
report.
-/

namespace Formwork.Check

/-! ### Reports of a list -/

section

variable {α β : Type}

def reportEach (report : List α → α → β) : (earlier rest : List α) → List β
  | _, [] => []
  | earlier, a :: rest => report earlier a :: reportEach report (earlier ++ [a]) rest

/-- One report for each member, in order, that fits the member and those before it. -/
structure Positioned (Fits : List α → α → β → Prop) (xs : List α) (reports : List β) : Prop where
  length : reports.length = xs.length
  fits : ∀ i (hx : i < xs.length) (hr : i < reports.length), Fits (xs.take i) xs[i] reports[i]

variable (report : List α → α → β)

theorem length_reportEach (earlier rest : List α) :
    (reportEach report earlier rest).length = rest.length := by
  induction rest generalizing earlier with
  | nil => rfl
  | cons a rest ih => rw [reportEach, List.length_cons, List.length_cons, ih]

theorem getElem_reportEach (earlier rest : List α) (i : Nat) (hi : i < rest.length)
    (hr : i < (reportEach report earlier rest).length) :
    (reportEach report earlier rest)[i] = report (earlier ++ rest.take i) rest[i] := by
  induction rest generalizing earlier i with
  | nil => exact absurd hi (Nat.not_lt_zero i)
  | cons a rest ih =>
      cases i with
      | zero => simp [reportEach]
      | succ i =>
          have hstep : earlier ++ [a] ++ rest.take i = earlier ++ (a :: rest).take (i + 1) := by
            simp
          simp only [reportEach, List.getElem_cons_succ]
          rw [ih (earlier ++ [a]) i (Nat.lt_of_succ_lt_succ hi), hstep]

theorem positioned_reportEach {Fits : List α → α → β → Prop}
    (hfits : ∀ earlier a, Fits earlier a (report earlier a)) (xs : List α) :
    Positioned Fits xs (reportEach report [] xs) where
  length := length_reportEach report [] xs
  fits i hx hr := by
    rw [getElem_reportEach report [] xs i hx hr, List.nil_append]
    exact hfits (xs.take i) xs[i]

theorem reportEach_append (earlier xs ys : List α) :
    reportEach report earlier (xs ++ ys) =
      reportEach report earlier xs ++ reportEach report (earlier ++ xs) ys := by
  induction xs generalizing earlier with
  | nil => simp [reportEach]
  | cons a xs ih => simp [reportEach, ih]

end

/-! ### Fields -/

def repeatedField (c : Component) (f : Field) : Issue :=
  ⟨"duplicate-field", "field name '" ++ f.name ++ "' appears more than once",
    fieldPlace c.name f.name,
    .error⟩

/-- What the checks say of one field: whether its name is taken, and the rest. -/
structure FieldReport where
  repeated : Option Issue
  others : List Issue

def FieldReport.issues (r : FieldReport) : List Issue := r.repeated.toList ++ r.others

/-- Codes of issues that tell of a repeated form or name. -/
def duplicateCodes : List String := ["duplicate-route", "duplicate-class", "duplicate-field"]

structure FieldReport.Fits (c : Component) (earlier : List Field) (f : Field) (r : FieldReport) :
    Prop where
  repeated_iff : r.repeated.isSome ↔ ∃ e ∈ earlier, e.name = f.name
  repeated_eq : ∀ issue, r.repeated = some issue → issue = repeatedField c f
  others_eq : r.others =
    fieldKindIssues (fieldPlace c.name f.name) f ++ rangeIssues (fieldPlace c.name f.name) f
  others_free : ∀ code ∈ duplicateCodes, Free code r.others

def fieldReport (c : Component) (earlier : List Field) (f : Field) : FieldReport where
  repeated := if (earlier.map (·.name)).contains f.name then some (repeatedField c f) else none
  others := fieldKindIssues (fieldPlace c.name f.name) f ++ rangeIssues (fieldPlace c.name f.name) f

theorem fieldReport_fits (c : Component) (earlier : List Field) (f : Field) :
    (fieldReport c earlier f).Fits c earlier f where
  repeated_iff := by simp [fieldReport]
  repeated_eq issue h := by
    obtain ⟨-, heq⟩ : (∃ e ∈ earlier, e.name = f.name) ∧ repeatedField c f = issue := by
      simpa [fieldReport] using h
    exact heq.symm
  others_eq := rfl
  others_free code hcode := by
    have htype : code ≠ "unknown-type" := ne_of_mem_of_not_mem hcode (by decide)
    have hoptions : code ≠ "empty-options" := ne_of_mem_of_not_mem hcode (by decide)
    have hrange : code ≠ "range-order" := ne_of_mem_of_not_mem hcode (by decide)
    exact (free_append code _ _).mpr
      ⟨free_fieldKindIssues htype hoptions _ f, free_rangeIssues hrange _ f⟩

/-- The names seen in a component are those of the fields passed so far, whatever their order. -/
theorem issuesOfFields_eq (c : Component) {seen : List String} {earlier : List Field}
    (hseen : ∀ n, n ∈ seen ↔ n ∈ earlier.map (·.name)) (rest : List Field) :
    issuesOfFields c.name seen rest =
      (reportEach (fieldReport c) earlier rest).flatMap FieldReport.issues := by
  induction rest generalizing seen earlier with
  | nil => rfl
  | cons f rest ih =>
      -- a name is put first in the record and its field last, so only membership is kept
      have hstep : ∀ n, n ∈ f.name :: seen ↔ n ∈ (earlier ++ [f]).map (·.name) := fun n => by
        rw [List.mem_cons, hseen n, List.map_append, List.mem_append, List.map_singleton,
          List.mem_singleton, or_comm]
      have hname : fieldNameIssues (fieldPlace c.name f.name) seen f =
          (fieldReport c earlier f).repeated.toList := by
        have hcontains : seen.contains f.name = (earlier.map (·.name)).contains f.name := by
          rw [Bool.eq_iff_iff, List.contains_iff_mem, List.contains_iff_mem, hseen]
        simp only [fieldNameIssues, fieldReport, hcontains, repeatedField]
        split <;> rfl
      rw [reportEach, List.flatMap_cons, ← ih hstep, FieldReport.issues, ← hname,
        issuesOfFields, fieldReport]
      simp only [List.append_assoc]

/-! ### Components -/

/-- The first of the earlier components whose name has the form of a name. -/
def FirstWith (form : String → String) (earlier : List Component) (name : String)
    (first : Component) : Prop :=
  ∃ before after, earlier = before ++ first :: after ∧ form first.name = form name ∧
    ∀ e ∈ before, form e.name ≠ form name

def firstWith? (form : String → String) (earlier : List Component) (name : String) :
    Option Component :=
  earlier.find? fun e => form e.name == form name

theorem firstWith?_eq_some {form : String → String} {earlier : List Component} {name : String}
    {first : Component} :
    firstWith? form earlier name = some first ↔ FirstWith form earlier name first := by
  rw [firstWith?, List.find?_eq_some_iff_append, FirstWith]
  constructor
  · rintro ⟨hform, before, after, heq, hbefore⟩
    exact ⟨before, after, heq, by simpa using hform, fun e he => by simpa using hbefore e he⟩
  · rintro ⟨before, after, heq, hform, hbefore⟩
    exact ⟨by simpa using hform, before, after, heq, fun e he => by simpa using hbefore e he⟩

theorem isSome_firstWith? {form : String → String} {earlier : List Component} {name : String} :
    (firstWith? form earlier name).isSome ↔ ∃ e ∈ earlier, form e.name = form name := by
  simp [firstWith?]

theorem Tracks.lookup_components {form : String → String} {uses : FirstUses}
    {earlier : List Component} (h : Tracks form uses (earlier.map (·.name))) (name : String) :
    uses.lookup (form name) = (firstWith? form earlier name).map (·.name) := by
  rw [h, List.find?_map]
  rfl

def repeatedRoute (c first : Component) : Issue :=
  ⟨"duplicate-route",
    "route path '" ++ Naming.pathForm c.name ++ "' is also derived from '" ++ first.name ++ "'",
    "components." ++ c.name, .error⟩

def repeatedClass (c first : Component) : Issue :=
  ⟨"duplicate-class",
    "class name '" ++ Naming.classForm c.name ++ "Component' is also derived from '" ++
      first.name ++ "'",
    "components." ++ c.name, .error⟩

/-- What the checks say of one component: whether its route and its class are taken, and what they
say of its fields. -/
structure ComponentReport where
  route : Option Issue
  cls : Option Issue
  fields : List FieldReport

def ComponentReport.issues (r : ComponentReport) : List Issue :=
  r.route.toList ++ r.cls.toList ++ r.fields.flatMap FieldReport.issues

/-- A report of a component that follows others. -/
structure ComponentReport.Fits (earlier : List Component) (c : Component) (r : ComponentReport) :
    Prop where
  route_iff : r.route.isSome ↔ ∃ e ∈ earlier, Naming.pathForm e.name = Naming.pathForm c.name
  route_eq : ∀ issue, r.route = some issue →
    ∃ first, FirstWith Naming.pathForm earlier c.name first ∧ issue = repeatedRoute c first
  cls_iff : r.cls.isSome ↔
    ∃ first, FirstWith Naming.classForm earlier c.name first ∧ first.name ≠ c.name
  cls_eq : ∀ issue, r.cls = some issue →
    ∃ first, FirstWith Naming.classForm earlier c.name first ∧ issue = repeatedClass c first
  fields : Positioned (FieldReport.Fits c) c.fields r.fields

def componentReport (earlier : List Component) (c : Component) : ComponentReport where
  route := (firstWith? Naming.pathForm earlier c.name).map (repeatedRoute c)
  cls := ((firstWith? Naming.classForm earlier c.name).filter (·.name != c.name)).map
    (repeatedClass c)
  fields := reportEach (fieldReport c) [] c.fields

theorem componentReport_fits (earlier : List Component) (c : Component) :
    (componentReport earlier c).Fits earlier c where
  route_iff := by rw [componentReport, Option.isSome_map, isSome_firstWith?]
  route_eq issue h := by
    obtain ⟨first, hfirst, rfl⟩ := Option.map_eq_some_iff.mp h
    exact ⟨first, firstWith?_eq_some.mp hfirst, rfl⟩
  cls_iff := by
    simp only [componentReport, Option.isSome_map, Option.isSome_iff_exists,
      Option.filter_eq_some_iff, firstWith?_eq_some, bne_iff_ne]
  cls_eq issue h := by
    obtain ⟨first, hfirst, rfl⟩ := Option.map_eq_some_iff.mp h
    exact ⟨first, firstWith?_eq_some.mp (Option.filter_eq_some_iff.mp hfirst).1, rfl⟩
  fields := positioned_reportEach (fieldReport c) (fieldReport_fits c) c.fields

theorem routeIssues_eq {seen : NamesSeen} {earlier : List Component}
    (h : Seen seen (earlier.map (·.name))) (c : Component) :
    routeIssues seen c.name = (componentReport earlier c).route.toList := by
  simp only [routeIssues, h.routes.lookup_components, componentReport]
  cases firstWith? Naming.pathForm earlier c.name <;> rfl

theorem classIssues_eq {seen : NamesSeen} {earlier : List Component}
    (h : Seen seen (earlier.map (·.name))) (c : Component) :
    classIssues seen c.name = (componentReport earlier c).cls.toList := by
  simp only [classIssues, h.classes.lookup_components, componentReport]
  cases firstWith? Naming.classForm earlier c.name with
  | none => rfl
  | some first =>
      by_cases hname : first.name = c.name
      · simp [Option.filter_some, hname]
      · simp [Option.filter_some, hname, repeatedClass]

theorem issuesOfComponents_eq {seen : NamesSeen} {earlier : List Component}
    (h : Seen seen (earlier.map (·.name))) (rest : List Component) :
    issuesOfComponents seen rest =
      (reportEach componentReport earlier rest).flatMap ComponentReport.issues := by
  induction rest generalizing seen earlier with
  | nil => rfl
  | cons c rest ih =>
      have hnames : (earlier ++ [c]).map (·.name) = earlier.map (·.name) ++ [c.name] := by simp
      -- a form that was noted before keeps its first name
      have hseen : Seen (seen.note c.name) ((earlier ++ [c]).map (·.name)) :=
        hnames ▸ ⟨h.routes.note c.name, h.classes.note c.name⟩
      have hfields : issuesOfFields c.name [] c.fields =
          (componentReport earlier c).fields.flatMap FieldReport.issues := by
        have hnone : ∀ n, n ∈ ([] : List String) ↔ n ∈ ([] : List Field).map (·.name) :=
          fun _ => Iff.rfl
        exact issuesOfFields_eq c hnone c.fields
      rw [issuesOfComponents, reportEach, List.flatMap_cons, ← ih hseen, routeIssues_eq h,
        classIssues_eq h, hfields, ComponentReport.issues]

theorem issuesOfComponents_reports (components : List Component) :
    issuesOfComponents {} components =
      (reportEach componentReport [] components).flatMap ComponentReport.issues :=
  issuesOfComponents_eq ⟨tracks_nil _, tracks_nil _⟩ components

theorem issuesOfComponents_prefix (components more : List Component) :
    issuesOfComponents {} components <+: issuesOfComponents {} (components ++ more) := by
  rw [issuesOfComponents_reports, issuesOfComponents_reports, reportEach_append,
    List.flatMap_append]
  exact List.prefix_append _ _

end Formwork.Check

namespace Formwork

open Check

/-- The checks report position by position: a component has a repeated route exactly if an earlier
one has the route, a repeated class exactly if the first component with the class is an earlier one
of another name, and a field is repeated exactly if an earlier one of the component has its name;
the message names the first user. The issues are those of the reports, in document order, behind
that of a specification without components and before that of the layout, and where a number in them
is too long there are none. Components that are added to others leave the issues there are as they
are, though they may keep all from being told. -/
theorem findIssues_positions (spec : Specification) :
    (∃ reports, Positioned ComponentReport.Fits spec.components reports ∧
      ∀ layout,
        (spec.isTellable layout = true → findIssues spec layout =
          .ok (emptinessIssues spec.components ++ reports.flatMap ComponentReport.issues ++
            columnsIssues layout)) ∧
        (spec.isTellable layout = false → findIssues spec layout = .error {})) ∧
    (∀ code ∈ duplicateCodes, ∀ layout,
      Free code (emptinessIssues spec.components) ∧ Free code (columnsIssues layout)) ∧
    (spec.components ≠ [] → ∀ more issues,
      findIssues { spec with components := spec.components ++ more } none = .ok issues →
        ∃ earlier, findIssues spec none = .ok earlier ∧ earlier <+: issues) := by
  refine ⟨⟨reportEach componentReport [] spec.components,
    positioned_reportEach componentReport componentReport_fits spec.components, fun layout =>
      ⟨fun htold => ?_, fun hlong => ?_⟩⟩, fun code hcode layout => ?_,
      fun hne more issues hok => ?_⟩
  · rw [findIssues_eq, htold, Number.limited_true, issuesOf, issuesOfComponents_reports]
  · rw [findIssues_eq, hlong, Number.limited_false]
  · have hempty : code ≠ "no-components" := ne_of_mem_of_not_mem hcode (by decide)
    have hcolumns : code ≠ "column-layout" := ne_of_mem_of_not_mem hcode (by decide)
    exact ⟨free_emptinessIssues hempty _, free_columnsIssues hcolumns layout⟩
  · obtain ⟨htold, rfl⟩ := findIssues_eq_ok.mp hok
    have htoldBefore : spec.isTellable none = true := by
      rw [Specification.isTellable, List.all_append, Bool.and_eq_true, Bool.and_eq_true] at htold
      rw [Specification.isTellable, htold.1.1]
      rfl
    refine ⟨_, findIssues_eq_ok.mpr ⟨htoldBefore, rfl⟩, ?_⟩
    -- with a component and without a layout only the components have issues
    have hnone : ∀ components : List Component, components ≠ [] → emptinessIssues components = [] :=
      fun components h => by rw [emptinessIssues, if_neg (by simpa using h)]
    have hmore : spec.components ++ more ≠ [] := List.append_ne_nil_of_left_ne_nil hne more
    simp only [issuesOf, hnone _ hne, hnone _ hmore, columnsIssues, List.nil_append,
      List.append_nil]
    exact issuesOfComponents_prefix spec.components more

/-- A component that is added has the route of the one before it, which is not reported, and it
takes away the issues there were: a range of its field cannot be told. -/
theorem findIssues_oversized :
    ∃ (spec : Specification) (first last : Component),
      spec.components = [first] ∧ Naming.pathForm last.name = Naming.pathForm first.name ∧
      findIssues spec none = .ok [] ∧
      ∀ issues,
        findIssues { spec with components := spec.components ++ [last] } none ≠ .ok issues := by
  let range : Number × Number := (.int Number.firstLong, .int 0)
  let price : Field := { name := "price", validations := some { range := some range } }
  let last : Component := { name := "home", fields := [price] }
  refine ⟨⟨"shop", [{ name := "Home" }], .horizontal, none⟩, { name := "Home" }, last, rfl,
    by decide, by decide, fun issues hok => ?_⟩
  have htold := (findIssues_eq_ok.mp hok).1
  have hdescends : Number.lt (.int 0) (.int Number.firstLong) = true :=
    decide_eq_true Number.firstLong_pos
  have hprice : price.isTellable = false := by
    show (!Number.lt (.int 0) (.int Number.firstLong) ||
      (Number.isShort Number.firstLong && Number.isShort 0)) = false
    rw [hdescends, Number.isShort_firstLong]
    rfl
  simp [Specification.isTellable, last, hprice] at htold

end Formwork
