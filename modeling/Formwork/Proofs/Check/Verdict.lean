import Formwork.Proofs.Check.Issues
import Mathlib.Data.List.Nodup
import Mathlib.Tactic.Tauto

/-!
What the checks accept. A strict run goes on with exactly the consistent specifications, and a
permissive one with those that have a component and no issue with a number that is too long to be
told. The checks walk over the components and
remember the first use of every route and of every class; what is remembered behind a list of names
is the first of them with the form that is looked up, and this carries the proof over the walk.
-/

namespace Formwork

/-- A consistent specification, with the layout that is given for it. -/
structure Specification.Consistent (spec : Specification) (layout : Option Layout) : Prop where
  components : spec.components ≠ []
  routes : (spec.components.map fun c => Naming.pathForm c.name).Nodup
  classes : (spec.components.map fun c => Naming.classForm c.name).Nodup
  fieldNames : ∀ c ∈ spec.components, (c.fields.map (·.name)).Nodup
  options : ∀ c ∈ spec.components, ∀ f ∈ c.fields, ∀ kind,
    FieldKind.declared? f.declaredKind = some kind → kind.takesOptions = true → f.options ≠ []
  ranges : ∀ c ∈ spec.components, ∀ f ∈ c.fields, ∀ low high,
    f.validations.bind (·.range) = some (low, high) → high.lt low = false
  columns : ∀ l, layout = some l → l.columns = 2 ∨ l.columns = 3 ∨ l.columns = 4

namespace Check

/-! ### Issues that stop a run -/

/-- None of the issues stops a run. -/
def Harmless (strict : Bool) (issues : List Issue) : Prop :=
  ∀ i ∈ issues, i.severity.stops strict = false

@[simp] theorem harmless_nil (strict : Bool) : Harmless strict [] :=
  fun _ h => absurd h List.not_mem_nil

@[simp] theorem harmless_append (strict : Bool) (is js : List Issue) :
    Harmless strict (is ++ js) ↔ Harmless strict is ∧ Harmless strict js :=
  List.forall_mem_append

@[simp] theorem harmless_singleton (strict : Bool) (i : Issue) :
    Harmless strict [i] ↔ i.severity.stops strict = false :=
  List.forall_mem_singleton

theorem stops_eq (strict : Bool) (s : Severity) :
    s.stops strict = decide (s = .fatal ∨ (strict = true ∧ s = .error)) := by
  cases s <;> cases strict <;> rfl

def stopping (strict : Bool) (issues : List Issue) : List Issue :=
  issues.filter fun i => decide (i.severity = .fatal ∨ (strict = true ∧ i.severity = .error))

theorem harmless_iff {strict : Bool} {issues : List Issue} :
    Harmless strict issues ↔ stopping strict issues = [] := by
  simp only [stopping, ← stops_eq, List.filter_eq_nil_iff, Harmless, Bool.not_eq_true]

/-- Either an issue cannot be told, or no issue stops the run, and all are handed on, or the run is
stopped by those that do. -/
theorem checkSpecification_cases (spec : Specification) (layout : Option Layout) (strict : Bool) :
    (spec.isTellable layout = false ∧
      checkSpecification spec layout strict = .error (.oversized {})) ∨
    (spec.isTellable layout = true ∧ Harmless strict (issuesOf spec layout) ∧
      checkSpecification spec layout strict = .ok (issuesOf spec layout)) ∨
    (spec.isTellable layout = true ∧ ¬ Harmless strict (issuesOf spec layout) ∧
      checkSpecification spec layout strict =
        .error (.specification ⟨stopping strict (issuesOf spec layout)⟩)) := by
  have hstopping : (issuesOf spec layout).filter (fun i => i.severity.stops strict) =
      stopping strict (issuesOf spec layout) := by simp only [stopping, stops_eq]
  rw [checkSpecification, findIssues_eq, harmless_iff, ← hstopping]
  cases spec.isTellable layout with
  | false => exact .inl ⟨rfl, rfl⟩
  | true =>
      simp only [Number.limited_true, Except.mapError, bind, Except.bind]
      cases (issuesOf spec layout).filter fun i => i.severity.stops strict with
      | nil => exact .inr (.inl ⟨trivial, rfl, rfl⟩)
      | cons i is => exact .inr (.inr ⟨trivial, List.cons_ne_nil i is, rfl⟩)

/-! ### Fields -/

theorem harmless_fieldNameIssues {place : String} {seen : List String} {f : Field} :
    Harmless true (fieldNameIssues place seen f) ↔ f.name ∉ seen := by
  rw [fieldNameIssues]
  split
  case isTrue h =>
    refine iff_of_false ?_ (by simpa using h)
    simp [Severity.stops]
  case isFalse h => exact iff_of_true (harmless_nil true) (by simpa using h)

/-- The options that a field needs are there. -/
def HasOptions (f : Field) : Prop :=
  ∀ kind, FieldKind.declared? f.declaredKind = some kind → kind.takesOptions = true →
    f.options ≠ []

/-- The warning about a kind that is not known stops no run, and hides that there are no options. -/
theorem harmless_fieldKindIssues {place : String} {f : Field} :
    Harmless true (fieldKindIssues place f) ↔ HasOptions f := by
  rw [fieldKindIssues, FieldKind.isKnown, Field.kind, FieldKind.resolve, HasOptions]
  cases FieldKind.declared? f.declaredKind with
  | none => simp [Severity.stops]
  | some kind =>
      by_cases h : kind.takesOptions = true ∧ f.options = []
      · simp [h, Severity.stops]
      · rw [if_neg (by simp), if_neg (by simpa using h)]
        exact iff_of_true (harmless_nil true) fun k hk htakes hempty =>
          h ⟨Option.some.inj hk ▸ htakes, hempty⟩

/-- The range of a field, if there is one, has values. -/
def HasAscendingRange (f : Field) : Prop :=
  ∀ low high, f.validations.bind (·.range) = some (low, high) → high.lt low = false

theorem harmless_rangeIssues {place : String} {f : Field} :
    Harmless true (rangeIssues place f) ↔ HasAscendingRange f := by
  rw [rangeIssues, HasAscendingRange]
  cases f.validations.bind (·.range) with
  | none => simp
  | some range =>
      obtain ⟨low, high⟩ := range
      by_cases h : high.lt low = true <;> simp [h, rangeIssue, Severity.stops]

theorem harmless_issuesOfFields {component : String} {seen : List String} {fields : List Field} :
    Harmless true (issuesOfFields component seen fields) ↔
      (fields.map (·.name)).Nodup ∧ (∀ f ∈ fields, f.name ∉ seen) ∧
      ∀ f ∈ fields, HasOptions f ∧ HasAscendingRange f := by
  induction fields generalizing seen with
  | nil => simp [issuesOfFields]
  | cons f fields ih =>
      rw [issuesOfFields, harmless_append, harmless_append, harmless_append,
        harmless_fieldNameIssues, harmless_fieldKindIssues, harmless_rangeIssues, ih,
        List.map_cons, List.nodup_cons, List.forall_mem_cons, List.forall_mem_cons]
      have hfresh : f.name ∉ fields.map (·.name) ∧ (∀ g ∈ fields, g.name ∉ seen) ↔
          ∀ g ∈ fields, g.name ∉ f.name :: seen := by
        constructor
        · rintro ⟨hf, hseen⟩ g hg
          rw [List.mem_cons, not_or]
          exact ⟨fun h => hf (List.mem_map.mpr ⟨g, hg, h⟩), hseen g hg⟩
        · intro h
          refine ⟨fun hf => ?_, fun g hg hmem => h g hg (List.mem_cons_of_mem _ hmem)⟩
          obtain ⟨g, hg, hname⟩ := List.mem_map.mp hf
          exact h g hg (hname ▸ List.mem_cons_self)
      rw [← hfresh]
      tauto

/-! ### Names seen so far -/

/-- The uses are those of a list of names: behind a form stands the first name that has it. -/
def Tracks (form : String → String) (uses : FirstUses) (names : List String) : Prop :=
  ∀ k, uses.lookup k = names.find? fun n => form n == k

theorem tracks_nil (form : String → String) : Tracks form [] [] := fun _ => rfl

theorem Tracks.note {form : String → String} {uses : FirstUses} {names : List String}
    (h : Tracks form uses names) (n : String) :
    Tracks form (uses.note (form n) n) (names ++ [n]) := by
  intro k
  rw [FirstUses.note, h (form n), List.find?_append, ← h k]
  cases hfirst : names.find? (fun m => form m == form n) with
  | some earlier =>
      by_cases hk : form n = k
      · rw [← hk, h (form n), hfirst]
        rfl
      · have hlast : [n].find? (fun m => form m == k) = none := by simpa using hk
        rw [hlast, Option.or_none]
  | none =>
      simp only [List.lookup_append]
      by_cases hk : form n = k
      · simp [hk]
      · have hk' : (k == form n) = false := by simpa using fun h => hk h.symm
        simp [List.lookup_cons, hk, hk']

theorem Tracks.lookup_eq_none {form : String → String} {uses : FirstUses} {names : List String}
    (h : Tracks form uses names) (n : String) :
    uses.lookup (form n) = none ↔ form n ∉ names.map form := by
  rw [h, List.find?_eq_none]
  simp

structure Seen (seen : NamesSeen) (names : List String) : Prop where
  routes : Tracks Naming.pathForm seen.routes names
  classes : Tracks Naming.classForm seen.classes names

theorem harmless_routeIssues {seen : NamesSeen} {names : List String} (h : Seen seen names)
    (n : String) :
    Harmless true (routeIssues seen n) ↔ Naming.pathForm n ∉ names.map Naming.pathForm := by
  rw [← h.routes.lookup_eq_none, routeIssues]
  cases seen.routes.lookup (Naming.pathForm n) with
  | none => simp
  | some earlier => simp [Severity.stops]

/-- A class that is taken by a component of the same name is not counted. It need not be: the route
is taken then. -/
theorem harmless_classIssues {seen : NamesSeen} {names : List String} (h : Seen seen names)
    {n : String} (hroute : Naming.pathForm n ∉ names.map Naming.pathForm) :
    Harmless true (classIssues seen n) ↔ Naming.classForm n ∉ names.map Naming.classForm := by
  rw [← h.classes.lookup_eq_none, classIssues]
  cases hfirst : seen.classes.lookup (Naming.classForm n) with
  | none => simp
  | some earlier =>
      have hmem : earlier ∈ names := List.mem_of_find?_eq_some (h.classes _ ▸ hfirst)
      have hne : earlier ≠ n := fun heq => hroute (List.mem_map.mpr ⟨n, heq ▸ hmem, rfl⟩)
      simp [hne, Severity.stops]

/-! ### Components -/

def HasConsistentFields (c : Component) : Prop :=
  (c.fields.map (·.name)).Nodup ∧ ∀ f ∈ c.fields, HasOptions f ∧ HasAscendingRange f

theorem nodup_map_append_singleton {form : String → String} {names : List String} {n : String}
    (h : (names.map form).Nodup) :
    ((names ++ [n]).map form).Nodup ↔ form n ∉ names.map form := by
  rw [List.map_append, List.map_singleton, List.nodup_append_comm, List.singleton_append,
    List.nodup_cons]
  exact and_iff_left h

theorem harmless_issuesOfComponents {seen : NamesSeen} {names : List String} (h : Seen seen names)
    (hroutes : (names.map Naming.pathForm).Nodup) (hclasses : (names.map Naming.classForm).Nodup)
    (components : List Component) :
    Harmless true (issuesOfComponents seen components) ↔
      ((names ++ components.map (·.name)).map Naming.pathForm).Nodup ∧
      ((names ++ components.map (·.name)).map Naming.classForm).Nodup ∧
      ∀ c ∈ components, HasConsistentFields c := by
  -- the names behind the walk have to be different already, else the right side fails at once
  induction components generalizing seen names with
  | nil => simp [issuesOfComponents, hroutes, hclasses]
  | cons c components ih =>
      have hnames : names ++ (c :: components).map (·.name) =
          (names ++ [c.name]) ++ components.map (·.name) := by simp
      have hfields : Harmless true (issuesOfFields c.name [] c.fields) ↔ HasConsistentFields c := by
        rw [harmless_issuesOfFields, HasConsistentFields]
        simp
      have hsub : ∀ form : String → String,
          (((names ++ [c.name]) ++ components.map (·.name)).map form).Nodup →
            ((names ++ [c.name]).map form).Nodup := fun form hall => by
        rw [List.map_append] at hall
        exact hall.of_append_left
      rw [issuesOfComponents, harmless_append, harmless_append, harmless_append,
        harmless_routeIssues h, hfields, hnames, List.forall_mem_cons]
      by_cases hroute : Naming.pathForm c.name ∈ names.map Naming.pathForm
      case pos =>
        refine iff_of_false (fun hall => hall.1.1.1 hroute) fun hall => ?_
        exact (nodup_map_append_singleton hroutes).mp (hsub _ hall.1) hroute
      case neg =>
        -- a new route is a new name, so that a class that is there already is an issue
        rw [harmless_classIssues h hroute]
        by_cases hclass : Naming.classForm c.name ∈ names.map Naming.classForm
        case pos =>
          refine iff_of_false (fun hall => hall.1.1.2 hclass) fun hall => ?_
          exact (nodup_map_append_singleton hclasses).mp (hsub _ hall.2.1) hclass
        case neg =>
          rw [ih ⟨h.routes.note c.name, h.classes.note c.name⟩
            ((nodup_map_append_singleton hroutes).mpr hroute)
            ((nodup_map_append_singleton hclasses).mpr hclass)]
          tauto

theorem harmless_emptinessIssues {strict : Bool} {components : List Component} :
    Harmless strict (emptinessIssues components) ↔ components ≠ [] := by
  cases components <;> simp [emptinessIssues, Severity.stops]

theorem harmless_columnsIssues {layout : Option Layout} :
    Harmless true (columnsIssues layout) ↔
      ∀ l, layout = some l → l.columns = 2 ∨ l.columns = 3 ∨ l.columns = 4 := by
  cases layout with
  | none => simp [columnsIssues]
  | some l =>
      rw [columnsIssues]
      split <;> simp_all [supportedColumns, columnsIssue, Severity.stops]

theorem harmless_issuesOf {spec : Specification} {layout : Option Layout} :
    Harmless true (issuesOf spec layout) ↔ spec.Consistent layout := by
  have hseen : Seen {} [] := ⟨tracks_nil _, tracks_nil _⟩
  rw [issuesOf, harmless_append, harmless_append, harmless_emptinessIssues,
    harmless_issuesOfComponents hseen .nil .nil, harmless_columnsIssues]
  simp only [List.nil_append, List.map_map, Function.comp_def]
  constructor
  · rintro ⟨⟨hne, hroutes, hclasses, hfields⟩, hcolumns⟩
    exact
      { components := hne
        routes := hroutes
        classes := hclasses
        fieldNames := fun c hc => (hfields c hc).1
        options := fun c hc f hf => ((hfields c hc).2 f hf).1
        ranges := fun c hc f hf => ((hfields c hc).2 f hf).2
        columns := hcolumns }
  · intro h
    exact ⟨⟨h.components, h.routes, h.classes, fun c hc => ⟨h.fieldNames c hc, fun f hf =>
      ⟨h.options c hc f hf, h.ranges c hc f hf⟩⟩⟩, h.columns⟩

/-! ### Permissive runs

Only the lack of components is fatal; every other issue is an error or a warning. -/

theorem harmless_issuesOfFields_false (component : String) (seen : List String)
    (fields : List Field) : Harmless false (issuesOfFields component seen fields) := by
  induction fields generalizing seen with
  | nil => exact harmless_nil false
  | cons f fields ih =>
      rw [issuesOfFields, harmless_append, harmless_append, harmless_append]
      refine ⟨⟨⟨?_, ?_⟩, ?_⟩, ih _⟩
      · rw [fieldNameIssues]
        split <;> simp [Severity.stops]
      · rw [fieldKindIssues]
        split
        · simp [Severity.stops]
        · split <;> simp [Severity.stops]
      · rw [rangeIssues]
        split
        · split <;> simp [rangeIssue, Severity.stops]
        · exact harmless_nil false

theorem harmless_issuesOfComponents_false (seen : NamesSeen) (components : List Component) :
    Harmless false (issuesOfComponents seen components) := by
  induction components generalizing seen with
  | nil => exact harmless_nil false
  | cons c components ih =>
      rw [issuesOfComponents, harmless_append, harmless_append, harmless_append]
      refine ⟨⟨⟨?_, ?_⟩, harmless_issuesOfFields_false _ _ _⟩, ih _⟩
      · rw [routeIssues]
        split <;> simp [Severity.stops]
      · rw [classIssues]
        split
        · split <;> simp [Severity.stops]
        · exact harmless_nil false

theorem harmless_columnsIssues_false (layout : Option Layout) :
    Harmless false (columnsIssues layout) := by
  cases layout with
  | none => exact harmless_nil false
  | some l =>
      rw [columnsIssues]
      split <;> simp [columnsIssue, Severity.stops]

theorem harmless_issuesOf_false {spec : Specification} {layout : Option Layout} :
    Harmless false (issuesOf spec layout) ↔ spec.components ≠ [] := by
  rw [issuesOf, harmless_append, harmless_append, harmless_emptinessIssues]
  exact ⟨fun h => h.1.1, fun h =>
    ⟨⟨h, harmless_issuesOfComponents_false _ _⟩, harmless_columnsIssues_false _⟩⟩

/-- The ranges of a consistent specification have values and its number of columns is supported, so
that there is no number to tell. -/
theorem isTellable_of_consistent {spec : Specification} {layout : Option Layout}
    (h : spec.Consistent layout) : spec.isTellable layout = true := by
  rw [Specification.isTellable, Bool.and_eq_true]
  constructor
  · refine List.all_eq_true.mpr fun c hc => List.all_eq_true.mpr fun f hf => ?_
    rw [Field.isTellable]
    split
    · rename_i low high hrange
      rw [h.ranges c hc f hf low high hrange]
      rfl
    · rfl
  · cases layout with
    | none => rfl
    | some l =>
        rw [Option.all_some]
        refine Number.isShort_of_lt ?_
        rcases h.columns l rfl with heq | heq | heq <;> rw [heq] <;> decide

theorem issues_of_ok {spec : Specification} {layout : Option Layout} {strict : Bool}
    {issues : List Issue} (h : checkSpecification spec layout strict = .ok issues) :
    findIssues spec layout = .ok issues := by
  rcases checkSpecification_cases spec layout strict with ⟨-, heq⟩ | ⟨htold, -, heq⟩ | ⟨-, -, heq⟩
  · exact absurd (heq.symm.trans h) (by simp)
  · exact findIssues_eq_ok.mpr ⟨htold, Except.ok.inj (heq.symm.trans h)⟩
  · exact absurd (heq.symm.trans h) (by simp)

theorem ok_iff_harmless {spec : Specification} {layout : Option Layout} {strict : Bool} :
    (∃ issues, checkSpecification spec layout strict = .ok issues) ↔
      spec.isTellable layout = true ∧ Harmless strict (issuesOf spec layout) := by
  rcases checkSpecification_cases spec layout strict with
    ⟨hlong, heq⟩ | ⟨htold, hharmless, heq⟩ | ⟨-, hstops, heq⟩
  · simp [heq, hlong]
  · exact iff_of_true ⟨_, heq⟩ ⟨htold, hharmless⟩
  · simp [heq, hstops]

theorem consistent_of_ok {spec : Specification} {layout : Option Layout} {issues : List Issue}
    (h : checkSpecification spec layout true = .ok issues) : spec.Consistent layout :=
  harmless_issuesOf.mp (ok_iff_harmless.mp ⟨issues, h⟩).2

theorem components_of_ok {spec : Specification} {layout : Option Layout} {strict : Bool}
    {issues : List Issue} (h : checkSpecification spec layout strict = .ok issues) :
    spec.components ≠ [] := by
  cases strict with
  | true => exact (consistent_of_ok h).components
  | false => exact harmless_issuesOf_false.mp (ok_iff_harmless.mp ⟨issues, h⟩).2

theorem error_cases {spec : Specification} {layout : Option Layout} {strict : Bool}
    {e : CheckError} (h : checkSpecification spec layout strict = .error e) :
    e = .oversized {} ∨ findIssues spec layout = .ok (issuesOf spec layout) ∧
      e = .specification ⟨stopping strict (issuesOf spec layout)⟩ := by
  rcases checkSpecification_cases spec layout strict with ⟨-, heq⟩ | ⟨-, -, heq⟩ | ⟨htold, -, heq⟩
  · exact .inl (Except.error.inj (h.symm.trans heq))
  · exact absurd (heq.symm.trans h) (by simp)
  · exact .inr ⟨findIssues_eq_ok.mpr ⟨htold, rfl⟩, Except.error.inj (h.symm.trans heq)⟩

end Check

open Check

/-- A strict run goes on with exactly the consistent specifications, and a permissive one with
exactly those that have a component and no issue with a number that is too long. A run that goes on
is told all issues. One that is stopped by issues is told those that stop it, in the order in which
they are found, and any other is stopped because the issues cannot be told, whatever its mode. -/
theorem checkSpecification_verdict (spec : Specification) (layout : Option Layout) :
    ((∃ issues, checkSpecification spec layout true = .ok issues) ↔ spec.Consistent layout) ∧
    ((∃ issues, checkSpecification spec layout false = .ok issues) ↔
      spec.components ≠ [] ∧ spec.isTellable layout = true) ∧
    (∀ strict issues, checkSpecification spec layout strict = .ok issues →
      findIssues spec layout = .ok issues) ∧
    (∀ strict e, checkSpecification spec layout strict = .error (.specification e) →
      ∃ issues, findIssues spec layout = .ok issues ∧
        e.issues = issues.filter fun i =>
          decide (i.severity = .fatal ∨ (strict = true ∧ i.severity = .error))) ∧
    ∀ strict, (checkSpecification spec layout strict = .error (.oversized {}) ↔
        spec.isTellable layout = false) ∧
      (spec.isTellable layout = false → findIssues spec layout = .error {}) := by
  refine ⟨?_, ?_, fun strict issues hok => issues_of_ok hok, fun strict e herror => ?_,
    fun strict => ⟨?_, fun hlong => by rw [findIssues_eq, hlong, Number.limited_false]⟩⟩
  · rw [ok_iff_harmless, harmless_issuesOf]
    exact and_iff_right_of_imp isTellable_of_consistent
  · rw [ok_iff_harmless, harmless_issuesOf_false, and_comm]
  · rcases error_cases herror with heq | ⟨hissues, heq⟩
    · exact absurd heq (by simp)
    · exact ⟨_, hissues, congrArg SpecificationError.issues (CheckError.specification.inj heq)⟩
  · rcases checkSpecification_cases spec layout strict with
      ⟨hlong, heq⟩ | ⟨htold, -, heq⟩ | ⟨htold, -, heq⟩
    · exact iff_of_true heq hlong
    · simp [heq, htold]
    · simp [heq, htold]

/-- The specification has a component, and a permissive run is stopped nevertheless: the issue of
the number of columns cannot be told. -/
theorem checkSpecification_oversized :
    ∃ (spec : Specification) (layout : Option Layout),
      spec.components ≠ [] ∧ ∀ issues, checkSpecification spec layout false ≠ .ok issues := by
  refine ⟨⟨"shop", [{ name := "Home" }], .horizontal, none⟩, some { columns := Number.firstLong },
    List.cons_ne_nil _ _, fun issues hok => ?_⟩
  have htold := (ok_iff_harmless.mp ⟨issues, hok⟩).1
  rw [Specification.isTellable, Option.all_some, Number.isShort_firstLong, Bool.and_false] at htold
  cases htold

end Formwork
