import Formwork.Proofs.Generation.Result

/-!
Histories of a generator. A generator may be told to go on to any state, to start again, to
generate and to work on something else, in any order. Its history stays a part of the chain of
states that ends where it is: one more state is added only if it is the next one, and whatever
starts again starts at the first state. So no generation is affected by what was done before it. A
generation stops on its way if a number is too long to be written, and at its start for want of a
component or of commands.
-/

namespace Formwork

/-- Commands can be put together unless their package is no text. -/
theorem Skeleton.eq_of_faulty {s : Skeleton} {spec : Specification} {layout : Layout}
    {faults : List Schema.Fault} (h : s.invocations spec layout = .faulty faults) :
    ∃ faults' installs, s = .commands (.faulty faults') installs := by
  cases s with
  | commands package installs =>
      cases package with
      | faulty faults' => exact ⟨faults', installs, rfl⟩
      | value package =>
          exact absurd h (by simp [invocations, Schema.Reading.under, Schema.Reading.map])
  | files => exact absurd h (by simp [invocations])
  | none => exact absurd h (by simp [invocations])

namespace Generator

/-! ### Operations -/

inductive Operation
  | generate
  | advance (target : GenerationState)
  | reset
  | replaceSpec (spec : Specification)
  | replaceLayout (layout : Layout)
  | replaceSkeleton (skeleton : Skeleton)

/-- The generator behind an operation. A state that is not the next one is refused, and nothing is
changed then. -/
def perform (g : Generator) : Operation → Generator
  | .generate => g.generate.1
  | .advance target =>
    match g.advance target with
    | .ok g' => g'
    | .error _ => g
  | .reset => g.reset
  | .replaceSpec spec => { g with spec }
  | .replaceLayout layout => { g with layout }
  | .replaceSkeleton skeleton => { g with skeleton }

def performAll (g : Generator) (operations : List Operation) : Generator :=
  operations.foldl perform g

/-- Whether an operation starts again at the first state. -/
def Operation.restarts : Operation → Bool
  | .generate | .reset => true
  | _ => false

def renewed (g : Generator) : Generator :=
  { spec := g.spec, layout := g.layout, skeleton := g.skeleton }

/-! ### Generating -/

inductive Outcome (g : Generator) : Generator × Except GenerationError GenerationResult → Prop
  | refused (hempty : g.spec.components = []) :
    Outcome g (g.reset,
      .error (.specification (.because "specification must declare at least one component")))
  | unrunnable {faults : List Schema.Fault} (hne : g.spec.components ≠ [])
    (hfaulty : g.skeleton.invocations g.spec g.layout = .faulty faults) :
    Outcome g (g.reset, .error (.invocation faults))
  | oversized {invocations : List Invocation} (hne : g.spec.components ≠ [])
    (hinvocations : g.skeleton.invocations g.spec g.layout = .value invocations)
    (hlong : g.spec.isWritable g.layout = false) :
    Outcome g ({ g with state := .skeletonRequested, history := [.init, .skeletonRequested] },
      .error (.template Template.tooLong))
  | finished {artifacts : List Artifact} {invocations : List Invocation}
    (hne : g.spec.components ≠ [])
    (hinvocations : g.skeleton.invocations g.spec g.layout = .value invocations)
    (hwritable : g.spec.isWritable g.layout = true) :
    Outcome g ({ g with state := .done, history := GenerationState.all },
      .ok
        { projectName := g.spec.projectName, artifacts, invocations,
          states := GenerationState.all })

theorem generate_outcome (g : Generator) : Outcome g g.generate := by
  cases hcomponents : g.spec.components with
  | nil =>
      have hrefused : g.generate = (g.reset, .error (.specification
          (.because "specification must declare at least one component"))) := by
        rw [generate, hcomponents, List.isEmpty_nil, if_pos rfl]
      rw [hrefused]
      exact .refused hcomponents
  | cons first rest =>
      have hne : g.spec.components ≠ [] := by simp [hcomponents]
      cases hinvocations : g.skeleton.invocations g.spec g.layout with
      | faulty faults =>
          have hunrunnable : g.generate = (g.reset, .error (.invocation faults)) := by
            rw [generate, hcomponents, List.isEmpty_cons, if_neg Bool.false_ne_true, hinvocations]
          rw [hunrunnable]
          exact .unrunnable hne hinvocations
      | value invocations =>
          obtain ⟨own, hown⟩ := g.skeleton.artifacts_total g.spec g.layout
          obtain ⟨p, hp⟩ := exists_rendered hne g.layout
          rw [generate_eq hcomponents hinvocations hown hp]
          split
          case isTrue hwritable => exact .finished hne hinvocations hwritable
          case isFalse hlong => exact .oversized hne hinvocations (eq_false_of_ne_true hlong)

/-- Where there is a component, a package that is a text and no number that is too long, a
generation comes to its end. -/
theorem generate_finished {g : Generator} (hne : g.spec.components ≠ [])
    (htext : ∀ faults installs, g.skeleton ≠ .commands (.faulty faults) installs)
    (hwritable : g.spec.isWritable g.layout = true) :
    ∃ result, g.generate =
      ({ g with state := .done, history := GenerationState.all }, .ok result) := by
  have houtcome := g.generate_outcome
  generalize g.generate = outcome at houtcome ⊢
  cases houtcome with
  | refused hempty => exact absurd hempty hne
  | unrunnable _ hfaulty =>
      obtain ⟨faults, installs, hskeleton⟩ := Skeleton.eq_of_faulty hfaulty
      exact absurd hskeleton (htext faults installs)
  | oversized _ _ hlong => exact absurd (hwritable.symm.trans hlong) (by simp)
  | finished => exact ⟨_, rfl⟩

/-- A generation starts at the first state, wherever the generator is. -/
theorem generate_renewed (g : Generator) : g.renewed.generate = g.generate := rfl

/-! ### The chain of states -/

theorem Follows.prefix_concat {s t : GenerationState} {passed states : List GenerationState}
    (hstates : Follows s states) (hlast : (states.getLastD s).next? = none)
    (hpassed : passed <+: states) (hnext : (passed.getLastD s).next? = some t) :
    passed ++ [t] <+: states := by
  induction passed generalizing s states with
  | nil =>
      cases states with
      | nil => exact absurd (hnext.symm.trans hlast) (by simp)
      | cons a states =>
          have ha : a = t := Option.some.inj (hstates.1.symm.trans hnext)
          exact ha ▸ List.prefix_append [a] states
  | cons a passed ih =>
      cases states with
      | nil => exact absurd hpassed (by simp)
      | cons b states =>
          obtain ⟨rfl, hrest⟩ := List.cons_prefix_cons.mp hpassed
          rw [List.getLastD_cons] at hlast hnext
          exact List.cons_prefix_cons.mpr ⟨rfl, ih hstates.2 hlast hrest hnext⟩

theorem chain_follows : Follows .init chain := ⟨rfl, rfl, rfl, rfl, rfl, trivial⟩

/-- Where a generator is: the states it has passed behind the first one, and whether the first one
is on record, which it is as soon as the generator was started again. -/
structure At (g : Generator) (restarted : Bool) (passed : List GenerationState) : Prop where
  isPrefix : passed <+: chain
  state : g.state = passed.getLastD .init
  history : g.history = if restarted then .init :: passed else passed

section

variable {g : Generator} {restarted : Bool} {passed : List GenerationState}

theorem at_reset (g : Generator) : At g.reset true [] := ⟨List.nil_prefix, rfl, rfl⟩

/-- A generation ends behind the last state, behind the workspace, or where it started. -/
theorem at_generate (g : Generator) : ∃ passed, At g.generate.1 true passed := by
  have houtcome := g.generate_outcome
  generalize g.generate = outcome at houtcome ⊢
  cases houtcome with
  | refused => exact ⟨[], g.at_reset⟩
  | unrunnable => exact ⟨[], g.at_reset⟩
  | oversized => exact ⟨[.skeletonRequested], List.prefix_append _ _, rfl, rfl⟩
  | finished => exact ⟨chain, List.prefix_rfl, rfl, rfl⟩

theorem At.advance {t : GenerationState} (h : At g restarted passed)
    (hnext : g.state.next? = some t) :
    At { g with state := t, history := g.history ++ [t] } restarted (passed ++ [t]) where
  isPrefix := chain_follows.prefix_concat rfl h.isPrefix (h.state ▸ hnext)
  state := List.getLastD_concat.symm
  history := by cases restarted <;> rw [h.history] <;> rfl

theorem At.perform (h : At g restarted passed) (o : Operation) :
    ∃ passed', At (g.perform o) (o.restarts || restarted) passed' := by
  cases o with
  | generate => exact g.at_generate
  | reset => exact ⟨[], g.at_reset⟩
  | replaceSpec spec => exact ⟨passed, h.isPrefix, h.state, h.history⟩
  | replaceLayout layout => exact ⟨passed, h.isPrefix, h.state, h.history⟩
  | replaceSkeleton skeleton => exact ⟨passed, h.isPrefix, h.state, h.history⟩
  | advance t =>
      by_cases hnext : g.state.next? = some t
      · rw [Generator.perform, advance_eq hnext]
        exact ⟨passed ++ [t], h.advance hnext⟩
      · rw [Generator.perform, Generator.advance, if_neg hnext]
        exact ⟨passed, h⟩

theorem At.performAll (h : At g restarted passed) (operations : List Operation) :
    ∃ passed', At (g.performAll operations)
      (operations.any Operation.restarts || restarted) passed' := by
  induction operations generalizing g restarted passed with
  | nil => exact ⟨passed, h⟩
  | cons o operations ih =>
      obtain ⟨passed', hstep⟩ := h.perform o
      have hrun := ih hstep
      rw [← Bool.or_assoc, Bool.or_comm (operations.any _)] at hrun
      exact hrun

/-! ### Histories -/

theorem At.history_infix (h : At g restarted passed) : g.history <:+: GenerationState.all := by
  have hall : .init :: passed <+: GenerationState.all := List.cons_prefix_cons.mpr ⟨rfl, h.isPrefix⟩
  rw [h.history]
  cases restarted with
  | true => exact hall.isInfix
  | false => exact (List.suffix_cons .init passed).isInfix.trans hall.isInfix

theorem At.nodup_history (h : At g restarted passed) : g.history.Nodup :=
  h.history_infix.sublist.nodup (by decide)

theorem At.getLast?_history (h : At g restarted passed) (hne : g.history ≠ []) :
    g.history.getLast? = some g.state := by
  rw [h.history] at hne ⊢
  rw [h.state, List.getLastD_eq_getLast?]
  cases restarted with
  | true => exact List.getLast?_cons
  | false =>
      obtain ⟨t, ht⟩ : ∃ t, passed.getLast? = some t :=
        ⟨_, List.getLast?_eq_some_getLast hne⟩
      rw [if_neg Bool.false_ne_true, ht]
      rfl

theorem At.head?_history (h : At g true passed) : g.history.head? = some .init := by
  rw [h.history]
  rfl

end

theorem advance_of_ne {g : Generator} {t : GenerationState} (h : g.state.next? ≠ some t) :
    g.advance t = .error ⟨g.state, t⟩ := by
  rw [advance, if_neg h]

/-- What is true of a generator whatever was done with it. Its history is a part of the chain of
states without a repetition, ends where the generator is and, once it was started again, begins at
the first state. It goes on to the next state and to no other. It generates what a new generator for
the same work generates: without a component it refuses to, and is back at the first state; with one
it goes through the whole chain and gives a result, unless its commands have a package that is no
text, which leaves it at the first state as well, or a number is too long to be written, which
leaves it behind the workspace. -/
theorem performAll_orderly (spec : Specification) (layout : Layout) (skeleton : Skeleton)
    (operations : List Operation) :
    let g := performAll { spec, layout, skeleton } operations
    g.history <:+: GenerationState.all ∧ g.history.Nodup ∧
      (g.history ≠ [] → g.history.getLast? = some g.state) ∧
      (operations.any Operation.restarts = true → g.history.head? = some .init) ∧
      (∀ t, g.state.next? = some t →
        g.advance t = .ok { g with state := t, history := g.history ++ [t] }) ∧
      (∀ t, g.state.next? ≠ some t →
        g.advance t = .error ⟨g.state, t⟩ ∧ g.perform (.advance t) = g) ∧
      g.generate = g.renewed.generate ∧ Outcome g g.generate ∧
      (g.spec.components ≠ [] →
        (∀ faults installs, g.skeleton ≠ .commands (.faulty faults) installs) →
        g.spec.isWritable g.layout = true →
        ∃ result, g.generate =
          ({ g with state := .done, history := GenerationState.all }, .ok result)) := by
  intro g
  have hnew : At { spec, layout, skeleton } false [] := ⟨List.nil_prefix, rfl, rfl⟩
  obtain ⟨passed, hrun⟩ := hnew.performAll operations
  refine ⟨hrun.history_infix, hrun.nodup_history, hrun.getLast?_history, fun hrestarts => ?_,
    fun t => advance_eq, fun t hnext => ⟨advance_of_ne hnext, ?_⟩, g.generate_renewed.symm,
    g.generate_outcome, generate_finished⟩
  · rw [hrestarts] at hrun
    exact hrun.head?_history
  · rw [perform, advance_of_ne hnext]

/-- A generator with a component, on a custom grid of too many columns, stops behind the
workspace. -/
theorem generate_oversized :
    ∃ g : Generator, g.spec.components ≠ [] ∧ g.skeleton = .files ∧
      g.generate.1.state = .skeletonRequested ∧
      g.generate.1.history = [.init, .skeletonRequested] ∧
      ∀ result, g.generate.2 ≠ .ok result := by
  let g : Generator :=
    { spec := ⟨"shop", [{ name := "Home" }], .horizontal, none⟩
      layout := { columns := Number.firstLong }
      skeleton := .files }
  have hlong : g.spec.isWritable g.layout = false := by
    rw [Specification.isWritable, Layout.isWritable, Number.isShort_firstLong]
    exact Bool.and_false _
  have houtcome := g.generate_outcome
  refine ⟨g, List.cons_ne_nil _ _, rfl, ?_⟩
  generalize g.generate = outcome at houtcome ⊢
  cases houtcome with
  | refused hempty => exact absurd hempty (List.cons_ne_nil _ _)
  | unrunnable _ hfaulty => exact absurd hfaulty (by simp [g, Skeleton.invocations])
  | oversized => exact ⟨rfl, rfl, fun _ => by simp⟩
  | finished _ _ hwritable => exact absurd (hwritable.symm.trans hlong) (by simp)

end Generator

/-- A generation with a result has a component, the commands of its workspace, and no number that is
too long to be written. -/
theorem Specification.of_generate_ok {spec : Specification} {layout : Layout} {skeleton : Skeleton}
    {result : GenerationResult} (h : spec.generate layout skeleton = .ok result) :
    spec.components ≠ [] ∧ spec.isWritable layout = true ∧
      ∃ invocations, skeleton.invocations spec layout = .value invocations := by
  have houtcome := Generator.generate_outcome { spec, layout, skeleton }
  rw [Specification.generate] at h
  generalize Generator.generate { spec, layout, skeleton } = outcome at houtcome h
  cases houtcome with
  | refused => cases h
  | unrunnable => cases h
  | oversized => cases h
  | finished hne hinvocations hwritable => exact ⟨hne, hwritable, _, hinvocations⟩

end Formwork
