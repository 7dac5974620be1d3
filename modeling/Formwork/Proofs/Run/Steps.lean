import Formwork.Proofs.SpecificationFile.Loading
import Formwork.Run

/-!
Steps of a run, as functions from sessions to outcomes and sessions. What a composition comes to is
what its parts come to one after the other, up to the first that fails.

Up to the commands a run only reads: its steps compute a value from the files, print, and note how
far they are. `Computes` says this of a step together with the value that it computes. A step that
fails has no value to compute, unless its failure is one that a run passes on.
-/

namespace Formwork.Run

variable {α β : Type}

def runIn (m : RunM α) (s : Session) : Except RunError α × Session := m.run.run s

@[simp] theorem runIn_pure (a : α) (s : Session) : runIn (pure a) s = (.ok a, s) := rfl

@[simp] theorem runIn_throw (e : RunError) (s : Session) :
    runIn (throw e : RunM α) s = (.error e, s) := rfl

@[simp] theorem runIn_note (change : Progress → Progress) (s : Session) :
    runIn (note change) s = (.ok (), { s with progress := change s.progress }) := rfl

theorem runIn_bind (m : RunM α) (f : α → RunM β) (s : Session) :
    runIn (m >>= f) s =
      match runIn m s with
      | (.ok a, s') => runIn (f a) s'
      | (.error e, s') => (.error e, s') := by
  show (ExceptT.bind m f).run.run s = _
  simp only [ExceptT.bind, ExceptT.run, runIn, ExceptT.bindCont, ExceptT.mk, bind, StateT.bind,
    StateT.run]
  cases m s with
  | mk outcome s' =>
      cases outcome <;> rfl

theorem runIn_bind_ok {m : RunM α} {f : α → RunM β} {s s' : Session} {a : α}
    (h : runIn m s = (.ok a, s')) : runIn (m >>= f) s = runIn (f a) s' := by
  rw [runIn_bind, h]

theorem runIn_bind_error {m : RunM α} {f : α → RunM β} {s s' : Session} {e : RunError}
    (h : runIn m s = (.error e, s')) : runIn (m >>= f) s = (.error e, s') := by
  rw [runIn_bind, h]

theorem runIn_bind_eq_ok {m : RunM α} {f : α → RunM β} {s s' : Session} {b : β}
    (h : runIn (m >>= f) s = (.ok b, s')) :
    ∃ a s₁, runIn m s = (.ok a, s₁) ∧ runIn (f a) s₁ = (.ok b, s') := by
  rw [runIn_bind] at h
  cases hrun : runIn m s with
  | mk outcome s₁ =>
      rw [hrun] at h
      cases outcome with
      | ok a => exact ⟨a, s₁, rfl, h⟩
      | error e => exact absurd (congrArg Prod.fst h) (by simp)

/-- What holds between the sessions before and after each of two steps, and is passed on from step
to step, holds between the sessions before and after both, wherever they fail. -/
theorem runIn_bind_rel {R : Session → Session → Prop}
    (htrans : ∀ {s s' s''}, R s s' → R s' s'' → R s s'') {m : RunM α} {f : α → RunM β}
    (hm : ∀ s, R s (runIn m s).2) (hf : ∀ a s, R s (runIn (f a) s).2) (s : Session) :
    R s (runIn (m >>= f) s).2 := by
  have hfirst := hm s
  rw [runIn_bind]
  cases hrun : runIn m s with
  | mk outcome s' =>
      rw [hrun] at hfirst
      cases outcome with
      | ok a => exact htrans hfirst (hf a s')
      | error e => exact hfirst

theorem runIn_tryCatch (m : RunM α) (handle : RunError → RunM α) (s : Session) :
    runIn (tryCatch m handle) s =
      match runIn m s with
      | (.ok a, s') => (.ok a, s')
      | (.error e, s') => runIn (handle e) s' := by
  show (ExceptT.tryCatch m handle).run.run s = _
  simp only [ExceptT.tryCatch, ExceptT.run, runIn, ExceptT.mk, bind, StateT.bind, StateT.run]
  cases m s with
  | mk outcome s' =>
      cases outcome <;> rfl

theorem runIn_tryCatch_ok {m : RunM α} {handle : RunError → RunM α} {s s' : Session} {a : α}
    (h : runIn m s = (.ok a, s')) : runIn (tryCatch m handle) s = (.ok a, s') := by
  rw [runIn_tryCatch, h]

theorem runIn_tryCatch_error {m : RunM α} {handle : RunError → RunM α} {s s' : Session}
    {e : RunError} (h : runIn m s = (.error e, s')) :
    runIn (tryCatch m handle) s = runIn (handle e) s' := by
  rw [runIn_tryCatch, h]

/-! ### Steps that only read -/

/-- What is not on the console, and is no note, is as it was. -/
structure Unchanged (s s' : Session) : Prop where
  tree : s'.tree = s.tree
  replies : s'.replies = s.replies
  calls : s'.calls = s.calls
  success : s'.progress.success = s.progress.success

theorem Unchanged.refl (s : Session) : Unchanged s s := ⟨rfl, rfl, rfl, rfl⟩

theorem Unchanged.trans {s s' s'' : Session} (h : Unchanged s s') (h' : Unchanged s' s'') :
    Unchanged s s'' :=
  ⟨h'.tree.trans h.tree, h'.replies.trans h.replies, h'.calls.trans h.calls,
    h'.success.trans h.success⟩

def Tells (value : Option α) : Except RunError α → Prop
  | .ok a => value = some a
  | .error e => e.expected? = none ∨ value = none

/-- Steps that only read, and compute a value of the files. -/
def Computes (m : RunM α) (value : FileTree → Option α) : Prop :=
  ∀ s, Unchanged s (runIn m s).2 ∧ Tells (value s.tree) (runIn m s).1

theorem computes_pure (a : α) : Computes (pure a) fun _ => some a :=
  fun s => ⟨.refl s, rfl⟩

theorem computes_throw (e : RunError) : Computes (throw e : RunM α) fun _ => none :=
  fun s => ⟨.refl s, .inr rfl⟩

theorem Computes.bind {m : RunM α} {f : α → RunM β} {value : FileTree → Option α}
    {value' : α → FileTree → Option β} (hm : Computes m value)
    (hf : ∀ a, Computes (f a) (value' a)) :
    Computes (m >>= f) fun t => (value t).bind fun a => value' a t := by
  intro s
  obtain ⟨hsame, htells⟩ := hm s
  rw [runIn_bind]
  cases hrun : runIn m s with
  | mk outcome s' =>
      rw [hrun] at hsame htells
      cases outcome with
      | ok a =>
          obtain ⟨hsame', htells'⟩ := hf a s'
          refine ⟨hsame.trans hsame', ?_⟩
          have hvalue : value s.tree = some a := htells
          show Tells ((value s.tree).bind fun a => value' a s.tree) _
          rw [hvalue, ← hsame.tree]
          exact htells'
      | error e =>
          refine ⟨hsame, ?_⟩
          rcases htells with hunexpected | hnone
          · exact .inl hunexpected
          · refine .inr ?_
            show (value s.tree).bind _ = none
            rw [hnone]
            rfl

theorem Computes.then {m : RunM Unit} {m' : RunM β} {value : FileTree → Option β}
    (hm : Computes m fun _ => some ()) (hm' : Computes m' value) :
    Computes (m >>= fun _ => m') value :=
  hm.bind fun _ => hm'

theorem computes_get {f : Session → RunM α} {value : FileTree → Option α}
    (hf : ∀ s, Computes (f s) fun _ => value s.tree) : Computes (get >>= f) value :=
  fun s => hf s s

/-- A step that computes nothing of its own ends well, or fails in a way that a run passes on. -/
theorem Computes.cases {m : RunM Unit} (hm : Computes m fun _ => some ()) (s : Session) :
    ∃ s', Unchanged s s' ∧
      (runIn m s = (.ok (), s') ∨ ∃ e, e.expected? = none ∧ runIn m s = (.error e, s')) := by
  obtain ⟨hsame, htells⟩ := hm s
  cases hrun : runIn m s with
  | mk outcome s' =>
      rw [hrun] at hsame htells
      cases outcome with
      | ok u => exact ⟨s', hsame, .inl rfl⟩
      | error e => exact ⟨s', hsame, .inr ⟨e, htells.resolve_right (by simp), rfl⟩⟩

/-- Printing fails only on what is no markup, and a run does not pass that on. -/
theorem computes_say (site : Site) (item : Console.Item) :
    Computes (say site item) fun _ => some () := by
  intro s
  rw [say]
  cases item.output site.width with
  | ok text => exact ⟨⟨rfl, rfl, rfl, rfl⟩, rfl⟩
  | error e => exact ⟨.refl s, .inl rfl⟩

theorem computes_sayAll (site : Site) (items : List Console.Item) :
    Computes (sayAll site items) fun _ => some () := by
  induction items with
  | nil => exact computes_pure ()
  | cons item items ih => exact (computes_say site item).then ih

theorem computes_note {change : Progress → Progress}
    (h : ∀ p, (change p).success = p.success) : Computes (note change) fun _ => some () :=
  fun s => ⟨⟨rfl, rfl, rfl, h s.progress⟩, rfl⟩

theorem computes_complete (stage : Stage) : Computes (complete stage) fun _ => some () :=
  computes_note fun _ => rfl

/-! ### The stages up to the commands -/

def loaded? (site : Site) (path : Value) (t : FileTree) : Option Specification :=
  (path.asPath.toOption.map Path.ofString).bind fun path =>
    (SpecificationFile.load site.account t site.current path).toOption

def single (name : String) (text : List Char) : FileTree :=
  ⟨[([name], .file (Text.Utf8.encode text))]⟩

theorem loaded_single {account : SpecificationFile.Account} {width : Nat} {name : String}
    {text : List Char} {format : SpecificationFile.Format} {spec : Specification}
    (hformat : SpecificationFile.formats.lookup (Text.lower (Path.ofString name).suffix) =
      some format)
    (hread : (single name text).read [] (.ofString name) = .ok (Text.Utf8.encode text))
    (hreturn : '\r' ∉ text)
    (htext : (SpecificationFile.ofText account (.ofString name) format text).toOption =
      some spec) :
    loaded? ⟨[], width, account⟩ (.str name) (single name text) = some spec := by
  show (SpecificationFile.load account (single name text) [] (.ofString name)).toOption = some spec
  rw [SpecificationFile.load_of_read hformat hread, Text.Utf8.decode_encode]
  simp only [Text.unifyNewlines_of_not_mem hreturn, htext]

def layout? (settings : LooseSettings) : Option Layout := settings.layout.toExcept.toOption

def validated? (settings : LooseSettings) (spec : Specification) : Option Unit :=
  (layout? settings).bind fun layout =>
    (checkSpecification spec (some layout) settings.isStrict).toOption.map fun _ => ()

def generated? (settings : LooseSettings) (spec : Specification) : Option GenerationResult :=
  (layout? settings).bind fun layout => (spec.generate layout settings.workspace).toOption

def planned? (site : Site) (settings : LooseSettings) (path : Value) (t : FileTree) :
    Option GenerationResult :=
  (loaded? site path t).bind fun spec =>
    (validated? settings spec).bind fun _ => generated? settings spec

theorem computes_pathOf (path : Value) :
    Computes (pathOf path) fun _ => path.asPath.toOption.map Path.ofString := by
  rw [pathOf]
  cases path.asPath with
  | ok text => exact computes_pure (Path.ofString text)
  | error m => exact computes_throw (.path m)

theorem computes_load (site : Site) (path : Value) :
    Computes (load site path) (loaded? site path) := by
  refine (computes_sayAll site _).then ((computes_pathOf path).bind fun path => ?_)
  refine computes_get fun s => ?_
  cases SpecificationFile.load site.account s.tree site.current path with
  | ok spec =>
      exact (computes_say site _).then ((computes_note (by intro p; rfl)).then
        ((computes_complete .load).then (computes_pure spec)))
  | error e => exact computes_throw (.ofLoad e)

theorem computes_layoutOf (settings : LooseSettings) :
    Computes (layoutOf settings) fun _ => layout? settings := by
  rw [layoutOf, layout?]
  cases settings.layout with
  | value layout => exact computes_pure layout
  | faulty faults => exact computes_throw (.layout faults)

theorem computes_validate (site : Site) (settings : LooseSettings) (spec : Specification) :
    Computes (validate site settings spec) fun _ => validated? settings spec := by
  refine (computes_sayAll site _).then ((computes_layoutOf settings).bind fun layout => ?_)
  cases checkSpecification spec (some layout) settings.isStrict with
  | error e => exact computes_throw (.ofCheck e)
  | ok issues =>
      have hnotes : Computes (note (fun p => { p with warnings := issues.map Issue.text }) >>=
          fun _ => complete .validate) fun _ => some () :=
        (computes_note (by intro p; rfl)).then (computes_complete .validate)
      refine (computes_sayAll site _).then ?_
      show Computes (if issues.isEmpty then _ else _) _
      split
      · exact (computes_say site _).then hnotes
      · exact (computes_pure ()).then hnotes

theorem computes_generate (site : Site) (settings : LooseSettings) (spec : Specification) :
    Computes (generate site settings spec) fun _ => generated? settings spec := by
  refine (computes_sayAll site _).then ((computes_layoutOf settings).bind fun layout => ?_)
  cases spec.generate layout settings.workspace with
  | error e => exact computes_throw (.ofGeneration e)
  | ok result =>
      exact (computes_say site _).then ((computes_note (by intro p; rfl)).then
        ((computes_complete .generate).then (computes_pure result)))

def prepare (site : Site) (settings : LooseSettings) (path : Value) : RunM GenerationResult := do
  let spec ← load site path
  validate site settings spec
  generate site settings spec

theorem computes_prepare (site : Site) (settings : LooseSettings) (path : Value) :
    Computes (prepare site settings path) (planned? site settings path) :=
  (computes_load site path).bind fun spec =>
    (computes_validate site settings spec).bind fun _ => computes_generate site settings spec

theorem computes_reportPlan (site : Site) (result : GenerationResult) :
    Computes (reportPlan site result) fun _ => some () :=
  (computes_say site _).then (computes_sayAll site _)

end Formwork.Run
