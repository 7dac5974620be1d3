import Formwork.Proofs.Generation.Result

/-!
Specifications that are alike to a generation. Of a component a generation looks at its name, at its
label in the menu, at its module and at its markup. So specifications whose components agree in
these one by one, and which agree in the frame around them, come to the same result, whatever the
layout and the workspace are: to the same files and commands, or to the same error.
-/

namespace Formwork

/-- Components that a generation does not tell apart. -/
structure Component.Alike (c d : Component) : Prop where
  name : d.name = c.name
  menuLabel : d.menuLabel = c.menuLabel
  module : d.module = c.module
  markup : ∀ layout, d.markup layout = c.markup layout

/-- Specifications that a generation does not tell apart. -/
structure Specification.Alike (s t : Specification) : Prop where
  projectName : t.projectName = s.projectName
  menuType : t.menuType = s.menuType
  footerContent : t.footerContent = s.footerContent
  components : List.Forall₂ Component.Alike s.components t.components

/-- Lists that are related member by member have the same image under what gives related members the
same. -/
theorem map_eq_of_related {α β : Type} {R : α → α → Prop} {F : α → β}
    (hF : ∀ a b, R a b → F b = F a) {as bs : List α} (h : List.Forall₂ R as bs) :
    bs.map F = as.map F := by
  have himages : List.Forall₂ (· = ·) (as.map F) (bs.map F) := by
    rw [List.forall₂_map_left_iff, List.forall₂_map_right_iff]
    exact h.imp fun a b hab => (hF a b hab).symm
  rw [List.forall₂_eq_eq_eq] at himages
  exact himages.symm

theorem mapM_eq_of_related {α β ε : Type} {R : α → α → Prop} {F : α → Except ε β}
    (hF : ∀ a b, R a b → F b = F a) {as bs : List α} (h : List.Forall₂ R as bs) :
    bs.mapM F = as.mapM F := by
  have himages := congrArg (List.mapM id) (map_eq_of_related hF h)
  rwa [List.mapM_map, List.mapM_map] at himages

namespace Generator

variable {g g' : Generator}

/-- Generators that are equally far and make the same artifacts go through the same states. -/
theorem pass_congr (hstate : g'.state = g.state) (hhistory : g'.history = g.history)
    (hproduce : ∀ t, g'.produce t = g.produce t) (made : List Artifact)
    (states : List GenerationState) :
    (g'.pass made states).2 = (g.pass made states).2 ∧
      (g'.pass made states).1.history = (g.pass made states).1.history := by
  induction states generalizing g g' made with
  | nil => exact ⟨rfl, hhistory⟩
  | cons t states ih =>
      rw [pass, pass, hproduce, advance, advance, hstate]
      cases g.produce t with
      | error e => exact ⟨rfl, hhistory⟩
      | ok more =>
          by_cases hnext : g.state.next? = some t
          · rw [if_pos hnext, if_pos hnext, hhistory]
            have hlater : ∀ u, { g' with state := t, history := g.history ++ [t] }.produce u =
                { g with state := t, history := g.history ++ [t] }.produce u := fun u =>
              (produce_advanced g' _ _ u).trans
                ((hproduce u).trans (produce_advanced g _ _ u).symm)
            exact @ih { g with state := t, history := g.history ++ [t] }
              { g' with state := t, history := g.history ++ [t] } rfl rfl hlater (made ++ more)
          · rw [if_neg hnext, if_neg hnext]
            exact ⟨rfl, hhistory⟩

theorem generate_congr (hempty : g'.spec.components.isEmpty = g.spec.components.isEmpty)
    (hproject : g'.spec.projectName = g.spec.projectName)
    (hinvocations : g'.skeleton.invocations g'.spec g'.layout =
      g.skeleton.invocations g.spec g.layout)
    (hproduce : ∀ t, g'.produce t = g.produce t) : g'.generate.2 = g.generate.2 := by
  have hpass := @pass_congr g.reset g'.reset rfl rfl hproduce [] chain
  rw [generate, generate, hempty, hinvocations, hproject]
  split
  · rfl
  · split
    · rfl
    · generalize g'.reset.pass [] chain = outcome' at hpass ⊢
      generalize g.reset.pass [] chain = outcome at hpass ⊢
      obtain ⟨last', result'⟩ := outcome'
      obtain ⟨last, result⟩ := outcome
      obtain ⟨rfl, hhistory⟩ : result' = result ∧ last'.history = last.history := hpass
      cases result' with
      | error e => rfl
      | ok artifacts => simp only [hhistory]

end Generator

namespace Specification.Alike

variable {s t : Specification}

theorem map_components {β : Type} {F : Component → β} (h : s.Alike t)
    (hF : ∀ c d : Component, c.Alike d → F d = F c) :
    t.components.map F = s.components.map F :=
  map_eq_of_related hF h.components

theorem routingModule (h : s.Alike t) : Route.module t.components = Route.module s.components := by
  have himports : Route.imports t.components = Route.imports s.components :=
    h.map_components fun c d hcd => by rw [Route.importStatement, Route.importStatement, hcd.name]
  have hroutes : t.components.map Route.ofComponent = s.components.map Route.ofComponent :=
    h.map_components fun c d hcd => by rw [Route.ofComponent, Route.ofComponent, hcd.name]
  have htable : Route.table t.components = Route.table s.components := by
    have hcomponents := h.components
    cases hs : s.components with
    | nil =>
        rw [hs, List.forall₂_nil_left_iff] at hcomponents
        rw [hcomponents]
    | cons first rest =>
        rw [hs, List.forall₂_cons_left_iff] at hcomponents
        obtain ⟨first', rest', hfirst, -, ht⟩ := hcomponents
        rw [hs, ht] at hroutes
        rw [ht, Route.table, Route.table, hroutes, Route.redirects, Route.redirects, hfirst.name]
  rw [Route.module, Route.module, htable, himports]

theorem applicationModule (h : s.Alike t) :
    Generator.applicationModule t.components = Generator.applicationModule s.components := by
  have himports : Route.imports t.components = Route.imports s.components :=
    h.map_components fun c d hcd => by rw [Route.importStatement, Route.importStatement, hcd.name]
  have hdeclarations : (t.components.map fun c => Value.str (Naming.componentClass c.name)) =
      s.components.map fun c => .str (Naming.componentClass c.name) :=
    h.map_components fun c d hcd => by rw [hcd.name]
  rw [Generator.applicationModule, Generator.applicationModule, himports, hdeclarations]

theorem isEmpty_components (h : s.Alike t) : t.components.isEmpty = s.components.isEmpty := by
  have hnames : t.components.map (·.name) = s.components.map (·.name) :=
    h.map_components fun c d hcd => hcd.name
  simpa only [List.isEmpty_map] using congrArg List.isEmpty hnames

theorem shellMarkup (h : s.Alike t) (layout : Layout) :
    AppShell.markup t.components t.menuType t.footerContent layout =
      AppShell.markup s.components s.menuType s.footerContent layout := by
  have hlinks : AppShell.links t.components = AppShell.links s.components :=
    h.map_components fun c d hcd => by rw [hcd.menuLabel, hcd.name]
  simp only [AppShell.markup, AppShell.menu, hlinks, h.isEmpty_components, h.menuType,
    h.footerContent]

theorem produce (h : s.Alike t) {g : Generator} (hg : g.spec = s) (target : GenerationState) :
    { g with spec := t }.produce target = g.produce target := by
  subst hg
  cases target with
  | init | done => rfl
  | skeletonRequested =>
      cases hskeleton : g.skeleton <;>
        simp [Generator.produce, Skeleton.artifacts, hskeleton, h.projectName]
  | componentsGenerated =>
      have hfile : ∀ c d : Component, c.Alike d →
          d.files g.layout Component.standardDirectory =
            c.files g.layout Component.standardDirectory := fun c d hcd => by
        rw [Component.files, Component.files, hcd.module, hcd.markup, hcd.name]
      have hfiles := mapM_eq_of_related hfile h.components
      simp only [Generator.produce, Generator.componentArtifacts, hfiles]
  | routingGenerated =>
      simp only [Generator.produce, Generator.routingArtifacts, h.routingModule,
        h.applicationModule]
  | shellAssembled =>
      have hshell := h.shellMarkup g.layout
      rw [h.menuType] at hshell
      simp only [Generator.produce, Generator.shellArtifacts, hshell, h.menuType]

theorem generate (h : s.Alike t) (layout : Layout) (skeleton : Skeleton) :
    t.generate layout skeleton = s.generate layout skeleton := by
  have hinvocations : skeleton.invocations t layout = skeleton.invocations s layout := by
    simp only [Skeleton.invocations, h.projectName]
  have hproduce : ∀ target, Generator.produce { spec := t, layout, skeleton } target =
      Generator.produce { spec := s, layout, skeleton } target :=
    h.produce (g := { spec := s, layout, skeleton }) rfl
  exact Generator.generate_congr h.isEmpty_components h.projectName hinvocations hproduce

end Specification.Alike

end Formwork
