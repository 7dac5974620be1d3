import Formwork.Proofs.Application.Form

/-!
What a generation results in. A generator goes through its chain of states without an error as
soon as each state has its artifacts, and hands out what all of them have made, in the order of the
chain. For a specification with a component every state has its artifacts: the workspace has its
own, each component has three files, and the application has five. The files of the components hold
numbers, and where one of these is too long to be written the generation stops before them.
-/

namespace Formwork

open Application Template

/-! ### The chain of states -/

namespace Generator

/-- States that follow one another, the first of them the given one. -/
def Follows : GenerationState → List GenerationState → Prop
  | _, [] => True
  | s, t :: rest => s.next? = some t ∧ Follows t rest

theorem advance_eq {g : Generator} {t : GenerationState} (h : g.state.next? = some t) :
    g.advance t = .ok { g with state := t, history := g.history ++ [t] } := by
  rw [advance, if_pos h]

/-- What a state makes depends on what is generated, and not on how far the generator is. -/
theorem produce_advanced (g : Generator) (state : GenerationState)
    (history : List GenerationState) (t : GenerationState) :
    { g with state, history }.produce t = g.produce t := by
  cases t <;> rfl

/-- States that follow one another are passed, and their artifacts are added in order. -/
theorem pass_eq {g : Generator} (made : List Artifact) {states : List GenerationState}
    {parts : List (List Artifact)} (hstates : Follows g.state states)
    (hparts : List.Forall₂ (fun t part => g.produce t = .ok part) states parts) :
    g.pass made states =
      ({ g with state := states.getLastD g.state, history := g.history ++ states },
        .ok (made ++ parts.flatten)) := by
  -- parts are made by the generator as it stands, and do not depend on its state or history
  induction states generalizing g made parts with
  | nil =>
      cases hparts
      rw [pass, List.append_nil, List.flatten_nil, List.append_nil]
      rfl
  | cons t states ih =>
      obtain ⟨hnext, hfollows⟩ := hstates
      cases hparts with
      | @cons _ part _ parts hpart hrest =>
          have hlater : List.Forall₂
              (fun t part =>
                { g with state := t, history := g.history ++ [t] }.produce t = .ok part)
              states parts := hrest.imp fun t part h => by rw [← h, produce_advanced]
          have hpass := ih (g := { g with state := t, history := g.history ++ [t] })
            (made ++ part) hfollows hlater
          rw [pass, hpart, advance_eq hnext]
          refine hpass.trans ?_
          simp only [List.getLastD_cons, List.append_assoc, List.singleton_append,
            List.flatten_cons]

theorem pass_stopped {g : Generator} (made : List Artifact) {states rest : List GenerationState}
    {parts : List (List Artifact)} {t : GenerationState} {e : GenerationError}
    (hstates : Follows g.state states)
    (hparts : List.Forall₂ (fun t part => g.produce t = .ok part) states parts)
    (hstops : g.produce t = .error e) :
    g.pass made (states ++ t :: rest) =
      ({ g with state := states.getLastD g.state, history := g.history ++ states }, .error e) := by
  induction states generalizing g made parts with
  | nil => rw [List.nil_append, pass, hstops, List.append_nil]; rfl
  | cons u states ih =>
      obtain ⟨hnext, hfollows⟩ := hstates
      cases hparts with
      | @cons _ part _ parts hpart hrest =>
          have hlater : List.Forall₂
              (fun t part =>
                { g with state := u, history := g.history ++ [u] }.produce t = .ok part)
              states parts := hrest.imp fun t part h => by rw [← h, produce_advanced]
          have hpass := ih (g := { g with state := u, history := g.history ++ [u] })
            (made ++ part) hfollows hlater (by rw [← hstops, produce_advanced])
          rw [List.cons_append, pass, hpart, advance_eq hnext]
          refine hpass.trans ?_
          simp only [List.getLastD_cons, List.append_assoc, List.singleton_append]

end Generator

/-! ### The files -/

/-- The parts of the files of an application that do not depend on one another: the bodies of the
classes, the markup of the forms, the footer and the style sheets. -/
structure Pages where
  body : Component → String
  markup : Component → String
  style : String
  footer : String
  shellStyle : String
  globalStyle : String

def Pages.componentModule (p : Pages) (c : Component) : ComponentModule where
  className := Naming.classForm c.name ++ "Component"
  selector := "app-" ++ Naming.pathForm c.name
  slug := Naming.pathForm c.name
  body := p.body c

def Pages.ofComponent (p : Pages) (c : Component) : List Artifact :=
  let path := Component.filePath Component.standardDirectory c.name
  [⟨path ++ ".ts", (p.componentModule c).text⟩, ⟨path ++ ".html", p.markup c⟩,
    ⟨path ++ ".css", p.style⟩]

def Pages.routingModule (first : Component) (components : List Component) : RoutingModule where
  imports := components.map Import.ofComponent
  routes := components.map Route.ofComponent ++ Route.redirects first

def Pages.rootModule (components : List Component) : RootModule where
  imports := components.map Import.ofComponent
  declarations := components.map fun c => Naming.classForm c.name ++ "Component"

def Pages.shell (p : Pages) (spec : Specification) (layout : Layout) : Shell where
  menu := .ofComponents spec.components spec.menuType layout
  contentClass := if layout.useBootstrap then "container mt-3" else "custom-content"
  footer := p.footer

def Pages.ofApplication (p : Pages) (spec : Specification) (layout : Layout) (first : Component) :
    List Artifact :=
  [⟨"src/app/app-routing.module.ts", (Pages.routingModule first spec.components).text⟩,
    ⟨"src/app/app.module.ts", (Pages.rootModule spec.components).text⟩,
    ⟨"src/app/app.component.html", (p.shell spec layout).text⟩,
    ⟨"src/app/app.component.css", p.shellStyle⟩, ⟨"src/styles.css", p.globalStyle⟩]

def Pages.files (p : Pages) (spec : Specification) (layout : Layout) (first : Component) :
    List Artifact :=
  (spec.components.map p.ofComponent).flatten ++ p.ofApplication spec layout first

/-- The parts are what the templates say. -/
structure Pages.Rendered (p : Pages) (spec : Specification) (layout : Layout) : Prop where
  module : ∀ c : Component,
    c.module = Number.limited tooLong c.isWritable (p.componentModule c).text
  markup : ∀ c : Component, c.markup layout = Number.limited tooLong layout.isWritable (p.markup c)
  style : Component.style layout = Number.limited tooLong layout.isWritable p.style
  shell : AppShell.markup spec.components spec.menuType spec.footerContent layout =
    .ok (p.shell spec layout).text
  shellStyle : AppShell.style spec.menuType layout = .ok p.shellStyle
  globalStyle : Generator.globalStyle layout = .ok p.globalStyle

theorem exists_rendered {spec : Specification} (hne : spec.components ≠ []) (layout : Layout) :
    ∃ p : Pages, p.Rendered spec layout := by
  choose methods hmodule using componentForm_eq
  choose markup hmarkup using fun c : Component => c.markup_limited layout
  obtain ⟨footer, hshell⟩ := shell_eq hne spec.menuType spec.footerContent layout
  obtain ⟨shellStyle, hshellStyle⟩ := AppShell.style_total spec.menuType layout
  obtain ⟨globalStyle, hglobalStyle⟩ := Generator.globalStyle_total layout
  exact ⟨
    { body := fun c => FormClass.text
        { controls := c.fields.map Control.ofField, methods := methods c },
      markup, style := _, footer, shellStyle, globalStyle },
    { module := hmodule, markup := hmarkup, style := style_eq layout, shell := hshell,
      shellStyle := hshellStyle, globalStyle := hglobalStyle }⟩

section

variable {p : Pages} {g : Generator}

theorem Pages.Rendered.files_eq (h : p.Rendered g.spec g.layout) (c : Component) :
    c.files g.layout Component.standardDirectory =
      Number.limited tooLong (c.isWritable && g.layout.isWritable) (p.ofComponent c) := by
  rw [Component.files, h.module, h.markup, h.style]
  cases c.isWritable
  · rfl
  · cases g.layout.isWritable <;> rfl

theorem Pages.Rendered.componentArtifacts_eq (h : p.Rendered g.spec g.layout)
    (hne : g.spec.components ≠ []) :
    g.componentArtifacts = Number.limited (.template tooLong) (g.spec.isWritable g.layout)
      (g.spec.components.map p.ofComponent).flatten := by
  have hall : (g.spec.components.all fun c => c.isWritable && g.layout.isWritable) =
      g.spec.isWritable g.layout := by
    obtain ⟨first, rest, hcomponents⟩ := List.exists_cons_of_ne_nil hne
    rw [Specification.isWritable, hcomponents]
    cases g.layout.isWritable <;> simp
  rw [Generator.componentArtifacts, Number.mapM_limited fun c _ => h.files_eq c, hall,
    Number.limited_mapError]
  exact Number.limited_bind_pure _ _ _ _

variable {first : Component} {rest : List Component}

theorem Generator.routingArtifacts_eq (p : Pages)
    (hcomponents : g.spec.components = first :: rest) :
    g.routingArtifacts = .ok ((p.ofApplication g.spec g.layout first).take 2) := by
  rw [Generator.routingArtifacts, hcomponents, routingModule_eq, rootModule_eq,
    Pages.ofApplication, hcomponents]
  rfl

theorem Pages.Rendered.shellArtifacts_eq (h : p.Rendered g.spec g.layout) :
    g.shellArtifacts = .ok ((p.ofApplication g.spec g.layout first).drop 2) := by
  rw [Generator.shellArtifacts, h.shell, h.shellStyle, h.globalStyle]
  rfl

end

/-- A generation is its pass through the states, once the commands of the workspace are there. -/
theorem Generator.generate_of_pass {g g' : Generator} {invocations : List Invocation}
    {artifacts : List Artifact} (hne : g.spec.components ≠ [])
    (hinvocations : g.skeleton.invocations g.spec g.layout = .value invocations)
    (hpass : g.reset.pass [] chain = (g', .ok artifacts)) :
    g.generate = (g', .ok
      { projectName := g.spec.projectName, artifacts, invocations, states := g'.history }) := by
  have hfilled : g.spec.components.isEmpty = false := by simpa using hne
  simp only [generate, hfilled, hinvocations, hpass, Bool.false_eq_true, if_false]

/-- What a generator with a component makes of it, once the commands of its workspace are there. It
stops behind the workspace if a number is too long to be written. -/
theorem Generator.generate_eq {g : Generator} {p : Pages} {first : Component}
    {rest : List Component} {invocations : List Invocation} {own : List Artifact}
    (hcomponents : g.spec.components = first :: rest)
    (hinvocations : g.skeleton.invocations g.spec g.layout = .value invocations)
    (hown : g.skeleton.artifacts g.spec g.layout = .ok own) (h : p.Rendered g.spec g.layout) :
    g.generate =
      if g.spec.isWritable g.layout then
        ({ g with state := .done, history := GenerationState.all }, .ok
          { projectName := g.spec.projectName
            artifacts := own ++ p.files g.spec g.layout first
            invocations
            states := GenerationState.all })
      else
        ({ g with state := .skeletonRequested, history := [.init, .skeletonRequested] },
          .error (.template tooLong)) := by
  have hne : g.spec.components ≠ [] := by simp [hcomponents]
  have hworkspace : g.reset.produce .skeletonRequested = .ok own :=
    congrArg (Except.mapError GenerationError.template) hown
  have hfiles : g.reset.produce .componentsGenerated = _ :=
    Pages.Rendered.componentArtifacts_eq (g := g.reset) h hne
  cases hwritable : g.spec.isWritable g.layout with
  | false =>
      have hstops : g.reset.produce .componentsGenerated = .error (.template tooLong) :=
        hfiles.trans (by
          rw [show g.reset.spec.isWritable g.reset.layout = false from hwritable]
          rfl)
      have hpass : g.reset.pass []
          ([.skeletonRequested] ++ .componentsGenerated :: chain.drop 2) = _ :=
        pass_stopped [] ⟨rfl, trivial⟩ (.cons hworkspace .nil) hstops
      replace hpass : g.reset.pass [] chain = _ := hpass
      rw [if_neg Bool.false_ne_true]
      have hfilled : g.spec.components.isEmpty = false := by simpa using hne
      simp only [generate, hfilled, hinvocations, hpass, Bool.false_eq_true, if_false]
      rfl
  | true =>
      have hchain : Follows g.reset.state chain := ⟨rfl, rfl, rfl, rfl, rfl, trivial⟩
      have hparts : List.Forall₂ (fun t part => g.reset.produce t = .ok part) chain
          [own, (g.spec.components.map p.ofComponent).flatten,
            (p.ofApplication g.spec g.layout first).take 2,
            (p.ofApplication g.spec g.layout first).drop 2, []] := by
        refine .cons hworkspace (.cons ?_ (.cons ?_ (.cons ?_ (.cons rfl .nil))))
        · exact hfiles.trans
            (by rw [show g.reset.spec.isWritable g.reset.layout = true from hwritable]; rfl)
        · exact Generator.routingArtifacts_eq (g := g.reset) p hcomponents
        · exact Pages.Rendered.shellArtifacts_eq (g := g.reset) h
      rw [generate_of_pass hne hinvocations (pass_eq [] hchain hparts)]
      rfl

/-- What a generation with a component results in, once the commands of its workspace are there. -/
theorem Specification.generate_eq {spec : Specification} {layout : Layout} {skeleton : Skeleton}
    {p : Pages} {first : Component} {rest : List Component} {invocations : List Invocation}
    {own : List Artifact} (hcomponents : spec.components = first :: rest)
    (hinvocations : skeleton.invocations spec layout = .value invocations)
    (hown : skeleton.artifacts spec layout = .ok own) (h : p.Rendered spec layout) :
    spec.generate layout skeleton = Number.limited (.template tooLong) (spec.isWritable layout)
      { projectName := spec.projectName
        artifacts := own ++ p.files spec layout first
        invocations
        states := GenerationState.all } := by
  let g : Generator := { spec, layout, skeleton }
  have hresult := congrArg Prod.snd (Generator.generate_eq (g := g) hcomponents hinvocations hown h)
  refine hresult.trans ?_
  show (if spec.isWritable layout then _ else _ : Generator × _).2 = _
  cases spec.isWritable layout <;> rfl

end Formwork
