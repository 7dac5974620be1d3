import Formwork.Proofs.Application.Validation
import Formwork.Proofs.Template.Survey

/-!
Members of the class of a component. The markup of a component is bound to members of its class: to
the form, to the method that submits it, and at the choices of a list of check boxes to the method
that keeps the selection. The class has that last method only where some field is such a list, which
is found out when the module is made; the handlers are put into the markup when the fields are
rendered one by one. What is read here is the frame of the templates, since a label or an option may
hold any text, a handler in quotes among them.
-/

namespace Formwork.Application

open Template

/-! ### Readers -/

def isNamePart (c : Char) : Bool := c.isAlphanum || c = '_' || c = '$'

/-- Where a reader of markup is: between attributes, with the first character since the last blank;
in the quotes of an attribute that is not bound; in those of one that is, behind the characters of a
name in reverse, which belongs to another name in front if it follows a dot; or in a text of such an
expression. -/
inductive MarkupPlace
  | content (first : Option Char)
  | attribute
  | expression (ofOther : Bool) (word : List Char)
  | quotation
  deriving DecidableEq, Repr

/-- An attribute for a property, an event or a directive is bound to an expression. -/
def isBound (first : Option Char) : Bool := first = '[' || first = '(' || first = '*'

/-- What an expression may use without a member of that name. -/
def ambientNames : List String := ["true", "$event"]

def memberOfWord (ofOther : Bool) (word : List Char) : List String :=
  if word = [] ∨ ofOther ∨ String.ofList word.reverse ∈ ambientNames then []
  else [String.ofList word.reverse]

/-- A reader of markup, which finds the members that it is bound to. -/
def markupReader : Reader MarkupPlace
  | .content first, c =>
    if c = '"' then (if isBound first then .expression false [] else .attribute, [])
    else if c.isWhitespace || c = '<' || c = '>' then (.content none, [])
    else (.content (first.or (some c)), [])
  | .attribute, c => (if c = '"' then .content none else .attribute, [])
  | .expression ofOther word, c =>
    if isNamePart c then (.expression ofOther (c :: word), [])
    else
      (if c = '"' then .content none
        else if c = '\'' then .quotation
        else .expression (c = '.') [], memberOfWord ofOther word)
  | .quotation, c => (if c = '\'' then .expression false [] else .quotation, [])

/-- Where a reader of a module is: outside of a class or inside, behind the characters of a line in
reverse, or in the rest of a line. -/
inductive ModulePlace
  | outside (line : List Char)
  | inside (line : List Char)
  | past
  deriving DecidableEq, Repr

def memberOfLine : List Char → List String
  | ' ' :: ' ' :: word =>
    if word ≠ [] ∧ word.all isNamePart then [String.ofList word] else []
  | _ => []

def moduleReader : Reader ModulePlace
  | .outside line, c =>
    if c = '\n' then
      (if "export class ".toList.isPrefixOf line.reverse then .inside [] else .outside [], [])
    else (.outside (c :: line), [])
  | .inside line, c =>
    if c = '\n' then (if line = ['\x7d'] then .outside [] else .inside [], [])
    else if c = ':' || c = '(' then (.past, memberOfLine line.reverse)
    else (.inside (c :: line), [])
  | .past, c => (if c = '\n' then .inside [] else .past, [])

def boundNames (parts : List Part) : List String :=
  (markupReader.read (.content none) (frame parts)).2

def memberNames (parts : List Part) : List String :=
  (moduleReader.read (.outside []) (frame parts)).2

/-! ### Parts of a component -/

def moduleParts (c : Component) : Except Error (List Part) := do
  let controls ← (c.fields.mapM fun f =>
    return Component.controlEntry f (← (CompiledField.ofField f).validators)).mapError .oversized
  partsAll (c.moduleScope controls) Pages.classModule.pieces

/-- The parts of the markup of a field: those of its control, and those of the group around it. -/
structure FieldParts where
  control : List Part
  group : List Part

def FieldParts.text (p : FieldParts) : String := Text.dropFinalNewlines (joined p.group)

def fieldParts (f : Field) : Except Error FieldParts := do
  let control ← partsAll (fieldScope f) f.control.template.pieces
  let group ← partsAll (.ofMembers [("body", .str (Text.dropFinalNewlines (joined control)))])
    Fields.container.pieces
  return { control, group }

/-- The parts of the markup of a component: those of its fields, and those of the page around
them. -/
structure MarkupParts where
  fields : List FieldParts
  page : List Part

def MarkupParts.text (m : MarkupParts) : String := joined m.page

def markupParts (c : Component) (layout : Layout) : Except Error MarkupParts := do
  let fields ← c.fields.mapM fieldParts
  let columnClass ← layout.columnClass.mapError .oversized
  let page ← partsAll
    (.ofMembers
      [("fragments", .list ((fields.map FieldParts.text).map .str)),
        ("layout_class", .str layout.formClass),
        ("column_class", .str columnClass),
        ("actions_class", .str layout.actionsClass),
        ("buttons", .list ((layout.buttons c.buttons).map Component.buttonEntry))])
    Pages.markup.pieces
  return { fields, page }

def FieldParts.boundNames (p : FieldParts) : List String :=
  Application.boundNames p.group ++ Application.boundNames p.control

def MarkupParts.boundNames (m : MarkupParts) : List String :=
  Application.boundNames m.page ++ m.fields.flatMap FieldParts.boundNames

theorem module_eq (c : Component) : c.module = (moduleParts c).map joined := by
  rw [Component.module, moduleParts, controls_limited]
  cases c.fields.all fun f => (Directive.ofField f).all (·.argument.isWritable)
  · rfl
  · exact renderAll_eq (c.moduleScope (c.fields.map entryOf)) Pages.classModule.pieces

theorem fieldMarkup_eq_parts (f : Field) : f.markup = (fieldParts f).map FieldParts.text := by
  rw [Field.markup, Field.markupWith, Template.render, renderAll_eq, fieldParts]
  cases partsAll (fieldScope f) f.control.template.pieces with
  | error e => rfl
  | ok control =>
      simp only [Except.map, bind, Except.bind, Template.render, renderAll_eq]
      cases partsAll (.ofMembers [("body", .str (Text.dropFinalNewlines (joined control)))])
        Fields.container.pieces <;> rfl

theorem markup_eq (c : Component) (layout : Layout) :
    c.markup layout = (markupParts c layout).map MarkupParts.text := by
  have hfragments : c.fields.mapM Field.markup =
      (c.fields.mapM fieldParts).map (List.map FieldParts.text) := by
    rw [funext fieldMarkup_eq_parts, mapM_map]
  rw [Component.markup, hfragments, markupParts]
  cases c.fields.mapM fieldParts with
  | error e => rfl
  | ok fields =>
      cases layout.columnClass.mapError Error.oversized with
      | error e => rfl
      | ok columnClass =>
          simp only [Except.map, bind, Except.bind, Template.render, renderAll_eq]
          cases partsAll _ Pages.markup.pieces <;> rfl

/-! ### Members of the class -/

theorem survey_module :
    surveyAll moduleReader (.outside []) (Pages.classModule.pieces.take 21) =
        some (.inside [], ["form", "constructor"]) ∧
      surveyAll moduleReader (.inside []) Pages.control = some (.inside [], []) ∧
      surveyAll moduleReader (.inside []) [line "    \x7d);", line "  \x7d"] =
        some (.inside [], []) ∧
      surveyAll moduleReader (.inside []) Pages.toggleMethod =
        some (.inside [], ["toggleOption"]) ∧
      surveyAll moduleReader (.inside []) (Pages.classModule.pieces.drop 25) =
        some (.outside [], ["onSubmit"]) := by
  decide +kernel

/-- The class has the form, its constructor and the method that submits; the method for choices is
between them where some field is a list of check boxes. -/
theorem memberNames_module {c : Component} {parts : List Part} (h : moduleParts c = .ok parts) :
    memberNames parts =
      ["form", "constructor"] ++
        (if c.fields.any (fun f => f.kind == .checkboxlist) then ["toggleOption"] else []) ++
        ["onSubmit"] := by
  obtain ⟨entries, -, h⟩ := bind_eq_ok.mp h
  obtain ⟨front, _, hfront, hloop, rfl⟩ :=
    exists_of_partsAll_append (Pages.classModule.pieces.take 21) h
  obtain ⟨controls, _, hcontrols, hrest, rfl⟩ := exists_of_partsAll_cons hloop
  obtain ⟨middle, _, hmiddle, hcondition, rfl⟩ :=
    exists_of_partsAll_append [line "    \x7d);", line "  \x7d"] hrest
  obtain ⟨method, back, hmethod, hback, rfl⟩ := exists_of_partsAll_cons hcondition
  have hitems : (Datum.value (.list entries)).items = .ok (entries.map .value) := rfl
  obtain ⟨hopening, hcontrol, hclosing, htoggle, hend⟩ := survey_module
  have hfront : moduleReader.read (.outside []) (frame front) =
      (.inside [], ["form", "constructor"]) := read_of_isPlain rfl hopening hfront
  have hcontrols : moduleReader.read (.inside []) (frame controls) = (.inside [], _) :=
    read_each rfl hcontrol (eval_named rfl) hitems hcontrols
  have hmiddle : moduleReader.read (.inside []) (frame middle) = (.inside [], []) :=
    read_of_isPlain rfl hclosing hmiddle
  have hmethod : moduleReader.read (.inside []) (frame method) =
      (.inside [],
        if c.fields.any (fun f => f.kind == .checkboxlist) then ["toggleOption"] else []) :=
    read_whenTrue rfl htoggle (d := .value (.bool _)) (eval_named rfl) hmethod
  have hback : moduleReader.read (.inside []) (frame back) = (.outside [], ["onSubmit"]) :=
    read_of_isPlain rfl hend hback
  rw [List.flatten_replicate_nil] at hcontrols
  simp only [memberNames, frame_append, Reader.read_append, hfront, hcontrols, hmiddle, hmethod,
    hback, List.nil_append, List.append_assoc]

theorem toggleOption_mem_iff {c : Component} {parts : List Part} (h : moduleParts c = .ok parts) :
    "toggleOption" ∈ memberNames parts ↔ ∃ f ∈ c.fields, f.kind = .checkboxlist := by
  have hany : c.fields.any (fun f => f.kind == .checkboxlist) = true ↔
      ∃ f ∈ c.fields, f.kind = .checkboxlist := by
    simp
  rw [memberNames_module h, ← hany]
  cases c.fields.any fun f => f.kind == .checkboxlist <;> simp

/-! ### Bindings of the markup -/

theorem survey_page :
    surveyAll markupReader (.content none) (Pages.markup.pieces.take 4) =
        some (.content none, ["form", "onSubmit"]) ∧
      surveyAll markupReader (.content none) (Pages.markup.pieces.drop 4) =
        some (.content none, []) ∧
      surveyAll markupReader (.content none) Fields.container.pieces =
        some (.content none, []) := by
  decide +kernel

theorem survey_checkboxlist :
    surveyAll markupReader (.content none) (Fields.groupLabel ++ [line "<div>"]) =
        some (.content none, []) ∧
      surveyAll markupReader (.content none) Fields.checkboxChoice =
        some (.content none, ["form", "toggleOption"]) ∧
      surveyAll markupReader (.content none) [line "</div>"] = some (.content none, []) ∧
      surveyAll markupReader (.content none) Fields.errors =
        some (.content none, List.replicate 4 "form") := by
  decide +kernel

theorem survey_control :
    ∀ k ∈ FieldKind.all, k ≠ .checkboxlist →
      surveyAll markupReader (.content none) k.control.template.pieces =
        some (.content none, List.replicate 4 "form") := by
  decide +kernel

theorem boundNames_of_survey {s : Scope} {ps : List Piece} {parts : List Part} {n : Nat}
    (hsurvey : surveyAll markupReader (.content none) ps =
      some (.content none, List.replicate n "form"))
    (h : partsAll s ps = .ok parts) : boundNames parts ⊆ ["form"] := by
  have hsubset := (surveyedAll markupReader ps hsurvey h).2
  exact fun name hname => List.mem_singleton.mpr (List.eq_of_mem_replicate (hsubset hname))

theorem boundNames_control {f : Field} {parts : List Part} (hkind : f.kind ≠ .checkboxlist)
    (h : partsAll (fieldScope f) f.control.template.pieces = .ok parts) :
    boundNames parts ⊆ ["form"] := by
  have hcontrol : f.control = f.kind.control := rfl
  rw [hcontrol] at h
  exact boundNames_of_survey (survey_control f.kind f.kind.mem_all hkind) h

theorem boundNames_checkboxlist {f : Field} {parts : List Part}
    (h : partsAll (fieldScope f) Fields.checkboxlist.pieces = .ok parts) :
    ∃ more, more ⊆ ["form"] ∧ boundNames parts =
      (List.replicate f.options.length ["form", "toggleOption"]).flatten ++ more := by
  obtain ⟨front, _, hfront, hloop, rfl⟩ :=
    exists_of_partsAll_append (Fields.groupLabel ++ [line "<div>"]) h
  obtain ⟨choices, _, hchoices, hrest, rfl⟩ := exists_of_partsAll_cons hloop
  obtain ⟨behind, errors, hbehind, herrors, rfl⟩ :=
    exists_of_partsAll_append [line "</div>"] hrest
  have hitems : (Datum.value (.list (f.options.map .str))).items =
      .ok ((f.options.map .str).map .value) := rfl
  obtain ⟨hlabel, hchoice, hclosing, hsurvey⟩ := survey_checkboxlist
  have hfront : markupReader.read (.content none) (frame front) = (.content none, []) :=
    read_of_isPlain rfl hlabel hfront
  have hchoices : markupReader.read (.content none) (frame choices) = (.content none, _) :=
    read_each rfl hchoice (eval_named rfl) hitems hchoices
  have hbehind : markupReader.read (.content none) (frame behind) = (.content none, []) :=
    read_of_isPlain rfl hclosing hbehind
  refine ⟨boundNames errors, boundNames_of_survey hsurvey herrors, ?_⟩
  rw [List.length_map, List.length_map] at hchoices
  simp only [boundNames, frame_append, Reader.read_append, hfront, hchoices, hbehind,
    List.nil_append]

theorem boundNames_group {s : Scope} {parts : List Part}
    (h : partsAll s Fields.container.pieces = .ok parts) : boundNames parts = [] := by
  have hread : markupReader.read (.content none) (frame parts) = (.content none, []) :=
    read_of_isPlain rfl survey_page.2.2 h
  rw [boundNames, hread]

theorem boundNames_page {s : Scope} {parts : List Part}
    (h : partsAll s Pages.markup.pieces = .ok parts) : boundNames parts = ["form", "onSubmit"] := by
  obtain ⟨front, back, hfront, hback, rfl⟩ :=
    exists_of_partsAll_append (Pages.markup.pieces.take 4) h
  have hfront : markupReader.read (.content none) (frame front) =
      (.content none, ["form", "onSubmit"]) := read_of_isPlain rfl survey_page.1 hfront
  -- behind the opening of the form there are columns and buttons, none of which is bound
  have hback : markupReader.read (.content none) (frame back) = (.content none, []) :=
    (surveyedAll markupReader _ survey_page.2.1 hback).read_eq
  rw [boundNames, frame_append, Reader.read_append, hfront, hback, List.append_nil]

theorem exists_of_fieldParts {f : Field} {p : FieldParts} (h : fieldParts f = .ok p) :
    partsAll (fieldScope f) f.control.template.pieces = .ok p.control ∧
      p.boundNames = boundNames p.control := by
  obtain ⟨control, hcontrol, h⟩ := bind_eq_ok.mp h
  obtain ⟨group, hgroup, h⟩ := bind_eq_ok.mp h
  cases h
  refine ⟨hcontrol, ?_⟩
  rw [FieldParts.boundNames, boundNames_group hgroup, List.nil_append]

theorem exists_of_markupParts {c : Component} {layout : Layout} {m : MarkupParts}
    (h : markupParts c layout = .ok m) :
    c.fields.map fieldParts = m.fields.map .ok ∧ boundNames m.page = ["form", "onSubmit"] := by
  obtain ⟨fields, hfields, h⟩ := bind_eq_ok.mp h
  obtain ⟨columnClass, -, h⟩ := bind_eq_ok.mp h
  obtain ⟨page, hpage, h⟩ := bind_eq_ok.mp h
  cases h
  exact ⟨mapM_eq_ok.mp hfields, boundNames_page hpage⟩

theorem boundNames_field {f : Field} {p : FieldParts} (h : fieldParts f = .ok p) :
    p.boundNames.count "toggleOption" = (if f.kind = .checkboxlist then f.options.length else 0) ∧
      p.boundNames ⊆ ["form", "toggleOption"] := by
  obtain ⟨hcontrol, hnames⟩ := exists_of_fieldParts h
  rw [hnames]
  by_cases hkind : f.kind = .checkboxlist
  · have htemplate : f.control.template = Fields.checkboxlist := by
      have hcontrol : f.control = f.kind.control := rfl
      rw [hcontrol, hkind]
      rfl
    rw [htemplate] at hcontrol
    obtain ⟨more, hmore, hnames⟩ := boundNames_checkboxlist hcontrol
    have hnone : more.count "toggleOption" = 0 :=
      List.count_eq_zero.mpr fun hmem => absurd (hmore hmem) (by decide)
    rw [if_pos hkind, hnames]
    constructor
    · rw [List.count_append, hnone, List.count_flatten, List.map_replicate, List.sum_replicate_nat]
      simp
    · refine List.append_subset.mpr ⟨fun name hname => ?_, fun name hname => ?_⟩
      · obtain ⟨names, hnames, hname⟩ := List.mem_flatten.mp hname
        rwa [List.eq_of_mem_replicate hnames] at hname
      · exact List.mem_cons.mpr (.inl (List.mem_singleton.mp (hmore hname)))
  · have hsubset := boundNames_control hkind hcontrol
    rw [if_neg hkind]
    exact ⟨List.count_eq_zero.mpr fun hmem => absurd (hsubset hmem) (by decide),
      fun name hname => List.mem_cons.mpr (.inl (List.mem_singleton.mp (hsubset hname)))⟩

/-- Fields are bound to the form, and to the method for choices only if one is a list of check
boxes. -/
theorem boundNames_fields {fs : List Field} {ps : List FieldParts}
    (h : fs.map fieldParts = ps.map .ok) {name : String}
    (hname : name ∈ ps.flatMap FieldParts.boundNames) :
    name = "form" ∨ name = "toggleOption" ∧ ∃ f ∈ fs, f.kind = .checkboxlist := by
  obtain ⟨p, hp, hname⟩ := List.mem_flatMap.mp hname
  have hmem : Except.ok p ∈ fs.map fieldParts := h ▸ List.mem_map_of_mem hp
  obtain ⟨f, hf, hparts⟩ := List.mem_map.mp hmem
  obtain ⟨hcount, hnames⟩ := boundNames_field hparts
  obtain hform | hmethod := List.mem_cons.mp (hnames hname)
  · exact .inl hform
  · obtain rfl := List.mem_singleton.mp hmethod
    refine .inr ⟨rfl, f, hf, ?_⟩
    by_contra hkind
    rw [if_neg hkind] at hcount
    exact List.count_eq_zero.mp hcount hname

theorem mem_memberNames_of_bound {c : Component} {module : List Part} {markup : MarkupParts}
    (hmodule : moduleParts c = .ok module)
    (hfields : c.fields.map fieldParts = markup.fields.map .ok)
    (hpage : boundNames markup.page = ["form", "onSubmit"]) {name : String}
    (hname : name ∈ markup.boundNames) : name ∈ memberNames module := by
  have hmembers := memberNames_module hmodule
  rw [MarkupParts.boundNames, hpage] at hname
  obtain hname | hname := List.mem_append.mp hname
  · have hpageNames : name = "form" ∨ name = "onSubmit" := by simpa using hname
    obtain rfl | rfl := hpageNames <;> simp [hmembers]
  · obtain rfl | ⟨rfl, hlist⟩ := boundNames_fields hfields hname
    · simp [hmembers]
    · exact (toggleOption_mem_iff hmodule).mpr hlist

end Formwork.Application

namespace Formwork

open Application Template

/-- What the templates of the markup bind to is in the class of the module: the page is bound to the
form and to the method that submits it, and a group to the form and to the method for choices. That
method is in the class if and only if some field is a list of check boxes, and the markup of a field
has a handler for each of its options if it is such a list, and none otherwise. -/
theorem Component.bindings_defined {c : Component} {layout : Layout} (hc : c.isWritable = true)
    (hlayout : layout.isWritable = true) :
    ∃ (module : List Part) (markup : MarkupParts),
      moduleParts c = .ok module ∧ c.module = .ok (joined module) ∧
      markupParts c layout = .ok markup ∧ c.markup layout = .ok markup.text ∧
      (∀ name ∈ markup.boundNames, name ∈ memberNames module) ∧
      ("toggleOption" ∈ memberNames module ↔ ∃ f ∈ c.fields, f.kind = .checkboxlist) ∧
      boundNames markup.page = ["form", "onSubmit"] ∧
      List.Forall₂ (fun f p => fieldParts f = .ok p ∧ f.markup = .ok p.text ∧
        p.boundNames.count "toggleOption" =
          if f.kind = .checkboxlist then f.options.length else 0) c.fields markup.fields := by
  obtain ⟨methods, hmodule⟩ := componentForm_eq c
  have hmarkup := formPage_eq c layout
  rw [module_eq, hc] at hmodule
  rw [markup_eq, hlayout] at hmarkup
  obtain ⟨module, hmoduleParts⟩ := exists_of_map_eq_ok hmodule
  obtain ⟨markup, hmarkupParts⟩ := exists_of_map_eq_ok hmarkup
  obtain ⟨hfields, hpage⟩ := exists_of_markupParts hmarkupParts
  have heach : List.Forall₂ (fun f p => fieldParts f = .ok p) c.fields markup.fields := by
    have hequal : List.Forall₂ (· = ·) (c.fields.map fieldParts) (markup.fields.map .ok) :=
      hfields ▸ List.forall₂_same.mpr fun _ _ => rfl
    rwa [List.forall₂_map_left_iff, List.forall₂_map_right_iff] at hequal
  refine ⟨module, markup, hmoduleParts, ?_, hmarkupParts, ?_,
    fun _ => mem_memberNames_of_bound hmoduleParts hfields hpage,
    toggleOption_mem_iff hmoduleParts, hpage,
    heach.imp fun f p hparts => ⟨hparts, ?_, (boundNames_field hparts).1⟩⟩
  · rw [module_eq, hmoduleParts]
    rfl
  · rw [markup_eq, hmarkupParts]
    rfl
  · rw [fieldMarkup_eq_parts, hparts]
    rfl

def choicesPage : Component where
  name := "Survey"
  fields :=
    [{ name := "age", validations := some { defaultValue := some (.number (.int 18)) } },
      { name := "topics", declaredKind := "checkboxlist", options := ["a", "b"] }]

theorem bindings_defined_choicesPage :
    choicesPage.isWritable = true ∧ ({ columns := 3 } : Layout).isWritable = true ∧
      ∃ (module : List Part) (markup : MarkupParts),
        moduleParts choicesPage = .ok module ∧
        markupParts choicesPage { columns := 3 } = .ok markup ∧
        "toggleOption" ∈ memberNames module ∧ "toggleOption" ∈ markup.boundNames ∧
        ∀ name ∈ markup.boundNames, name ∈ memberNames module := by
  have hwritable : choicesPage.isWritable = true := by
    have hage : Number.isShort 18 = true := Number.isShort_of_lt (by decide)
    simp [choicesPage, Component.isWritable, Field.isWritable, ValidationBundle.isWritable,
      DefaultValue.isWritable, Number.isWritable, hage]
  have hlayout : ({ columns := 3 } : Layout).isWritable = true := Number.isShort_of_lt (by decide)
  obtain ⟨module, markup, hmodule, -, hmarkup, -, hbound, htoggle, -, hfields⟩ :=
    Component.bindings_defined hwritable hlayout
  have hmember : "toggleOption" ∈ memberNames module :=
    htoggle.mpr ⟨choicesPage.fields[1], by simp [choicesPage], by decide⟩
  refine ⟨hwritable, hlayout, module, markup, hmodule, hmarkup, hmember, ?_, hbound⟩
  obtain ⟨_, rest, -, hrest, hcons⟩ := List.forall₂_cons_left_iff.mp hfields
  obtain ⟨topics, rest', ⟨-, -, hcount⟩, -, rfl⟩ := List.forall₂_cons_left_iff.mp hrest
  have htopics : "toggleOption" ∈ topics.boundNames := by
    rw [← List.count_pos_iff, hcount]
    decide
  rw [MarkupParts.boundNames, hcons]
  exact List.mem_append_right _ (List.mem_append_right _ (List.mem_append_left _ htopics))

end Formwork
