import Formwork.Proofs.Application.Text
import Formwork.Proofs.TypeScript.Objects

/-!
Routing tables, read as code. An entry is declared as an object literal with up to four properties:
texts between quotes, and the class of the component as it stands. The texts are put between the
quotes as they are, and nothing in them is escaped. So an entry is given back by its declaration
exactly if each of its texts stands for itself: it has no quote, no backslash and no line break.
-/

namespace Formwork.Route

open Application TypeScript

/-! ### Entries -/

/-- The property of an entry that has code. -/
def codeName : List Char := "component".toList

def properties (r : Route) : List Property :=
  [("path".toList, .quoted r.path.toList)] ++
  (r.component.map fun component => (codeName, .code component.toList)).toList ++
  (r.redirectTo.map fun target => ("redirectTo".toList, .quoted target.toList)).toList ++
  (r.pathMatch.map fun rule => ("pathMatch".toList, .quoted rule.toList)).toList

theorem map_toList_members (r : Route) :
    r.members.map String.toList = r.properties.map propertyChars := by
  have hcode : codeName = "component".toList := rfl
  obtain ⟨path, component, redirectTo, pathMatch⟩ := r
  cases component <;> cases redirectTo <;> cases pathMatch <;>
    simp [members, properties, hcode, propertyChars]

theorem toList_declaration_append (r : Route) (rest : List Char) :
    r.declaration.toList ++ rest = objectChars r.properties rest := by
  rw [objectChars, ← map_toList_members]
  simp [declaration, TypeScript.sequence, objectEnd, String.toList_intercalate]

/-- An object gives back an entry: it has the path, the target and the rule of the entry, and no
target or rule where the entry has none. -/
structure GivenBack (r : Route) (object : List Property) : Prop where
  path : object.lookup "path".toList = some (.quoted r.path.toList)
  redirectTo : object.lookup "redirectTo".toList =
    r.redirectTo.map fun target => .quoted target.toList
  pathMatch : object.lookup "pathMatch".toList = r.pathMatch.map fun rule => .quoted rule.toList

/-- An entry whose texts stand for themselves. -/
structure Plain (r : Route) : Prop where
  path : Verbatim r.path.toList
  redirectTo : ∀ target ∈ r.redirectTo, Verbatim target.toList
  pathMatch : ∀ rule ∈ r.pathMatch, Verbatim rule.toList

/-- An entry whose component, if it has one, can be told from what follows it. -/
def HasCode (r : Route) : Prop := ∀ component ∈ r.component, IsCode component.toList

theorem forall_mem_properties {P : Property → Prop} {r : Route} :
    (∀ p ∈ r.properties, P p) ↔
      P ("path".toList, .quoted r.path.toList) ∧
      (∀ component ∈ r.component, P (codeName, .code component.toList)) ∧
      (∀ target ∈ r.redirectTo, P ("redirectTo".toList, .quoted target.toList)) ∧
      ∀ rule ∈ r.pathMatch, P ("pathMatch".toList, .quoted rule.toList) := by
  obtain ⟨path, component, redirectTo, pathMatch⟩ := r
  cases component <;> cases redirectTo <;> cases pathMatch <;> simp [properties]

theorem properties_ne_nil (r : Route) : r.properties ≠ [] := by simp [properties]

theorem wellFormed_properties {r : Route} (h : r.HasCode) :
    ∀ p ∈ r.properties, WellFormed codeName p :=
  forall_mem_properties.mpr
    ⟨⟨by decide, by decide⟩,
      fun component hcomponent => ⟨by decide, rfl, h component hcomponent⟩,
      fun _ _ => ⟨by decide, by decide⟩, fun _ _ => ⟨by decide, by decide⟩⟩

theorem plain_iff {r : Route} : r.Plain ↔ ∀ p ∈ r.properties, Faithful p := by
  rw [forall_mem_properties]
  exact ⟨fun h => ⟨h.path, fun _ _ => trivial, h.redirectTo, h.pathMatch⟩,
    fun ⟨hpath, _, hredirect, hmatch⟩ => ⟨hpath, hredirect, hmatch⟩⟩

theorem nodup_properties (r : Route) : (r.properties.map (·.1)).Nodup := by
  obtain ⟨path, component, redirectTo, pathMatch⟩ := r
  cases component <;> cases redirectTo <;> cases pathMatch <;>
    simp only [properties, Option.map_some, Option.map_none, Option.toList_some, Option.toList_none,
      List.append_nil, List.cons_append, List.nil_append, List.map_cons, List.map_nil] <;> decide

theorem givenBack_properties (r : Route) : r.GivenBack (r.properties.map trimmed) := by
  obtain ⟨path, component, redirectTo, pathMatch⟩ := r
  cases component <;> cases redirectTo <;> cases pathMatch <;>
    exact ⟨rfl, rfl, rfl⟩

theorem GivenBack.lookup {r : Route} {object : List Property} (h : r.GivenBack object)
    {name text : List Char} (hmem : (name, .quoted text) ∈ r.properties) :
    object.lookup name = some (.quoted text) := by
  have hall : ∀ p ∈ r.properties, ∀ text, p.2 = .quoted text →
      object.lookup p.1 = some (.quoted text) := by
    refine forall_mem_properties.mpr ⟨?_, fun _ _ _ hcode => absurd hcode (by simp), ?_, ?_⟩
    · rintro _ ⟨⟩
      exact h.path
    · rintro target htarget _ ⟨⟩
      rw [h.redirectTo, Option.mem_def.mp htarget]
      rfl
    · rintro rule hrule _ ⟨⟩
      rw [h.pathMatch, Option.mem_def.mp hrule]
      rfl
  exact hall _ hmem text rfl

def readEntry : List Char → Option (List Property × List Char) := readObject codeName

/-- The declaration of an entry whose texts stand for themselves gives the entry back, and leaves
what follows it. -/
theorem Plain.readEntry {r : Route} (h : r.Plain) (hcode : r.HasCode) (rest : List Char) :
    readEntry (r.declaration.toList ++ rest) = some (r.properties.map trimmed, rest) := by
  rw [toList_declaration_append]
  exact readObject_objectChars r.properties_ne_nil r.nodup_properties
    (wellFormed_properties hcode) (plain_iff.mp h) rest

/-- An entry that is given back by its declaration has texts that stand for themselves. -/
theorem GivenBack.plain {r : Route} (hcode : r.HasCode) {object : List Property}
    {rest left : List Char}
    (hread : readEntry (r.declaration.toList ++ rest) = some (object, left))
    (h : r.GivenBack object) : r.Plain := by
  rw [toList_declaration_append] at hread
  exact plain_iff.mpr (faithful_of_readObject r.nodup_properties (wellFormed_properties hcode)
    hread fun _ _ hmem => h.lookup hmem)

/-! ### Tables -/

def readTable : List Char → Option (List (List Property) × List Char)
  | '[' :: cs => readSequence readEntry ']' cs.length cs
  | _ => none

def tableText (routes : List Route) : String :=
  "[\n" ++ ",\n".intercalate (routes.map fun r => "  " ++ r.declaration) ++ "\n]"

def entryChars (r : Route) : List Char := ' ' :: ' ' :: r.declaration.toList

def tableEnd (rest : List Char) : List Char := '\n' :: ']' :: rest

theorem skipSpace_tableEnd (rest : List Char) : skipSpace (tableEnd rest) = ']' :: rest := rfl

theorem toList_tableText_append (routes : List Route) (rest : List Char) :
    (tableText routes).toList ++ rest =
      '[' :: '\n' :: TypeScript.sequence '\n' (tableEnd rest) (routes.map entryChars) := by
  have hentries : (routes.map fun r => "  " ++ r.declaration).map String.toList =
      routes.map entryChars := by
    simp [entryChars]
  rw [← hentries]
  simp [tableText, TypeScript.sequence, tableEnd, String.toList_intercalate]

theorem skipSpace_entry (r : Route) (next : List Char) :
    skipSpace (entryChars r ++ next) = r.declaration.toList ++ next := by
  rw [entryChars, List.cons_append, List.cons_append, toList_declaration_append]
  rfl

/-- Entries whose texts stand for themselves are read as their properties. -/
theorem readAs_entryChars {r : Route} (hcode : r.HasCode) (h : r.Plain) (next : List Char) :
    ReadAs readEntry (entryChars r) (r.properties.map trimmed) next :=
  ⟨next, by rw [skipSpace_entry, h.readEntry hcode], rfl⟩

/-- A table whose texts stand for themselves gives its entries back in their order, and leaves what
follows it. -/
theorem readTable_tableText {routes : List Route} (hne : routes ≠ [])
    (hcode : ∀ r ∈ routes, r.HasCode) (hplain : ∀ r ∈ routes, r.Plain) (rest : List Char) :
    readTable ((tableText routes).toList ++ rest) =
      some (routes.map fun r => r.properties.map trimmed, rest) := by
  have hnewline : isSpace '\n' = true := by decide
  have hclose : ']' ≠ ',' := by decide
  have hfuel := length_le_sequence '\n' (List.cons_ne_nil '\n' (']' :: rest))
    (routes.map entryChars)
  rw [List.length_map] at hfuel
  rw [toList_tableText_append]
  exact readSequence_sequence (fun r => r.properties.map trimmed) hnewline
    (skipSpace_tableEnd rest) hclose hne
    (fun r hr next _ => readAs_entryChars (hcode r hr) (hplain r hr) next)
    (Nat.le_succ_of_le hfuel) (skipSpace_cons hnewline _)

/-- A table whose entries are given back has texts that stand for themselves. -/
theorem plain_of_readTable {routes : List Route} (hcode : ∀ r ∈ routes, r.HasCode)
    {rest left : List Char} {objects : List (List Property)}
    (hread : readTable ((tableText routes).toList ++ rest) = some (objects, left))
    (h : List.Forall₂ GivenBack routes objects) : ∀ r ∈ routes, r.Plain := by
  have hnewline : isSpace '\n' = true := by decide
  rw [toList_tableText_append] at hread
  have hgood := good_of_readSequence (fun r => r.properties.map trimmed) Plain hnewline
    (skipSpace_tableEnd rest) (fun r hr hplain next _ => readAs_entryChars (hcode r hr) hplain next)
    (skipSpace_cons hnewline _) hread
  rcases hgood with hall | ⟨front, r, back, bad, next, mid, more, rfl, hbad, rfl, hentry⟩
  · exact hall
  -- the entries in front are given back, so it is this one that the bad object would give back
  have hrest := List.forall₂_drop front.length h
  rw [List.drop_left, List.drop_left' (List.length_map _)] at hrest
  cases hrest with
  | cons hback _ =>
      rw [skipSpace_entry] at hentry
      exact absurd (hback.plain (hcode r (List.mem_append_right front List.mem_cons_self)) hentry)
        hbad

/-! ### The table of a list of components -/

section

variable {first : Component} {more : List Component}

theorem hasCode_table
    (h : ∀ c ∈ first :: more, IsCode (Naming.componentClass c.name).toList) :
    ∀ r ∈ (first :: more).map ofComponent ++ redirects first, r.HasCode := by
  intro r hr
  rcases List.mem_append.mp hr with hr | hr
  · obtain ⟨c, hc, rfl⟩ := List.mem_map.mp hr
    rintro component ⟨⟩
    exact h c hc
  · have hnone : r.component = none := by
      simp only [redirects, List.mem_cons, List.not_mem_nil, or_false] at hr
      rcases hr with rfl | rfl <;> rfl
    intro component hcomponent
    simp [hnone] at hcomponent

/-- The entries of a table stand for themselves if the paths of the components do. -/
theorem plain_table_iff :
    (∀ r ∈ (first :: more).map ofComponent ++ redirects first, r.Plain) ↔
      ∀ c ∈ first :: more, Verbatim (Naming.pathForm c.name).toList := by
  constructor
  · intro h c hc
    exact (h _ (List.mem_append_left _ (List.mem_map_of_mem hc))).path
  · intro h r hr
    rcases List.mem_append.mp hr with hr | hr
    · obtain ⟨c, hc, rfl⟩ := List.mem_map.mp hr
      exact ⟨h c hc, fun _ h => absurd h (by simp [ofComponent]),
        fun _ h => absurd h (by simp [ofComponent])⟩
    · have htarget : Verbatim ("/" ++ Naming.pathForm first.name).toList := by
        rw [String.toList_append]
        exact verbatim_cons.mpr ⟨by decide, h first List.mem_cons_self⟩
      simp only [redirects, List.mem_cons, List.not_mem_nil, or_false] at hr
      have hempty : Verbatim "".toList := verbatim_nil
      have hwildcard : Verbatim "**".toList := by decide
      have hfull : Verbatim "full".toList := by decide
      rcases hr with rfl | rfl
      · refine ⟨hempty, ?_, ?_⟩
        · rintro target ⟨⟩
          exact htarget
        · rintro rule ⟨⟩
          exact hfull
      · refine ⟨hwildcard, ?_, fun _ h => absurd h (by simp)⟩
        rintro target ⟨⟩
        exact htarget

end

/-- Entries and tables are given back by the code that declares them exactly if no text in them has
a quote, a backslash or a line break. An entry whose texts are plain is read back, and what follows
it is left; any other entry is not read back, whatever its declaration is taken for. The table of a
list of components is read back exactly if the paths of the components are plain. In both, the
class of a component is code that ends at the next separator. -/
theorem declarations_read_back (r : Route) (rest : List Char) (first : Component)
    (more : List Component) :
    (r.HasCode →
      (r.Plain → ∃ object, readEntry (r.declaration.toList ++ rest) = some (object, rest) ∧
        r.GivenBack object) ∧
      (¬ r.Plain → ∀ object left,
        readEntry (r.declaration.toList ++ rest) = some (object, left) →
          ¬ r.GivenBack object)) ∧
    ((∀ c ∈ first :: more, IsCode (Naming.componentClass c.name).toList) →
      ∃ routes front back, table (first :: more) = .ok routes ∧
        Route.module (first :: more) =
          .ok (front ++ "const routes: Routes = " ++ tableText routes ++ back) ∧
        ((∃ objects left, readTable ((tableText routes ++ back).toList) = some (objects, left) ∧
            List.Forall₂ GivenBack routes objects) ↔
          ∀ c ∈ first :: more, Verbatim (Naming.pathForm c.name).toList)) := by
  refine ⟨fun hcode => ⟨fun hplain => ?_, fun hplain object left hread hback => ?_⟩,
    fun hcode => ?_⟩
  · exact ⟨_, hplain.readEntry hcode rest, r.givenBack_properties⟩
  · exact hplain (hback.plain hcode hread)
  let routes := (first :: more).map ofComponent ++ redirects first
  let m : RoutingModule := { imports := (first :: more).map Import.ofComponent, routes }
  let front := importLines RoutingModule.frame ++ lines [""] ++ importLines m.imports ++ lines [""]
  let back := lines [";", "", "@NgModule(\x7b", "  imports: [RouterModule.forRoot(routes)],",
    "  exports: [RouterModule]", "\x7d)", "export class AppRoutingModule \x7b \x7d"]
  have hmodule : m.text = front ++ "const routes: Routes = " ++ tableText routes ++ back := by
    have hopening : "const routes: Routes = [" = "const routes: Routes = " ++ "[" := rfl
    have hopen : "[\n" = "[" ++ "\n" := rfl
    have hclose : "\n]" = "\n" ++ "]" := rfl
    have hclosing : "];" = "]" ++ ";" := rfl
    simp only [RoutingModule.text, tableText, front, back, m, lines_cons, lines_nil, hopening,
      hopen, hclose, hclosing, String.append_assoc, String.append_empty, String.empty_append]
  have hcodes : ∀ r ∈ routes, r.HasCode := hasCode_table hcode
  refine ⟨routes, front, back, rfl, (routingModule_eq first more).trans (congrArg _ hmodule), ?_⟩
  rw [String.toList_append, ← plain_table_iff]
  constructor
  · rintro ⟨objects, left, hread, hback⟩
    exact plain_of_readTable hcodes hread hback
  · intro hplain
    refine ⟨_, back.toList, readTable_tableText (by simp [routes]) hcodes hplain back.toList, ?_⟩
    rw [List.forall₂_map_right_iff, List.forall₂_same]
    exact fun r _ => r.givenBack_properties

/-- The entry of a page with a quote in its path. -/
def quotedEntry : Route := { path := "o'brien", component := some "O'brienComponent" }

/-- Pages whose paths are plain. -/
def home : Component := { name := "Home" }

def aboutUs : Component := { name := "About us" }

/-- An entry with a quote in its path is not read back, and a table of plain paths is. -/
theorem declarations_read_back_quoted :
    quotedEntry.HasCode ∧ ¬ quotedEntry.Plain ∧
    (∀ object left,
      readEntry "\x7b path: 'o'brien', component: O'brienComponent \x7d".toList =
        some (object, left) → ¬ quotedEntry.GivenBack object) ∧
    (∀ c ∈ [home, aboutUs], IsCode (Naming.componentClass c.name).toList) ∧
    ∃ routes front back, table [home, aboutUs] = .ok routes ∧
      Route.module [home, aboutUs] =
        .ok (front ++ "const routes: Routes = " ++ tableText routes ++ back) ∧
      ∃ objects left, readTable ((tableText routes ++ back).toList) = some (objects, left) ∧
        List.Forall₂ GivenBack routes objects := by
  have hcode : quotedEntry.HasCode := by
    rintro component ⟨⟩
    decide
  have hplain : ¬ quotedEntry.Plain := fun h => absurd h.path (by decide)
  have hcodes : ∀ c ∈ [home, aboutUs], IsCode (Naming.componentClass c.name).toList := by decide
  have hpaths : ∀ c ∈ [home, aboutUs], Verbatim (Naming.pathForm c.name).toList := by decide
  obtain ⟨hentry, htables⟩ := declarations_read_back quotedEntry [] home [aboutUs]
  obtain ⟨routes, front, back, htable, hmodule, hread⟩ := htables hcodes
  have hdeclaration : quotedEntry.declaration.toList ++ [] =
      "\x7b path: 'o'brien', component: O'brienComponent \x7d".toList := by decide
  refine ⟨hcode, hplain, ?_, hcodes, routes, front, back, htable, hmodule, hread.mpr hpaths⟩
  rw [← hdeclaration]
  exact (hentry hcode).2 hplain

end Formwork.Route
