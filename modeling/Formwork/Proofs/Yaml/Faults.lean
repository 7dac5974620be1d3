import Formwork.Proofs.Yaml.Nodes
import Formwork.Proofs.Yaml.Tokens
import Formwork.Yaml.Decode

/-!
The faults of a YAML text, and where each of them arises. Apart from faults of form there are
escapes that stand for no character, scalars whose text is none of the kind that they are to have,
mappings that are to be dates, and mappings that stand for themselves.
-/

namespace Formwork.Yaml

/-! ### Scalars -/

inductive Tag.Refuses : Tag → Error → Prop
  | form (tag : Tag) : Refuses tag .malformed
  | boolean (word : String) : Refuses .bool (.badBoolean word)
  | integer (fault : Number.Reading.IntegerFault) : Refuses .int (.badInteger fault)
  | noInteger : Refuses .int .emptyNumber
  | float (text : List Char) : Refuses .float (.badFloat text)
  | noFloat : Refuses .float .emptyNumber
  | hugeUnit : Refuses .float .hugeUnit
  | date : Refuses .timestamp .noDate
  | datePart (part : DatePart) (value : Nat) : Refuses .timestamp (.badDate part value)
  | offset (minutes : Int) : Refuses .timestamp (.badOffset minutes)

theorem ends_takeSign? {E : Error → Prop} (h : E .emptyNumber) (cs : List Char) :
    Ends (fun _ => True) E (takeSign? cs) := by
  rw [takeSign?.eq_def]
  split
  · exact h
  all_goals trivial

theorem ends_integerInBase (base : Nat) (digit : Char → Option Nat) (cs : List Char) :
    Ends (fun _ => True) (Tag.Refuses .int) (integerInBase base digit cs) := by
  rw [integerInBase]
  dsimp only
  split
  · trivial
  · exact .integer _

theorem ends_decimalInteger (cs : List Char) :
    Ends (fun _ => True) (Tag.Refuses .int) (decimalInteger cs) := by
  rw [decimalInteger]
  cases Number.Reading.boundedInt cs with
  | ok n => trivial
  | error fault => exact .integer fault

theorem ends_integerOf (cs : List Char) :
    Ends (fun _ => True) (Tag.Refuses .int) (integerOf cs) := by
  rw [integerOf]
  refine (ends_takeSign? .noInteger _).bind fun (negative, body) _ => ?_
  dsimp only
  split
  · exact .noInteger
  · trivial
  · exact (ends_integerInBase _ _ _).bind fun _ _ => trivial
  · exact (ends_integerInBase _ _ _).bind fun _ _ => trivial
  · exact (ends_integerInBase _ _ _).bind fun _ _ => trivial
  · refine .ite ?_ ((ends_decimalInteger _).bind fun _ _ => trivial)
    have hparts : Ends (fun _ => True) (Tag.Refuses .int)
        ((Plain.colonParts body).mapM decimalInteger) :=
      Ends.mapM fun cs _ => ends_decimalInteger cs
    exact (hparts.map (Q := fun _ => True) fun _ _ => trivial).bind fun _ _ => trivial

theorem ends_decimalFloat (cs : List Char) :
    Ends (fun _ => True) (Tag.Refuses .float) (decimalFloat cs) := by
  rw [decimalFloat]
  split
  · trivial
  · exact .float _

theorem ends_sumOfUnits (sum : Binary64) (size : Nat) (parts : List Binary64) :
    Ends (fun _ => True) (Tag.Refuses .float) (sumOfUnits sum size parts) := by
  induction parts generalizing sum size with
  | nil => trivial
  | cons x rest ih =>
      rw [sumOfUnits]
      split
      · exact .hugeUnit
      · exact ih _ _

theorem ends_floatOf (cs : List Char) :
    Ends (fun _ => True) (Tag.Refuses .float) (floatOf cs) := by
  rw [floatOf]
  refine (ends_takeSign? .noFloat _).bind fun (negative, body) _ => ?_
  refine .ite trivial (.ite trivial (.ite ?_ ((ends_decimalFloat _).bind fun _ _ => trivial)))
  have hparts : Ends (fun _ => True) (Tag.Refuses .float)
      ((Plain.colonParts body).mapM decimalFloat) := Ends.mapM fun cs _ => ends_decimalFloat cs
  exact hparts.bind fun parts _ => (ends_sumOfUnits _ _ _).bind fun _ _ => trivial

theorem ends_booleanOf (cs : List Char) :
    Ends (fun _ => True) (Tag.Refuses .bool) (booleanOf cs) := by
  rw [booleanOf]
  exact .ite trivial (.ite trivial (.boolean _))

theorem ends_timestampOf (cs : List Char) :
    Ends (fun _ => True) (Tag.Refuses .timestamp) (timestampOf cs) := by
  rw [timestampOf]
  split
  · exact .date
  · extract_lets stamp time day month year
    have htime : Ends (fun _ => True) (Tag.Refuses .timestamp) (time ()) := by
      simp only [time]
      split
      · trivial
      · exact .ite (.datePart _ _) (.ite (.datePart _ _) (.ite (.datePart _ _) trivial))
    have hyear : Ends (fun _ => True) (Tag.Refuses .timestamp) (year ()) :=
      .ite (.datePart _ _) (.ite (.datePart _ _) (.ite (.datePart _ _) htime))
    split
    · exact .ite (.offset _) hyear
    · exact hyear

/-- A scalar of a kind has no faults but those of the kind. -/
theorem ends_scalarData (tag : Tag) (cs : List Char) :
    Ends (fun _ => True) tag.Refuses (scalarData tag cs) := by
  rw [scalarData.eq_def]
  split
  · trivial
  · trivial
  · exact (ends_booleanOf cs).bind fun _ _ => trivial
  · exact (ends_integerOf cs).bind fun _ _ => trivial
  · exact (ends_floatOf cs).bind fun _ _ => trivial
  · exact ends_timestampOf cs
  · refine .ite ?_ (.form _)
    split
    · trivial
    · exact .form _
  · exact .form _

/-! ### Nodes -/

/-- A fault of the data of a graph, of whose scalars the texts are known. -/
inductive Graph.Refused (P : List Char → Prop) : Error → Prop
  | form : Refused P .malformed
  | scalar {tag : Tag} {cs : List Char} {e : Error} (htext : P cs) (htag : tag.Refuses e)
      (hdata : scalarData tag cs = .error e) : Refused P e
  | dateOfMapping : Refused P .noText
  | endless : Refused P .endless

section

variable {P : List Char → Prop} (hempty : P [])

include hempty

theorem Graph.Holds.asTextKey {g : Graph} (h : g.Holds P) (entry : Entry) :
    (g.asTextKey entry).Holds P := by
  rw [Graph.asTextKey]
  split
  · refine h.set entry.1 fun tag cs hnode => ?_
    cases hkey : g.node entry.1 with
    | scalar tag' cs' =>
        rw [hkey] at hnode
        obtain ⟨-, rfl⟩ := Node.scalar.inj hnode
        exact h.text hempty hkey
    | sequence tag' items => exact absurd (hkey ▸ hnode) nofun
    | mapping tag' entries => exact absurd (hkey ▸ hnode) nofun
  · exact h

theorem Graph.Holds.asTextKeys {g : Graph} (h : g.Holds P) (entries : List Entry) :
    (entries.foldl Graph.asTextKey g).Holds P := by
  induction entries generalizing g with
  | nil => exact h
  | cons entry entries ih => exact ih (h.asTextKey hempty entry)

omit hempty in
theorem Graph.Holds.setEntries {g : Graph} (h : g.Holds P) (id : NodeId) (entries : List Entry) :
    (g.setEntries id entries).Holds P := h.set id nofun

/-- Merging leaves the texts of the scalars alone, or fails for the form of what is merged. -/
theorem Graph.Holds.mergeFrom {g : Graph} (h : g.Holds P) (fuel index : Nat) (merged : List Entry)
    (id : NodeId) : Ends (Holds P) (· = .malformed) (Graph.mergeFrom fuel index merged id g) := by
  induction fuel generalizing index merged id g with
  | zero => exact rfl
  | succ fuel ih =>
      rw [Graph.mergeFrom]
      dsimp only
      have hown := h.asTextKeys hempty
        (((g.entries id).drop index).takeWhile fun entry => !g.isMergeKey entry)
      have hleft := hown.setEntries id ((g.entries id).eraseIdx
        (index + (((g.entries id).drop index).takeWhile fun entry => !g.isMergeKey entry).length))
      split
      · exact hown.setEntries _ _
      · split
        · exact (ih hleft _ _ _).bind fun g hg => ih hg _ _ _
        · refine Ends.bind (P := fun read => Holds P read.2) ?items fun read hread => ih hread _ _ _
          -- every item adds its entries and may change the graph
          refine Ends.foldlM (fun read hread item _ => ?_) hleft
          split
          · exact (ih hread _ _ _).bind fun g hg => hg
          · exact rfl
        · exact rfl

theorem Graph.Holds.merge {g : Graph} (h : g.Holds P) (id : NodeId) :
    Ends (Holds P) (· = .malformed) (g.merge id) := h.mergeFrom hempty _ _ _ _

namespace Unfolding

variable {u : Unfolding}

theorem ends_text {g : Graph} (h : g.Holds P) (fuel : Nat) (id : NodeId) :
    Ends P (Graph.Refused P) (text g fuel id) := by
  induction fuel generalizing id with
  | zero => exact .endless
  | succ fuel ih =>
      rw [text]
      split
      · exact h.text hempty ‹_›
      · exact .form
      · split
        · exact ih _
        · exact .form

omit hempty in
theorem ends_scalarData_of {cs : List Char} (htext : P cs) (tag : Tag) :
    Ends (fun _ => True) (Graph.Refused P) (scalarData tag cs) := by
  have hdata := ends_scalarData tag cs
  cases hcases : scalarData tag cs with
  | ok d => trivial
  | error e =>
      rw [hcases] at hdata
      exact .scalar htext hdata hcases

theorem ends_readScalar (h : u.graph.Holds P) (id : NodeId) :
    Ends (fun _ => True) (Graph.Refused P) (u.readScalar id) := by
  rw [readScalar]
  refine (ends_text hempty h _ _).bind fun cs htext => ?_
  split
  · exact .dateOfMapping
  · exact ends_scalarData_of htext _

theorem ends_visit (h : u.graph.Holds P) (id : NodeId) :
    Ends (fun u => Graph.Holds P u.graph) (Graph.Refused P) (u.visit id) := by
  rw [visit]
  refine .ite h ?_
  dsimp only
  split
  · exact h
  · exact h
  · exact h
  · exact h
  · exact h
  · exact .form
  · exact .form
  · exact .form
  · exact (ends_readScalar hempty h id).bind fun _ _ => h

theorem ends_visitEntry (h : u.graph.Holds P) (entry : Entry) :
    Ends (fun u => Graph.Holds P u.graph) (Graph.Refused P) (u.visitEntry entry) := by
  refine (ends_visit hempty h entry.1).bind fun u h => ?_
  split
  · exact ends_visit hempty h _
  · exact .form

theorem ends_visitPair {read : List Entry × Unfolding} (h : read.2.graph.Holds P) (item : NodeId) :
    Ends (fun read => Graph.Holds P read.2.graph) (Graph.Refused P) (visitPair read item) := by
  obtain ⟨pairs, u⟩ := read
  rw [visitPair]
  split
  · refine (ends_visit hempty h _).bind fun u h => ?_
    exact (ends_visit hempty h _).bind fun u h => h
  · exact .form

theorem ends_expand (h : u.graph.Holds P) (id : NodeId) :
    Ends (fun u => Graph.Holds P u.graph) (Graph.Refused P) (u.expand id) := by
  have hentries : ∀ {u : Unfolding}, u.graph.Holds P → ∀ entries : List Entry,
      Ends (fun u => Graph.Holds P u.graph) (Graph.Refused P) (entries.foldlM visitEntry u) :=
    fun h entries => Ends.foldlM (fun _ h entry _ => ends_visitEntry hempty h entry) h
  have hmerge : Ends (Graph.Holds P) (Graph.Refused P) (u.graph.merge id) :=
    (h.merge hempty id).mono (fun _ hg => hg) fun e he => he ▸ .form
  rw [expand]
  split
  · exact (Ends.foldlM (fun _ h item _ => ends_visit hempty h item) h).bind fun u h => h
  · refine Ends.bind (P := fun read => Graph.Holds P read.2.graph) ?_ fun (pairs, u) h => ?_
    · exact Ends.foldlM (fun _ h item _ => ends_visitPair hempty h item) h
    · exact h
  · exact hmerge.bind fun g hg => (hentries hg _).bind fun u h => h
  · exact hmerge.bind fun g hg => (hentries hg _).bind fun u h => h
  · exact .form

theorem ends_expandAll (h : u.graph.Holds P) (fuel : Nat) :
    Ends (fun u => Graph.Holds P u.graph) (Graph.Refused P) (expandAll fuel u) := by
  induction fuel generalizing u with
  | zero => exact h
  | succ fuel ih =>
      rw [expandAll]
      have hlevel : Ends (fun u => Graph.Holds P u.graph) (Graph.Refused P)
          (u.pending.reverse.foldlM expand { u with pending := [] }) :=
        Ends.foldlM (fun _ h id _ => ends_expand hempty h id) h
      exact .ite h (hlevel.bind fun u h => ih h)

end Unfolding

theorem Graph.Holds.data {g : Graph} (h : g.Holds P) (root : NodeId) :
    Ends (fun _ => True) (Refused P) (g.data root) := by
  refine (Unfolding.ends_visit hempty h root).bind fun u h => ?_
  exact (Unfolding.ends_expandAll hempty h _).bind fun u _ => trivial

end

/-! ### Texts -/

inductive Error.Arises (cs : List Char) : Error → Prop
  | form : Arises cs .malformed
  | escape {e : Error} (htoken : .fault e ∈ tokenize cs)
      (hescape : e = .badCharacter ∨ e = .hugeCharacter) : Arises cs e
  | scalar {tag : Tag} {text : List Char} {e : Error} (htext : IsScalarOf (tokenize cs) text)
      (htag : tag.Refuses e) (hdata : scalarData tag text = .error e) : Arises cs e
  | dateOfMapping : Arises cs .noText
  | endless : Arises cs .endless

/-- Every fault of a text is one of form or an escape, or it is a scalar of the text that is none of
its kind, a mapping that is to be a date, or a mapping that stands for itself. -/
theorem ends_decode (cs : List Char) : Ends (fun _ => True) (Error.Arises cs) (decode cs) := by
  have hfault : ∀ e : Error, e.IsFaultOf (tokenize cs) → e.Arises cs := by
    rintro e (rfl | htoken)
    · exact .form
    · rcases isLexical_of_mem_tokenize htoken with rfl | hescape
      · exact .form
      · exact .escape htoken hescape
  have hrefused : ∀ e, Graph.Refused (IsScalarOf (tokenize cs)) e → e.Arises cs := by
    rintro e (_ | ⟨htext, htag, hdata⟩ | _ | _)
    · exact .form
    · exact .scalar htext htag hdata
    · exact .dateOfMapping
    · exact .endless
  rw [decode]
  refine ((ends_ofTokens? _).mono (fun _ h => h) hfault).bind fun found hfound => ?_
  cases found with
  | none => trivial
  | some found =>
      obtain ⟨root, graph⟩ := found
      have hdata := (hfound root graph rfl).data (.inl rfl) root
      exact (hdata.mono (fun _ h => h) hrefused).bind fun _ _ => trivial

end Formwork.Yaml
