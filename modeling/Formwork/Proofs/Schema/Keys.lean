import Formwork.Proofs.Schema.Values
import Mathlib.Data.List.Nodup
import Mathlib.Data.List.Pairwise

/-!
The keys of a document that count. A member of a record is looked for under its name in documents
and, failing that, under the name of the attribute; all other keys are passed over. Of a document
there is a plain form, in which every record has members that are known, under their names in
documents, and nothing else. It stands for the document: a specification is read from the one if and
only if it is read from the other, and the plain form of a plain form is itself.
-/

namespace Formwork

/-- A text is the same key as itself only. -/
theorem Document.sameKey_text {key : Document} {name : String} :
    key.sameKey (.text name) = true ↔ key = .text name := by
  cases key <;> simp [Document.sameKey, Document.asNumber?]

namespace Schema

/-! ### The members of a record that are known -/

/-- A member of a record: its name in documents, the other names that it is looked for under, and
the plain form of its value. -/
structure Member where
  name : String
  attributes : List String := []
  plain : Document → Document := id

namespace Member

def names (m : Member) : List String := m.name :: m.attributes

def found? (m : Member) (entries : List (Document × Document)) : Option String :=
  m.names.find? fun name => (Document.member? entries name).isSome

end Member

def owner? (members : List Member) (key : String) : Option Member :=
  members.find? fun m => m.names.contains key

/-- An entry under the name in documents of the member that it belongs to. It is dropped if it
belongs to none, or if its member is found under a name that comes before. -/
def asPlain? (members : List Member) (entries : List (Document × Document))
    (entry : Document × Document) : Option (Document × Document) :=
  match entry.1 with
  | .text key =>
    (owner? members key).bind fun m =>
      if m.found? entries = some key then some (.text m.name, m.plain entry.2) else none
  | _ => none

/-- The entries of a record that count, under their names in documents. -/
def plainEntries (members : List Member) (entries : List (Document × Document)) :
    List (Document × Document) :=
  entries.filterMap (asPlain? members entries)

def plainRecord (members : List Member) : Document → Document
  | .map entries => .map (plainEntries members entries)
  | d => d

def plainItems (plain : Document → Document) : Document → Document
  | .list items => .list (items.map plain)
  | d => d

section

variable {members : List Member} {m m' : Member} {entries : List (Document × Document)}

/-- No name belongs to two members. -/
def Distinct (members : List Member) : Prop := (members.flatMap Member.names).Nodup

instance (members : List Member) : Decidable (Distinct members) :=
  inferInstanceAs (Decidable (List.Nodup _))

theorem Member.mem_names (m : Member) : m.name ∈ m.names := List.mem_cons_self

theorem Distinct.eq_of_mem (h : Distinct members) (hm : m ∈ members) (hm' : m' ∈ members)
    {key : String} (hkey : key ∈ m.names) (hkey' : key ∈ m'.names) : m = m' := by
  by_contra hne
  have : Std.Symm (Function.onFun List.Disjoint Member.names) := ⟨fun _ _ => List.disjoint_symm⟩
  have hapart := (List.nodup_flatMap.mp h).2.forall hm hm' hne
  exact hapart hkey hkey'

theorem Distinct.owner?_eq (h : Distinct members) (hm : m ∈ members) {key : String}
    (hkey : key ∈ m.names) : owner? members key = some m := by
  obtain ⟨m', hm'⟩ : ∃ m', owner? members key = some m' := by
    rw [← Option.isSome_iff_exists, owner?, List.find?_isSome]
    exact ⟨m, hm, by simpa using hkey⟩
  have hkey' : key ∈ m'.names := by simpa using List.find?_some hm'
  rw [hm', h.eq_of_mem hm (List.mem_of_find?_eq_some hm') hkey hkey']

theorem mem_of_owner? {key : String} (h : owner? members key = some m) :
    m ∈ members ∧ key ∈ m.names :=
  ⟨List.mem_of_find?_eq_some h, by simpa using List.find?_some h⟩

theorem asPlain?_eq_some {entry kept : Document × Document}
    (h : asPlain? members entries entry = some kept) :
    ∃ m ∈ members, ∃ key ∈ m.names, entry.1 = .text key ∧ m.found? entries = some key ∧
      kept = (.text m.name, m.plain entry.2) := by
  rw [asPlain?] at h
  split at h
  case h_1 key hkey =>
    obtain ⟨m, howner, hkept⟩ := Option.bind_eq_some_iff.mp h
    obtain ⟨hm, hname⟩ := mem_of_owner? howner
    split at hkept
    case isTrue hfound =>
      exact ⟨m, hm, key, hname, hkey, hfound, (Option.some.inj hkept).symm⟩
    case isFalse => exact absurd hkept (by simp)
  case h_2 => exact absurd h (by simp)

/-- What is kept under the name of a member is the value under the name that it is found under. -/
theorem Distinct.asPlain?_named (h : Distinct members) (hm : m ∈ members)
    {entry kept : Document × Document} (hkept : asPlain? members entries entry = some kept)
    (hname : kept.1.sameKey (.text m.name) = true) :
    ∃ key, entry.1 = .text key ∧ m.found? entries = some key ∧ kept.2 = m.plain entry.2 := by
  obtain ⟨m', hm', key, -, hkey, hfound, rfl⟩ := asPlain?_eq_some hkept
  have hsame : m'.name = m.name := by simpa using Document.sameKey_text.mp hname
  obtain rfl : m = m' := h.eq_of_mem hm hm' m.mem_names (hsame ▸ m'.mem_names)
  exact ⟨key, hkey, hfound, rfl⟩

theorem Distinct.asPlain?_eq (h : Distinct members) (hm : m ∈ members) {key : String}
    (hfound : m.found? entries = some key) (v : Document) :
    asPlain? members entries (.text key, v) = some (.text m.name, m.plain v) := by
  have hkey : key ∈ m.names := List.mem_of_find?_eq_some hfound
  simp only [asPlain?, h.owner?_eq hm hkey, Option.bind_some, hfound, if_true]

/-- The value that counts of a member is the value under the name that it is found under. -/
theorem Member.member?_names (m : Member) (entries : List (Document × Document)) :
    member? entries m.names = (m.found? entries).bind (Document.member? entries) := by
  rw [member?, Member.found?]
  induction m.names with
  | nil => rfl
  | cons name names ih =>
      rw [List.findSome?_cons, List.find?_cons]
      cases hvalue : Document.member? entries name with
      | some d => simp [hvalue]
      | none => simpa using ih

theorem member?_plainEntries_eq (members : List Member) (entries : List (Document × Document))
    (name : String) :
    Document.member? (plainEntries members entries) name =
      ((entries.find? fun entry => (asPlain? members entries entry).any fun kept =>
        kept.1.sameKey (.text name)).bind (asPlain? members entries)).map Prod.snd := by
  rw [Document.member?, Document.get?, plainEntries, List.find?_filterMap]

/-- In the plain form a member is found under its name in documents, and its value is the plain form
of the value that counts. -/
theorem Distinct.member?_name (h : Distinct members) (hm : m ∈ members)
    (entries : List (Document × Document)) :
    Document.member? (plainEntries members entries) m.name =
      (member? entries m.names).map m.plain := by
  rw [member?_plainEntries_eq, m.member?_names]
  cases hfound : m.found? entries with
  | none =>
      have hnone : entries.find? (fun entry => (asPlain? members entries entry).any fun kept =>
          kept.1.sameKey (.text m.name)) = none := by
        rw [List.find?_eq_none]
        intro entry _ hany
        obtain ⟨kept, hkept, hname⟩ := (Option.any_eq_true _ _).mp hany
        obtain ⟨key, -, hfound', -⟩ := h.asPlain?_named hm hkept hname
        exact absurd (hfound.symm.trans hfound') (by simp)
      rw [hnone]
      rfl
  | some key =>
      -- of all entries just those with the key that is found are kept under the name
      have hsame : (fun entry => (asPlain? members entries entry).any fun kept =>
          kept.1.sameKey (.text m.name)) = fun entry => entry.1.sameKey (.text key) := by
        funext entry
        rw [Bool.eq_iff_iff, Document.sameKey_text]
        constructor
        · intro hany
          obtain ⟨kept, hkept, hname⟩ := (Option.any_eq_true _ _).mp hany
          obtain ⟨key', hkey, hfound', -⟩ := h.asPlain?_named hm hkept hname
          rw [hkey, Option.some.inj (hfound.symm.trans hfound')]
        · rintro hkey
          obtain ⟨k, v⟩ := entry
          obtain rfl : k = .text key := hkey
          rw [h.asPlain?_eq hm hfound]
          simp [Document.sameKey_text]
      rw [hsame, Option.bind_some, Document.member?, Document.get?]
      cases hentry : entries.find? fun entry => entry.1.sameKey (.text key) with
      | none => rfl
      | some entry =>
          obtain ⟨k, v⟩ := entry
          obtain rfl : k = .text key :=
            Document.sameKey_text.mp (by simpa using List.find?_some hentry)
          rw [Option.bind_some, h.asPlain?_eq hm hfound]
          rfl

theorem Distinct.member?_attribute (h : Distinct members) (hm : m ∈ members)
    (entries : List (Document × Document)) {name : String} (hname : name ∈ m.attributes) :
    Document.member? (plainEntries members entries) name = none := by
  rw [member?_plainEntries_eq, List.find?_eq_none.mpr]
  · rfl
  intro entry _ hany
  obtain ⟨kept, hkept, hsame⟩ := (Option.any_eq_true _ _).mp hany
  obtain ⟨m', hm', key, -, -, -, rfl⟩ := asPlain?_eq_some hkept
  have heq : m'.name = name := by simpa using Document.sameKey_text.mp hsame
  obtain rfl : m = m' := h.eq_of_mem hm hm' (List.mem_cons_of_mem _ hname) (heq ▸ m'.mem_names)
  have hnodup : m.names.Nodup := (List.nodup_flatMap.mp h).1 m hm
  exact (List.nodup_cons.mp hnodup).1 (heq ▸ hname)

theorem Distinct.member?_plainEntries (h : Distinct members) (hm : m ∈ members)
    (entries : List (Document × Document)) :
    member? (plainEntries members entries) m.names = (member? entries m.names).map m.plain := by
  rw [← h.member?_name hm entries, member?, Member.names, List.findSome?_cons]
  cases Document.member? (plainEntries members entries) m.name with
  | some d => rfl
  | none =>
      rw [List.findSome?_eq_none_iff]
      exact fun name hname => h.member?_attribute hm entries hname

/-- Where the values of its members are in their plain forms, so is the plain form of a record. -/
theorem Distinct.plainEntries_plainEntries (h : Distinct members)
    (hplain : ∀ m ∈ members, ∀ d, m.plain (m.plain d) = m.plain d)
    (entries : List (Document × Document)) :
    plainEntries members (plainEntries members entries) = plainEntries members entries := by
  have hkept : ∀ kept ∈ plainEntries members entries,
      asPlain? members (plainEntries members entries) kept = some kept := by
    intro kept hmem
    obtain ⟨entry, -, hentry⟩ := List.mem_filterMap.mp hmem
    obtain ⟨m, hm, key, -, -, -, rfl⟩ := asPlain?_eq_some hentry
    have hthere : (Document.member? (plainEntries members entries) m.name).isSome = true := by
      rw [Document.member?, Document.get?, Option.isSome_map, List.find?_isSome]
      exact ⟨_, hmem, Document.sameKey_text.mpr rfl⟩
    have hfound : m.found? (plainEntries members entries) = some m.name := by
      rw [Member.found?, Member.names, List.find?_cons, hthere]
    rw [h.asPlain?_eq hm hfound, hplain m hm]
  calc plainEntries members (plainEntries members entries)
      = (plainEntries members entries).filterMap some := List.filterMap_congr hkept
    _ = plainEntries members entries := List.filterMap_some

theorem Distinct.plainRecord_plainRecord (h : Distinct members)
    (hplain : ∀ m ∈ members, ∀ d, m.plain (m.plain d) = m.plain d) (d : Document) :
    plainRecord members (plainRecord members d) = plainRecord members d := by
  cases d with
  | map entries => exact congrArg Document.map (h.plainEntries_plainEntries hplain entries)
  | _ => rfl

end

theorem plainItems_plainItems {plain : Document → Document} (h : ∀ d, plain (plain d) = plain d)
    (d : Document) : plainItems plain (plainItems plain d) = plainItems plain d := by
  cases d with
  | list items =>
      have hitems : (items.map plain).map plain = items.map plain := by
        rw [List.map_map]
        exact List.map_congr_left fun item _ => h item
      exact congrArg Document.list hitems
  | _ => rfl

/-! ### Reading the plain form -/

/-- A part is read from its plain form as it is read from itself, faults aside. -/
def ReadsPlain {α : Type} (read : Document → Reading α) (plain : Document → Document) : Prop :=
  ∀ d, (read (plain d)).Alike (read d)

section

variable {α : Type} {read : Document → Reading α} {plain : Document → Document}

theorem readsPlain_id (read : Document → Reading α) : ReadsPlain read id := fun _ => rfl

theorem value?_readItems (read : Document → Reading α) (first : Nat) (items : List Document) :
    (readItems read first items).value? = items.mapM fun d => (read d).value? := by
  induction items generalizing first with
  | nil => rfl
  | cons d items ih =>
      simp only [readItems, Reading.value?_seq, Reading.value?_mapped, Reading.value?_under, ih,
        List.mapM_cons]
      cases (read d).value? <;> cases items.mapM fun d => (read d).value? <;> rfl

theorem ReadsPlain.list (h : ReadsPlain read plain) :
    ReadsPlain (readList read) (plainItems plain) := by
  intro d
  cases d with
  | list items =>
      show (readItems read 0 (items.map plain)).value? = (readItems read 0 items).value?
      rw [value?_readItems, value?_readItems, List.mapM_map]
      exact congrArg (fun f => items.mapM f) (funext h)
  | _ => rfl

theorem ReadsPlain.optional {members : List Member} (h : ReadsPlain read (plainRecord members)) :
    ReadsPlain (readOptional read) (plainRecord members) := by
  intro d
  cases d with
  | map entries =>
      show ((read (plainRecord members (.map entries))).map some).value? =
        ((read (.map entries)).map some).value?
      rw [Reading.value?_map, Reading.value?_map, h]
  | _ => rfl

theorem Distinct.readsMember {members : List Member} (hdistinct : Distinct members) {name : String}
    {attributes : List String} (hm : ⟨name, attributes, plain⟩ ∈ members)
    (h : ReadsPlain read plain) (absent : Reading α) (entries : List (Document × Document)) :
    (readMember (plainEntries members entries) (name :: attributes) read absent).Alike
      (readMember entries (name :: attributes) read absent) := by
  have hvalue : member? (plainEntries members entries) (name :: attributes) =
      (member? entries (name :: attributes)).map plain := hdistinct.member?_plainEntries hm entries
  rw [Reading.Alike, value?_readMember, value?_readMember, hvalue]
  cases member? entries (name :: attributes) with
  | none => rfl
  | some d => exact h d

end

/-! ### Specifications -/

def bundleMembers : List Member :=
  [⟨"required", [], id⟩, ⟨"minLength", ["min_length"], id⟩, ⟨"maxLength", ["max_length"], id⟩,
    ⟨"regex", [], id⟩, ⟨"range", [], id⟩, ⟨"defaultValue", ["default_value"], id⟩]

def plainBundle : Document → Document := plainRecord bundleMembers

def fieldMembers : List Member :=
  [⟨"name", [], id⟩, ⟨"type", [], id⟩, ⟨"required", [], id⟩, ⟨"regex", [], id⟩,
    ⟨"options", [], id⟩, ⟨"validationMessage", ["validation_message"], id⟩,
    ⟨"validations", [], plainBundle⟩]

def plainField : Document → Document := plainRecord fieldMembers

def componentMembers : List Member :=
  [⟨"name", [], id⟩, ⟨"menuName", ["menu_name"], id⟩, ⟨"fields", [], plainItems plainField⟩,
    ⟨"buttons", [], id⟩]

def plainComponent : Document → Document := plainRecord componentMembers

def specificationMembers : List Member :=
  [⟨"projectName", ["project_name"], id⟩, ⟨"components", [], plainItems plainComponent⟩,
    ⟨"menuType", ["menu_type"], id⟩, ⟨"footerContent", ["footer_content"], id⟩]

def plainSpecification : Document → Document := plainRecord specificationMembers

theorem distinct_bundleMembers : Distinct bundleMembers := by decide

theorem distinct_fieldMembers : Distinct fieldMembers := by decide

theorem distinct_componentMembers : Distinct componentMembers := by decide

theorem distinct_specificationMembers : Distinct specificationMembers := by decide

theorem readsPlain_bundle : ReadsPlain readValidationBundle plainBundle := by
  intro d
  cases d with
  | map entries =>
      refine .seq (.seq (.seq (.seq (.seq (.map _ ?_) ?_) ?_) ?_) ?_) ?_
      all_goals
        exact distinct_bundleMembers.readsMember (by simp [bundleMembers]) (readsPlain_id _) _
          entries
  | _ => rfl

theorem readsPlain_field : ReadsPlain readField plainField := by
  intro d
  cases d with
  | map entries =>
      refine .seq (.seq (.seq (.seq (.seq (.seq (.map _ ?_) ?_) ?_) ?_) ?_) ?_) ?validations
      case validations =>
        exact distinct_fieldMembers.readsMember (by simp [fieldMembers, plainBundle])
          readsPlain_bundle.optional _ entries
      all_goals
        exact distinct_fieldMembers.readsMember (by simp [fieldMembers]) (readsPlain_id _) _ entries
  | _ => rfl

theorem readsPlain_component : ReadsPlain readComponent plainComponent := by
  intro d
  cases d with
  | map entries =>
      refine .seq (.seq (.seq (.map _ ?_) ?_) ?fields) ?_
      case fields =>
        exact distinct_componentMembers.readsMember (by simp [componentMembers])
          readsPlain_field.list _ entries
      all_goals
        exact distinct_componentMembers.readsMember (by simp [componentMembers]) (readsPlain_id _) _
          entries
  | _ => rfl

theorem readsPlain_specification : ReadsPlain readSpecification plainSpecification := by
  intro d
  cases d with
  | map entries =>
      refine .seq (.seq (.seq (.map _ ?_) ?components) ?_) ?_
      case components =>
        exact distinct_specificationMembers.readsMember (by simp [specificationMembers])
          readsPlain_component.list _ entries
      all_goals
        exact distinct_specificationMembers.readsMember (by simp [specificationMembers])
          (readsPlain_id _) _ entries
  | _ => rfl

theorem plainBundle_plainBundle (d : Document) : plainBundle (plainBundle d) = plainBundle d :=
  distinct_bundleMembers.plainRecord_plainRecord (by simp [bundleMembers]) d

theorem plainField_plainField (d : Document) : plainField (plainField d) = plainField d :=
  distinct_fieldMembers.plainRecord_plainRecord
    (by simp [fieldMembers, plainBundle_plainBundle]) d

theorem plainComponent_plainComponent (d : Document) :
    plainComponent (plainComponent d) = plainComponent d :=
  distinct_componentMembers.plainRecord_plainRecord
    (by simp [componentMembers, plainItems_plainItems plainField_plainField]) d

theorem plainSpecification_plainSpecification (d : Document) :
    plainSpecification (plainSpecification d) = plainSpecification d :=
  distinct_specificationMembers.plainRecord_plainRecord
    (by simp [specificationMembers, plainItems_plainItems plainComponent_plainComponent]) d

end Schema

/-- Only the keys that are known count, in either spelling. A specification is read from a document
if and only if it is read from the plain form of the document, in which every record, from the
specification down to the validation bundles, has nothing but known members under their names in
documents. The plain form of a plain form is itself. -/
theorem Specification.ofDocument_plain (d : Document) :
    (∀ spec, Specification.ofDocument (Schema.plainSpecification d) = .ok spec ↔
      Specification.ofDocument d = .ok spec) ∧
      Schema.plainSpecification (Schema.plainSpecification d) = Schema.plainSpecification d := by
  refine ⟨fun spec => ?_, Schema.plainSpecification_plainSpecification d⟩
  rw [Specification.ofDocument_eq_ok_iff, Specification.ofDocument_eq_ok_iff,
    Schema.readsPlain_specification d]

/-- Where both spellings are there the one of documents counts, and a key that is not known is
dropped. -/
example :
    Schema.plainSpecification (.map [(.text "project_name", .text "old"), (.text "author", .null),
      (.text "projectName", .text "new"), (.text "menu_type", .text "vertical")]) =
      .map [(.text "projectName", .text "new"), (.text "menuType", .text "vertical")] := rfl

end Formwork
