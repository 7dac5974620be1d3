import Formwork.Proofs.Schema.Keys
import Formwork.Proofs.Text.Lines
import Formwork.Proofs.Text.Utf8
import Formwork.SpecificationFile

/-!
What a specification file comes to. Its octets are a text, the text is a document, and the document
is a specification; each of the three may fail. A top level that is no mapping is put under a key of
its own, so a mapping that has this key is taken for one that is none.
-/

namespace Formwork

namespace Schema

def knownEntries (members : List Member) (entries : List (Document × Document)) :
    List (Document × Document) :=
  entries.filter fun entry =>
    members.any fun m => m.names.any fun name => entry.1.sameKey (.text name)

section

variable {members : List Member} {names : List String} (hnames : names ∈ members.map Member.names)

include hnames

theorem member?_knownEntries (entries : List (Document × Document)) {name : String}
    (hname : name ∈ names) :
    Document.member? (knownEntries members entries) name = Document.member? entries name := by
  obtain ⟨m, hm, rfl⟩ := List.mem_map.mp hnames
  rw [Document.member?, Document.member?, Document.get?, Document.get?, knownEntries,
    List.find?_filter]
  congr 2
  funext entry
  -- an entry that is looked for is known
  rw [Bool.eq_iff_iff, decide_eq_true_iff]
  refine and_iff_right_of_imp fun hkey => List.any_eq_true.mpr ⟨m, hm, ?_⟩
  exact List.any_eq_true.mpr ⟨name, hname, hkey⟩

theorem readMember_knownEntries {α : Type} (read : Document → Reading α) (absent : Reading α)
    (entries : List (Document × Document)) :
    readMember (knownEntries members entries) names read absent =
      readMember entries names read absent := by
  have hfound : ∀ some ⊆ names,
      (some.findSome? fun name =>
        (Document.member? (knownEntries members entries) name).map (name, ·)) =
        some.findSome? fun name => (Document.member? entries name).map (name, ·) := by
    intro some hsome
    induction some with
    | nil => rfl
    | cons name more ih =>
        obtain ⟨hname, hmore⟩ := List.cons_subset.mp hsome
        rw [List.findSome?_cons, List.findSome?_cons, member?_knownEntries hnames entries hname,
          ih hmore]
  rw [readMember.eq_def, readMember.eq_def, hfound names (List.Subset.refl _)]

end

theorem readSpecification_knownEntries (entries : List (Document × Document)) :
    readSpecification (.map (knownEntries specificationMembers entries)) =
      readSpecification (.map entries) := by
  simp (disch := decide) only [readSpecification, readRecord, readRequired, readDefaulted,
    readMember_knownEntries]

end Schema

/-- A specification and the refusal of one depend on the entries of the top level that are known. -/
theorem Specification.ofDocument_knownEntries (entries : List (Document × Document)) :
    Specification.ofDocument (.map (Schema.knownEntries Schema.specificationMembers entries)) =
      Specification.ofDocument (.map entries) := by
  rw [Specification.ofDocument, Specification.ofDocument, Schema.readSpecification_knownEntries]

namespace SpecificationFile

variable {account : Account} {t : FileTree} {current : Place} {path : Path} {format : Format}
  {content : Text.Octets} {text : List Char} {entries : List (Document × Document)}

def accept (path : Path) (entries : List (Document × Document)) :
    Except LoadError Specification :=
  if (Document.member? entries rootKey).isSome then
    refuse (path.name ++ " must contain a mapping at the top level")
  else (Specification.ofDocument (.map entries)).mapError .specification

def ofText (account : Account) (path : Path) (format : Format) (text : List Char) :
    Except LoadError Specification :=
  match decode account format text with
  | .error e => .error (explain path e)
  | .ok d => accept path (topLevel d)

theorem exists?_of_read (h : t.read current path = .ok content) :
    exists? t current path = .ok true := by
  rw [exists?]
  cases hfind : t.find current path with
  | ok found => rfl
  | error fault =>
      rw [FileTree.read, hfind] at h
      exact absurd h (by simp [bind, Except.bind])

theorem readText_of_read (h : t.read current path = .ok content) :
    readText t current path =
      ((Text.Utf8.decode content).mapError .encoding).map Text.unifyNewlines := by
  simp only [readText, h, bind, Except.bind, Except.mapError, pure, Except.pure]
  cases Text.Utf8.decode content <;> rfl

theorem load_of_read (hformat : formats.lookup (Text.lower path.suffix) = some format)
    (hread : t.read current path = .ok content) :
    load account t current path =
      match Text.Utf8.decode content with
      | .error f => .error (.encoding f)
      | .ok cs => ofText account path format (Text.unifyNewlines cs) := by
  rw [load, exists?_of_read hread, hformat]
  simp only [bind, Except.bind, loadEntries, readText_of_read hread]
  cases Text.Utf8.decode content with
  | error f => rfl
  | ok cs =>
      simp only [Except.mapError, Except.map, ofText]
      cases decode account format (Text.unifyNewlines cs) <;> rfl

theorem read_of_readText (h : readText t current path = .ok text) :
    ∃ content cs, t.read current path = .ok content ∧ Text.Utf8.decode content = .ok cs ∧
      Text.unifyNewlines cs = text := by
  cases hread : t.read current path with
  | error fault =>
      simp only [readText, hread, bind, Except.bind, Except.mapError] at h
      exact absurd h (by simp)
  | ok content =>
      rw [readText_of_read hread] at h
      cases hdecode : Text.Utf8.decode content with
      | error f =>
          rw [hdecode] at h
          exact absurd h (by simp [Except.mapError, Except.map])
      | ok cs =>
          rw [hdecode] at h
          exact ⟨content, cs, rfl, hdecode, Except.ok.inj h⟩

theorem load_of_readText (hformat : formats.lookup (Text.lower path.suffix) = some format)
    (htext : readText t current path = .ok text) :
    load account t current path = ofText account path format text := by
  obtain ⟨content, cs, hread, hdecode, rfl⟩ := read_of_readText htext
  rw [load_of_read hformat hread, hdecode]

theorem decode_json {d : Document} (h : Json.decode text = .ok d) :
    decode account .json text = .ok d := by
  rw [decode, h]
  rfl

theorem ofText_of_mapping (hdecode : decode account format text = .ok (.map entries))
    (hroot : (Document.member? entries rootKey).isSome = false) :
    ofText account path format text =
      (Specification.ofDocument (.map entries)).mapError .specification := by
  simp only [ofText, hdecode, topLevel, accept, hroot, Bool.false_eq_true, if_false]

theorem ofText_of_accept {d : Document} {spec : Specification}
    (hdecode : Yaml.decode text = .ok (some d))
    (haccept : (accept path (topLevel d)).toOption = some spec) :
    (ofText account path .yaml text).toOption = some spec := by
  have hnull : d ≠ .null := by
    rintro rfl
    have hroot : (Document.member? (topLevel .null) rootKey).isSome = true := by rfl
    simp [accept, hroot, refuse, Except.toOption] at haccept
  rw [ofText, decode, hdecode]
  cases d <;> first | exact absurd rfl hnull | exact haccept

/-- A file with an object at the top level gives what the object gives, faults included, and only
the known keys of the object count. The exception is the key for a top level that is no mapping: an
object that has it is refused, whatever specification it holds. -/
theorem load_object (hsuffix : Text.lower path.suffix = ".json")
    (htext : readText t current path = .ok text) (hobject : Json.decode text = .ok (.map entries)) :
    load account t current path =
        (if (Document.member? entries rootKey).isSome then
          refuse (path.name ++ " must contain a mapping at the top level")
        else (Specification.ofDocument (.map entries)).mapError .specification) ∧
      Specification.ofDocument (.map entries) =
        Specification.ofDocument
          (.map (Schema.knownEntries Schema.specificationMembers entries)) := by
  refine ⟨?_, (Specification.ofDocument_knownEntries entries).symm⟩
  have hformat : formats.lookup (Text.lower path.suffix) = some .json := by rw [hsuffix]; rfl
  rw [load_of_readText hformat htext, ofText, decode, hobject]
  rfl

/-- An object with a key beside its project name is refused, if the key is the one for a top level
that is no mapping. Given directly it is a specification. -/
theorem load_object_rootKey :
    load (fun _ => "") ⟨[(["s.json"],
        .file (Text.Utf8.encode "\x7b\"_root\": 1, \"projectName\": \"p\"\x7d".toList))]⟩ []
        (.ofString "s.json") = refuse "s.json must contain a mapping at the top level" ∧
      Specification.ofDocument (.map [(.text "_root", .int 1), (.text "projectName", .text "p")]) =
        .ok ⟨"p", [], .horizontal, none⟩ := by
  have htext : readText ⟨[(["s.json"],
      .file (Text.Utf8.encode "\x7b\"_root\": 1, \"projectName\": \"p\"\x7d".toList))]⟩ []
      (.ofString "s.json") = .ok "\x7b\"_root\": 1, \"projectName\": \"p\"\x7d".toList := by
    rw [readText_of_read (by rfl), Text.Utf8.decode_encode]
    rfl
  have hobject : Json.decode "\x7b\"_root\": 1, \"projectName\": \"p\"\x7d".toList =
      .ok (.map [(.text "_root", .int 1), (.text "projectName", .text "p")]) := by rfl
  exact ⟨(load_object (by rfl) htext hobject).1.trans (if_pos (by rfl)), by rfl⟩

end SpecificationFile

end Formwork
