import Formwork.Proofs.Json.Integers
import Formwork.Proofs.SpecificationFile.Loading
import Formwork.Proofs.Yaml.Faults

/-!
The errors of loading a specification that are not told as refusals of it. A refusal is given for
every fault of form and for every fault of the schema, and for nothing else: octets that are no
text, whole numbers that are too long, and values of a YAML text that are none of their kinds come
through as they are.
-/

namespace Formwork.SpecificationFile

variable {account : Account} {t : FileTree} {current : Place} {path : Path} {format : Format}
  {content : Text.Octets} {text : List Char} {e : LoadError}

/-- The errors that come through for the octets of a file, and where they arise. -/
inductive Unreported (account : Account) (content : Text.Octets) : Format → LoadError → Prop
  | octets {format : Format} {f : Text.Utf8.Failure}
    (hdecode : Text.Utf8.decode content = .error f) :
    Unreported account content format (.encoding f)
  | integer {cs : List Char} {n : Nat} (hdecode : Text.Utf8.decode content = .ok cs)
    (hlong : Number.longestInteger < n)
    (hdigits : Json.HoldsDigits (Text.unifyNewlines cs) n)
    (hjson : Json.decode (Text.unifyNewlines cs) = .error (.integer (.oversized n))) :
    Unreported account content .json (.json (Text.unifyNewlines cs) (.integer (.oversized n)))
  | value {cs : List Char} {e : Yaml.Error} (hdecode : Text.Utf8.decode content = .ok cs)
    (hvalue : e ≠ .malformed) (harises : e.Arises (Text.unifyNewlines cs))
    (hyaml : Yaml.decode (Text.unifyNewlines cs) = .error e) :
    Unreported account content .yaml (.yaml (account (Text.unifyNewlines cs)) e)

theorem accept_eq_error {entries : List (Document × Document)}
    (h : accept path entries = .error e) :
    ∃ s, e = .specification s := by
  rw [accept] at h
  split at h
  · exact ⟨_, (Except.error.inj h).symm⟩
  · cases hcases : Specification.ofDocument (.map entries) with
    | ok spec =>
        rw [hcases] at h
        cases h
    | error s =>
        rw [hcases] at h
        exact ⟨s, (Except.error.inj h).symm⟩

/-- What comes through for a JSON text is a whole number that is too long. -/
theorem ofText_json_unreported (account : Account) (path : Path) (text : List Char)
    (e : LoadError) :
    (ofText account path .json text = .error e ∧ ∀ s, e ≠ .specification s) ↔
      ∃ n, Number.longestInteger < n ∧ Json.HoldsDigits text n ∧
        Json.decode text = .error (.integer (.oversized n)) ∧
        e = .json text (.integer (.oversized n)) := by
  have hends := Json.ends_decode text
  rw [ofText, decode]
  cases hdecode : Json.decode text with
  | ok d =>
      constructor
      · rintro ⟨h, hother⟩
        obtain ⟨s, hs⟩ := accept_eq_error h
        exact absurd hs (hother s)
      · rintro ⟨n, -, -, h, -⟩
        cases h
  | error fault =>
      rw [hdecode] at hends
      cases fault with
      | syntactic problem position =>
          constructor
          · rintro ⟨h, hother⟩
            exact absurd (Except.error.inj h).symm (hother _)
          · rintro ⟨n, -, -, h, -⟩
            cases h
      | integer fault =>
          obtain ⟨n, rfl, hlong, hdigits⟩ := hends
          constructor
          · rintro ⟨h, -⟩
            exact ⟨n, hlong, hdigits, rfl, (Except.error.inj h).symm⟩
          · rintro ⟨n', -, -, h, rfl⟩
            cases h
            exact ⟨rfl, fun s h => LoadError.noConfusion h⟩

/-- What comes through for a YAML text are its faults that are none of form. -/
theorem ofText_yaml_unreported (account : Account) (path : Path) (text : List Char)
    (e : LoadError) :
    (ofText account path .yaml text = .error e ∧ ∀ s, e ≠ .specification s) ↔
      ∃ fault, fault ≠ .malformed ∧ fault.Arises text ∧ Yaml.decode text = .error fault ∧
        e = .yaml (account text) fault := by
  have hends := Yaml.ends_decode text
  cases hdecode : Yaml.decode text with
  | ok found =>
      obtain ⟨d, hd⟩ : ∃ d, decode account .yaml text = .ok d := by
        rw [decode, hdecode]
        split
        · exact ⟨_, rfl⟩
        · exact ⟨_, rfl⟩
        · exact ⟨_, rfl⟩
        · contradiction
      rw [ofText, hd]
      constructor
      · rintro ⟨h, hother⟩
        obtain ⟨s, hs⟩ := accept_eq_error h
        exact absurd hs (hother s)
      · rintro ⟨fault, -, -, h, -⟩
        cases h
  | error fault =>
      rw [hdecode] at hends
      rw [ofText, decode, hdecode]
      by_cases hform : fault = .malformed
      · subst hform
        constructor
        · rintro ⟨h, hother⟩
          exact absurd (Except.error.inj h).symm (hother _)
        · rintro ⟨fault, hfault, -, h, -⟩
          exact absurd (Except.error.inj h).symm hfault
      · have hexplain : explain path (.yaml (account text) fault) = .yaml (account text) fault := by
          cases fault <;> first | rfl | exact absurd rfl hform
        constructor
        · rintro ⟨h, -⟩
          exact ⟨fault, hform, hends, rfl, (Except.error.inj h).symm.trans hexplain⟩
        · rintro ⟨fault', -, -, h, rfl⟩
          obtain rfl := Except.error.inj h
          exact ⟨congrArg Except.error hexplain, fun s h => LoadError.noConfusion h⟩

/-- What a file with a known ending comes to, apart from a specification and a refusal of one: the
errors that come through, and they only, are those of octets that are no text, of whole numbers that
are too long, and of YAML values that are none of their kinds. -/
theorem load_unreported_iff (hformat : formats.lookup (Text.lower path.suffix) = some format)
    (hread : t.read current path = .ok content) (e : LoadError) :
    (load account t current path = .error e ∧ ∀ s, e ≠ .specification s) ↔
      Unreported account content format e := by
  rw [load_of_read hformat hread]
  cases hdecode : Text.Utf8.decode content with
  | error f =>
      constructor
      · rintro ⟨h, -⟩
        exact Except.error.inj h ▸ .octets hdecode
      · rintro (⟨hdecode'⟩ | ⟨hdecode'⟩ | ⟨hdecode'⟩) <;> rw [hdecode] at hdecode'
        · obtain rfl := Except.error.inj hdecode'
          exact ⟨rfl, nofun⟩
        all_goals nomatch hdecode'
  | ok cs =>
      dsimp only
      cases format with
      | json =>
          rw [ofText_json_unreported]
          constructor
          · rintro ⟨n, hlong, hdigits, hjson, rfl⟩
            exact .integer hdecode hlong hdigits hjson
          · rintro (⟨hdecode'⟩ | ⟨hdecode', hlong, hdigits, hjson⟩)
            · nomatch hdecode.symm.trans hdecode'
            · obtain rfl := Except.ok.inj (hdecode.symm.trans hdecode')
              exact ⟨_, hlong, hdigits, hjson, rfl⟩
      | yaml =>
          rw [ofText_yaml_unreported]
          constructor
          · rintro ⟨fault, hvalue, harises, hyaml, rfl⟩
            exact .value hdecode hvalue harises hyaml
          · rintro (⟨hdecode'⟩ | _ | ⟨hdecode', hvalue, harises, hyaml⟩)
            · nomatch hdecode.symm.trans hdecode'
            · obtain rfl := Except.ok.inj (hdecode.symm.trans hdecode')
              exact ⟨_, hvalue, harises, hyaml, rfl⟩

/-- The first of two octets alone is no text, in whatever format. -/
theorem load_truncated :
    load (fun _ => "") ⟨[(["b.json"], .file [0xc3])]⟩ [] (.ofString "b.json") =
      .error (.encoding ⟨.truncated, 0xc3, 0, 1⟩) :=
  ((load_unreported_iff (by rfl) (by rfl) _).mpr (.octets (by decide +kernel))).1

end Formwork.SpecificationFile
