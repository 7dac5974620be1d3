import Formwork.Proofs.FileTree.Texts
import Formwork.Proofs.Json.Faults
import Formwork.Proofs.Schema.Values
import Formwork.Proofs.Text.Lines
import Formwork.Settings.Environment
import Formwork.Settings.File
import Formwork.Settings.Loose

/-!
Settings that are saved and read again. What was read names its directory by the text of a path and
has a timeout that may be read once more, so that its members are read as they were written. A half
of a surrogate pair cannot be written, and a whole number whose text is too long is refused where
it is read; every other setting comes back.
-/

namespace Formwork.Settings

open Schema

/-- Settings that were read: out of given members, out of environment variables or out of the text
of a file. -/
inductive Validated (s : Settings) : Prop
  | given (m : List (Document × Document)) (h : readMembers m = .value s)
  | environment (env : Environment) (h : env.settings = .ok s)
  | file (text : String) (h : ofText text = .value s)

/-- Settings are read out of members, wherever these come from. -/
theorem Validated.members {s : Settings} (h : Validated s) : ∃ m, readMembers m = .value s := by
  cases h with
  | given m h => exact ⟨m, h⟩
  | environment env h =>
      rw [Environment.settings] at h
      cases hmembers : env.members with
      | error e => rw [hmembers] at h; cases h
      | ok members =>
          rw [hmembers] at h
          refine ⟨Document.ofMembers members, ?_⟩
          cases hread : readMembers (Document.ofMembers members) with
          | value a =>
              simp only [bind, Except.bind, hread, Reading.toExcept, Except.mapError] at h
              rw [Except.ok.inj h]
          | faulty faults =>
              simp only [bind, Except.bind, hread, Reading.toExcept, Except.mapError] at h
              cases h
  | file text h =>
      rw [ofText] at h
      split at h
      case h_1 => cases h
      case h_2 d _ _ =>
        cases d with
        | map members => exact ⟨members, h⟩
        | _ => cases h
      case h_3 => cases h

theorem value?_readDefaulted {α : Type} {m : List (Document × Document)} {names : List String}
    {read : Document → Reading α} {standard a : α}
    (h : (readDefaulted m names read standard).value? = some a) :
    a = standard ∨ ∃ d, (read d).value? = some a := by
  rw [readDefaulted, value?_readMember] at h
  split at h
  case h_1 d _ => exact .inr ⟨d, h⟩
  case h_2 => exact .inl (Option.some.inj h).symm

/-- What every way of reading settings sees to. -/
structure WellRead (s : Settings) : Prop where
  directory : Path.ofString s.outputDirectory.text = s.outputDirectory
  timeout : leastTimeout ≤ s.commandTimeout

theorem ofString_text_of_readPath {d : Document} {p : Path} (h : (readPath d).value? = some p) :
    Path.ofString p.text = p := by
  cases d with
  | text t =>
      rw [← Option.some.inj h]
      exact Path.ofString_text t
  | _ => cases h

theorem le_of_readIntegerFrom {minimum n : Int} {d : Document}
    (h : (readIntegerFrom minimum d).value? = some n) : minimum ≤ n := by
  rw [readIntegerFrom] at h
  cases hread : readInteger d with
  | faulty faults => rw [hread] at h; cases h
  | value k =>
      rw [hread, Reading.check] at h
      split at h
      case isTrue => cases h
      case isFalse hle =>
        rw [← Option.some.inj h]
        omega

theorem read_of_readMembers {m : List (Document × Document)} {s : Settings}
    (h : readMembers m = .value s) :
    (∃ standard, (readDefaulted m ["output_dir"] readPath standard).value? =
        some s.outputDirectory ∧ Path.ofString standard.text = standard) ∧
      ∃ standard, (readDefaulted m ["command_timeout"] (readIntegerFrom leastTimeout)
        standard).value? = some s.commandTimeout ∧ leastTimeout ≤ standard := by
  have hvalue : (readMembers m).value? = some s := by rw [h]; rfl
  simp only [readMembers, Reading.value?_seq, Reading.value?_mapped, Option.bind_eq_some_iff,
    Option.map_eq_some_iff] at hvalue
  obtain ⟨_, ⟨_, ⟨_, ⟨_, ⟨_, ⟨_, ⟨_, ⟨directory, hdirectory, rfl⟩, _, _, rfl⟩, _, _, rfl⟩, _, _,
    rfl⟩, _, _, rfl⟩, _, _, rfl⟩, timeout, htimeout, rfl⟩, _, _, rfl⟩ := hvalue
  exact ⟨⟨_, hdirectory, by decide⟩, ⟨_, htimeout, by decide⟩⟩

theorem Validated.wellRead {s : Settings} (h : Validated s) : WellRead s := by
  obtain ⟨m, hm⟩ := h.members
  obtain ⟨⟨path, hdirectory, hpath⟩, timeout, htimeout, hleast⟩ := read_of_readMembers hm
  refine ⟨?_, ?_⟩
  · rcases value?_readDefaulted hdirectory with heq | ⟨d, hd⟩
    · rw [heq, hpath]
    · exact ofString_text_of_readPath hd
  · rcases value?_readDefaulted htimeout with heq | ⟨d, hd⟩
    · rw [heq]
      exact hleast
    · exact le_of_readIntegerFrom hd

theorem readChoice_name (c : SkeletonChoice) : readChoice (.text c.name) = .value c := by
  cases c <;> decide

theorem WellRead.readMembers_members {s : Settings} (h : WellRead s) :
    readMembers (Document.ofMembers s.members) = .value s := by
  have hread : readMembers (Document.ofMembers s.members) =
      Settings.mk
        <$> (readPath (.text s.outputDirectory.text)).under "output_dir"
        <*> (readBoolean (.bool s.useBootstrap)).under "use_bootstrap"
        <*> (readInteger (.int s.columns)).under "column_layout"
        <*> (readBoolean (.bool s.strict)).under "strict"
        <*> (readChoice (.text s.skeleton.name)).under "skeleton"
        <*> (readBoolean (.bool s.installsDependencies)).under "install_dependencies"
        <*> (readIntegerFrom leastTimeout (.int s.commandTimeout)).under "command_timeout"
        <*> (readText (.text s.cliPackage)).under "angular_cli_package" := by
    rfl
  have htimeout : readIntegerFrom leastTimeout (.int s.commandTimeout) = .value s.commandTimeout :=
    if_neg (Int.not_lt.mpr h.timeout)
  rw [hread, readPath, h.directory, readChoice_name, htimeout]
  rfl

/-! ### What can be written -/

/-- No half of a surrogate pair stands alone in the texts of settings. -/
def Storable (s : Settings) : Prop :=
  Text.holdsHalf s.outputDirectory.text = false ∧ Text.holdsHalf s.cliPackage = false

theorem holdsHalf_name (c : SkeletonChoice) : Text.holdsHalf c.name = false := by
  cases c <;> decide

theorem holdsHalf_of_mem_members {s : Settings} {m : String × Value} (h : m ∈ s.members) :
    Text.holdsHalf m.1 = false := by
  have hnames : ∀ name ∈ s.members.map (·.1), Text.holdsHalf name = false := by
    simp only [members, List.map_cons, List.map_nil]
    decide
  exact hnames m.1 (List.mem_map_of_mem h)

/-- No first halves are found exactly if names and values hold none. -/
theorem firstHalvesAmong?_eq_none {members : List (String × Value)} :
    LooseSettings.firstHalvesAmong? members = none ↔
      ∀ m ∈ members, Text.holdsHalf m.1 = false ∧ LooseSettings.firstHalves? m.2 = none := by
  induction members with
  | nil => exact iff_of_true rfl nofun
  | cons m members ih =>
      rw [LooseSettings.firstHalvesAmong?, List.forall_mem_cons, ← ih, Text.holdsHalf,
        ← Text.Utf8.firstHalves?_eq_none]
      cases Text.Utf8.firstHalves? m.1.toList <;> cases LooseSettings.firstHalves? m.2 <;> simp

/-- Settings can be saved exactly if no half of a surrogate pair stands alone in them. -/
theorem saved_loose_iff (s : Settings) : s.loose.saved = .ok s.text ↔ s.Storable := by
  have htext : ∀ t, LooseSettings.firstHalves? (.str t) = none ↔ Text.holdsHalf t = false :=
    fun t => Text.Utf8.firstHalves?_eq_none
  have hhalves : LooseSettings.firstHalvesAmong? s.members = none ↔ s.Storable := by
    rw [firstHalvesAmong?_eq_none]
    refine ⟨fun h => ⟨?_, ?_⟩, fun h m hm => ⟨holdsHalf_of_mem_members hm, ?_⟩⟩
    · exact (htext _).mp (h ("output_dir", _) (by simp [members])).2
    · exact (htext _).mp (h ("angular_cli_package", _) (by simp [members])).2
    · simp only [members, List.mem_cons, List.not_mem_nil, or_false] at hm
      rcases hm with rfl | rfl | rfl | rfl | rfl | rfl | rfl | rfl
      all_goals first
        | exact (htext _).mpr h.1
        | exact (htext _).mpr h.2
        | exact (htext _).mpr (holdsHalf_name _)
        | rfl
  rw [← hhalves, LooseSettings.saved, members_loose]
  cases LooseSettings.firstHalvesAmong? s.members with
  | none => exact iff_of_true rfl rfl
  | some failure => exact iff_of_false nofun nofun

/-! ### The text of a settings file -/

theorem not_mem_hexDigits (n : Nat) : '\r' ∉ Text.hexDigits 4 n := by
  have hdigit : ∀ k < 16, Text.hexDigit k ≠ '\r' := by decide
  have hne := fun k => (hdigit (k % 16) (Nat.mod_lt k (by decide))).symm
  rw [Json.hexDigits_four]
  simp only [List.mem_cons, List.not_mem_nil, hne, or_false, not_false_eq_true]

theorem not_mem_encodeText (s : String) : '\r' ∉ Json.encodeText Json.settingsStyle s := by
  have hunit : ∀ n, '\r' ∉ Json.unitEscape n := fun n =>
    List.not_mem_cons_of_ne_of_not_mem (by decide)
      (List.not_mem_cons_of_ne_of_not_mem (by decide) (not_mem_hexDigits n))
  have hchar : ∀ ch, '\r' ∉ Json.encodeChar Json.settingsStyle ch := by
    intro ch
    rw [Json.encodeChar, Json.charEscape]
    split_ifs with _ _ _ hreturn
    any_goals decide
    · exact hunit _
    · exact fun h => (List.mem_append.mp h).elim (hunit _) (hunit _)
    · exact fun h => hreturn (List.mem_singleton.mp h).symm
  rw [Json.encodeText]
  simp [hchar]

theorem not_mem_toString_int (n : Int) : '\r' ∉ (toString n).toList := by
  intro h
  rcases Json.mem_toString_int h with h | h
  · exact absurd h (by decide)
  · exact absurd h (by decide)

theorem not_mem_encodeAt {v : Value} (hv : Json.Strict.IsScalar v) (depth : Nat) :
    '\r' ∉ Json.encodeAt Json.settingsStyle depth v := by
  cases v with
  | null => exact hv.elim
  | float x => exact hv.elim
  | list items => exact hv.elim
  | object members => exact hv.elim
  | bool b =>
      rw [Json.encodeAt]
      cases b <;> decide
  | str s =>
      rw [Json.encodeAt]
      exact not_mem_encodeText s
  | int n =>
      rw [Json.encodeAt]
      exact not_mem_toString_int n

theorem not_mem_newline (depth : Nat) : '\r' ∉ Json.newline depth := by
  simp [Json.newline]

theorem not_mem_encodeMembers {members : List (String × Value)}
    (h : ∀ m ∈ members, Json.Strict.IsScalar m.2) (depth : Nat) :
    '\r' ∉ Json.encodeMembers Json.settingsStyle depth members := by
  induction members with
  | nil => exact List.not_mem_nil
  | cons m members ih =>
      have hv := not_mem_encodeAt (h m List.mem_cons_self) depth
      cases members with
      | nil =>
          rw [Json.encodeMembers]
          simp [not_mem_newline, not_mem_encodeText, hv]
      | cons n members =>
          rw [Json.encodeMembers_cons]
          simp [not_mem_newline, not_mem_encodeText, hv,
            ih fun k hk => h k (List.mem_cons_of_mem m hk)]

theorem isScalar_members {s : Settings} (h : s.Storable) :
    ∀ m ∈ s.members, Json.Strict.IsScalar m.2 := by
  simp only [members, List.forall_mem_cons]
  exact ⟨h.1, trivial, trivial, trivial, holdsHalf_name s.skeleton, trivial, trivial, h.2, nofun⟩

theorem shortValue_members (s : Settings) :
    (∀ m ∈ s.members, Json.Strict.ShortValue m.2) ↔
      Json.Strict.Short s.columns ∧ Json.Strict.Short s.commandTimeout := by
  simp only [members, List.forall_mem_cons]
  exact ⟨fun h => ⟨h.2.2.1, h.2.2.2.2.2.2.1⟩, fun h =>
    ⟨trivial, trivial, h.1, trivial, trivial, trivial, h.2, trivial, nofun⟩⟩

theorem natAbs_lt_of_short {n : Int} (h : Json.Strict.Short n) :
    n.natAbs < 10 ^ Number.longestInteger := by
  have hlength := Json.Strict.length_toString_int n
  rw [Json.Strict.Short] at h
  refine (Nat.length_toDigits_le_iff (by decide) (by decide)).mp ?_
  omega

theorem plain_members {s : Settings} (h : s.Storable) (hcolumns : Json.Strict.Short s.columns)
    (htimeout : Json.Strict.Short s.commandTimeout) : Json.Plain (.object s.members) := by
  refine ⟨?_, ?_⟩
  · simp only [members, List.map_cons, List.map_nil]
    decide
  · refine Json.plainMembers_iff.mpr fun m hm => ⟨holdsHalf_of_mem_members hm, ?_⟩
    have hvalues : ∀ m ∈ s.members, Json.Plain m.2 := by
      simp only [members, List.forall_mem_cons]
      exact ⟨h.1, trivial, natAbs_lt_of_short hcolumns, trivial, holdsHalf_name s.skeleton,
        trivial, natAbs_lt_of_short htimeout, h.2, nofun⟩
    exact hvalues m hm

theorem unifyNewlines_text {s : Settings} (h : s.Storable) :
    Text.unifyNewlines s.text.toList = Json.encodeAt Json.settingsStyle 0 (.object s.members) := by
  have hmembers := not_mem_encodeMembers (isScalar_members h) 1
  rw [text, Json.encode, String.toList_ofList]
  refine Text.unifyNewlines_of_not_mem ?_
  obtain ⟨m, ms, hcons⟩ : ∃ m ms, s.members = m :: ms := ⟨_, _, rfl⟩
  rw [hcons] at hmembers ⊢
  rw [Json.encodeAt_object_cons]
  simp [hmembers, not_mem_newline]

/-- Settings that were saved are read again exactly if their numbers are short enough. -/
theorem ofText_text_iff {s : Settings} (h : WellRead s) (hstorable : s.Storable) :
    ofText s.text = .value s ↔
      Json.Strict.Short s.columns ∧ Json.Strict.Short s.commandTimeout := by
  have hne : s.members ≠ [] := List.cons_ne_nil _ _
  have hfault := Json.Strict.fault?_encodeAt hne fun m hm =>
    ⟨holdsHalf_of_mem_members hm, isScalar_members hstorable m hm⟩
  rw [shortValue_members] at hfault
  rw [ofText, unifyNewlines_text hstorable]
  by_cases hshort : Json.Strict.Short s.columns ∧ Json.Strict.Short s.commandTimeout
  · have hplain := plain_members hstorable hshort.1 hshort.2
    have hdecode := Json.decode_encodeAt Json.settingsStyle hplain (.inl rfl)
    rw [List.append_nil] at hdecode
    rw [hfault.mpr hshort, hdecode]
    exact iff_of_true h.readMembers_members hshort
  · obtain ⟨fault, hsome⟩ := Option.ne_none_iff_exists'.mp (mt hfault.mp hshort)
    rw [hsome]
    exact iff_of_false nofun hshort

/-- Settings that were read can be saved exactly if no half of a surrogate pair stands alone in
their texts, and what was saved gives them back exactly if their numbers are short enough to be
read. -/
theorem saved_gives_back {s : Settings} (h : Validated s) :
    (s.loose.saved = .ok s.text ↔
      Text.holdsHalf s.outputDirectory.text = false ∧ Text.holdsHalf s.cliPackage = false) ∧
    ∀ text, s.loose.saved = .ok text → (ofText text = .value s ↔
      (toString s.columns).length ≤ Number.longestInteger ∧
        (toString s.commandTimeout).length ≤ Number.longestInteger) := by
  refine ⟨saved_loose_iff s, fun text htext => ?_⟩
  have hsaved : s.loose.saved = .ok s.text := by
    rw [LooseSettings.saved] at htext ⊢
    split at htext
    case h_1 => cases htext
    case h_2 hnone => rfl
  rw [← Except.ok.inj (hsaved.symm.trans htext)]
  exact ofText_text_iff h.wellRead ((saved_loose_iff s).mp hsaved)

/-- Quotes, backslashes, control characters and characters outside ASCII are given back. -/
theorem saved_gives_back_quoted :
    let s : Settings :=
      { outputDirectory := Path.ofString "/a \"b\"\\c/\u00e9\n", columns := -7,
        cliPackage := "@x/\t\u2028" }
    Validated s ∧ s.loose.saved = .ok s.text ∧ ofText s.text = .value s := by
  intro s
  have hread : Validated s := .given (Document.ofMembers s.members)
    (WellRead.readMembers_members ⟨Path.ofString_text _, by decide⟩)
  have hsaved := (saved_gives_back hread).1.mpr (by decide)
  exact ⟨hread, hsaved, ((saved_gives_back hread).2 s.text hsaved).mpr (by decide)⟩

theorem lt_length_pow (k : Nat) : k + 1 < (toString (-(10 ^ k) : Int)).length := by
  have hneg : (-(10 ^ k) : Int) < 0 := by
    have : (0 : Int) < 10 ^ k := by positivity
    omega
  have habs : (-(10 ^ k) : Int).natAbs = 10 ^ k := by
    rw [Int.natAbs_neg, Int.natAbs_pow]
    rfl
  rw [Json.Strict.length_toString_int, if_pos hneg, habs]
  have hdigits : ¬ (Nat.toDigits 10 (10 ^ k)).length ≤ k := by
    cases k with
    | zero => decide
    | succ k =>
        rw [Nat.length_toDigits_le_iff (by decide) (Nat.succ_pos k)]
        exact Nat.lt_irrefl _
  omega

/-- A half of a surrogate pair cannot be saved, and a whole number of 4300 digits with a sign is
saved but not read again. -/
theorem not_given_back :
    (Validated { cliPackage := String.ofList [Text.charOfCode 0xd800] } ∧
      ∀ text, (loose { cliPackage := String.ofList [Text.charOfCode 0xd800] }).saved ≠ .ok text) ∧
    Validated { columns := -(10 ^ 4299) } ∧
      (loose { columns := -(10 ^ 4299) }).saved = .ok (text { columns := -(10 ^ 4299) }) ∧
      ofText (text { columns := -(10 ^ 4299) }) ≠ .value { columns := -(10 ^ 4299) } := by
  refine ⟨⟨?_, ?_⟩, ?_⟩
  · exact .given [(.text "angular_cli_package", .text (String.ofList [Text.charOfCode 0xd800]))] rfl
  · intro text htext
    have hhalf : (LooseSettings.firstHalvesAmong? (loose
        { cliPackage := String.ofList [Text.charOfCode 0xd800] }).members).isSome = true := by
      decide
    rw [LooseSettings.saved] at htext
    split at htext
    case h_1 => cases htext
    case h_2 hnone => exact absurd hhalf (by rw [hnone]; decide)
  · have hread : Validated { columns := -(10 ^ 4299) } :=
      .given [(.text "column_layout", .int (-(10 ^ 4299)))] rfl
    have hstorable : Storable { columns := -(10 ^ 4299) } := by
      refine ⟨?_, ?_⟩
      · show Text.holdsHalf (Path.text { parts := ["output"] }) = false
        decide
      · show Text.holdsHalf Skeleton.standardPackage = false
        decide
    refine ⟨hread, (saved_loose_iff _).mpr hstorable, fun h => ?_⟩
    have hshort := ((ofText_text_iff hread.wellRead hstorable).mp h).1
    exact absurd (lt_length_pow 4299) (Nat.not_lt.mpr hshort)

end Formwork.Settings
