import Formwork.Settings.Environment

/-!
Environment variables that are empty. Settings look at six variables through `filled?`, which takes
an empty one for a missing one, and at the variable of the output directory as it is. So variables
that are empty may be dropped and the settings stay as they are, apart from the output directory:
where its variable is empty, the directory is the current one and not the standard one.
-/

namespace Formwork

/-! ### Readings of several parts -/

namespace Schema.Reading

variable {α β γ : Type}

theorem mapped_mapped (f : β → γ) (g : α → β) (x : Reading α) :
    f <$> (g <$> x) = (f ∘ g) <$> x := by
  cases x <;> rfl

theorem mapped_seq (f : β → γ) (g : Reading (α → β)) (x : Reading α) :
    f <$> (g <*> x) = ((f ∘ ·) <$> g) <*> x := by
  cases g <;> cases x <;> rfl

theorem toExcept_mapped (f : α → β) (x : Reading α) :
    (f <$> x).toExcept = x.toExcept.map f := by
  cases x <;> rfl

end Schema.Reading

/-! ### The output directory -/

namespace Settings

open Schema

def withOutput (directory : Path) (s : Settings) : Settings :=
  { s with outputDirectory := directory }

variable {m : List (Document × Document)} {output : String}

theorem readDefaulted_output {α : Type} (name : String) (read : Document → Reading α)
    (standard : α) (h : "output_dir" ≠ name) :
    readDefaulted ((.text "output_dir", .text output) :: m) [name] read standard =
      readDefaulted m [name] read standard := by
  have hother : Document.member? ((.text "output_dir", .text output) :: m) name =
      Document.member? m name := by
    have hkey : (Document.text "output_dir").sameKey (.text name) = false := beq_false_of_ne h
    rw [Document.member?, Document.get?, List.find?_cons, hkey]
    rfl
  rw [readDefaulted, readDefaulted, readMember, readMember, List.findSome?_cons,
    List.findSome?_cons, hother]
  rfl

/-- Of all settings, the member for the output directory decides about the output directory
only. -/
theorem readMembers_output (output standard : String) (m : List (Document × Document)) :
    readMembers ((.text "output_dir", .text output) :: m) =
      withOutput (Path.ofString output) <$>
        readMembers ((.text "output_dir", .text standard) :: m) := by
  have hdirectory : ∀ text standard, readDefaulted ((.text "output_dir", .text text) :: m)
      ["output_dir"] readPath standard = .value (Path.ofString text) := fun _ _ => rfl
  simp only [readMembers, hdirectory, Reading.mapped_seq, Reading.mapped_mapped]
  simp (disch := decide) only [readDefaulted_output]
  rfl

end Settings

namespace Environment

open Settings

/-- The variable of the output directory. -/
def outputVariable : String := "NGS_OUTPUT_DIR"

def otherMembers (env : Environment) : Except SettingsError (List (String × Value)) := do
  let bootstrap ← env.memberOf "NGS_USE_BOOTSTRAP" "use_bootstrap" flagValue
  let columns ← env.memberOf "NGS_COLUMN_LAYOUT" "column_layout" integerValue
  let strict ← env.memberOf "NGS_STRICT" "strict" flagValue
  let skeleton ← env.memberOf "NGS_SKELETON" "skeleton" fun value => .ok (.str value)
  let install ← env.memberOf "NGS_INSTALL_DEPENDENCIES" "install_dependencies" flagValue
  let timeout ← env.memberOf "NGS_COMMAND_TIMEOUT" "command_timeout" integerValue
  return bootstrap ++ columns ++ strict ++ skeleton ++ install ++ timeout

def settingsIn (env : Environment) (output : String) : Except SettingsError Settings := do
  let members ← env.otherMembers
  (readMembers (Document.ofMembers (("output_dir", .str output) :: members))).toExcept.mapError
    .invalid

theorem settings_eq (env : Environment) :
    env.settings = env.settingsIn ((env.lookup outputVariable).getD "./output") := by
  simp only [settings, members, settingsIn, otherMembers, bind_assoc, pure_bind, outputVariable,
    List.cons_append]

theorem settingsIn_congr {env env' : Environment} (h : ∀ name, env.filled? name = env'.filled? name)
    (output : String) : env.settingsIn output = env'.settingsIn output := by
  have hmember : ∀ name member read,
      env.memberOf name member read = env'.memberOf name member read :=
    fun name member read => by rw [memberOf, memberOf, h]
  simp only [settingsIn, otherMembers, hmember]

theorem settingsIn_output (env : Environment) (output standard : String) :
    env.settingsIn output = (env.settingsIn standard).map (withOutput (Path.ofString output)) := by
  rw [settingsIn, settingsIn]
  cases env.otherMembers with
  | error e => rfl
  | ok members =>
      show ((readMembers _).toExcept.mapError _) = ((readMembers _).toExcept.mapError _).map _
      rw [Document.ofMembers, Document.ofMembers, Document.ofValue, Document.ofValue,
        readMembers_output output standard, Schema.Reading.toExcept_mapped]
      cases (readMembers ((.text "output_dir", .text standard) ::
        Document.ofMembers members)).toExcept <;> rfl

theorem outputDirectory_of_settingsIn {env : Environment} {output : String} {s : Settings}
    (h : env.settingsIn output = .ok s) : s.outputDirectory = Path.ofString output := by
  have hsame := env.settingsIn_output output output
  rw [h] at hsame
  rw [Except.ok.inj hsame]
  rfl

/-! ### Variables that are dropped -/

def without (env : Environment) (dropped : String → Bool) : Environment :=
  env.filter fun v => !dropped v.1

theorem lookup_without (env : Environment) (dropped : String → Bool) (name : String) :
    (env.without dropped).lookup name = if dropped name then none else env.lookup name := by
  induction env with
  | nil => simp [without]
  | cons v env ih =>
      obtain ⟨key, value⟩ := v
      rw [without] at ih ⊢
      by_cases hkey : name = key
      · subst hkey
        cases hdropped : dropped name <;> simp [hdropped, ih]
      · have hother : (name == key) = false := beq_false_of_ne hkey
        cases hdropped : dropped key <;> simp [hdropped, List.lookup_cons, hother, ih]

/-- Whether a variable is one of those that settings may come from, by its name. -/
def isOwn (name : String) : Bool := "NGS_".toList.isPrefixOf name.toList

def withoutEmpty (env : Environment) : Environment :=
  env.without fun name => isOwn name && env.lookup name == some ""

theorem filled?_withoutEmpty (env : Environment) (name : String) :
    env.withoutEmpty.filled? name = env.filled? name := by
  rw [filled?, filled?, withoutEmpty, lookup_without]
  split
  case isTrue hdropped =>
    simp only [Bool.and_eq_true, beq_iff_eq] at hdropped
    rw [hdropped.2]
    rfl
  case isFalse => rfl

theorem lookup_output_withoutEmpty (env : Environment) :
    env.withoutEmpty.lookup outputVariable =
      if env.lookup outputVariable = some "" then none else env.lookup outputVariable := by
  have hown : isOwn outputVariable = true := by decide
  simp only [withoutEmpty, lookup_without, hown, Bool.true_and, beq_iff_eq]

/-- Variables that are empty count as missing, save the one of the output directory: dropping them
changes neither the settings nor the error, unless the directory is given by an empty variable. Then
it is the current directory where it would be the standard one, and nothing else differs. -/
theorem settings_withoutEmpty (env : Environment) :
    env.settings =
        (if env.lookup outputVariable = some "" then
          env.withoutEmpty.settings.map fun s => { s with outputDirectory := Path.ofString "" }
        else env.withoutEmpty.settings) ∧
      (env.settings = env.withoutEmpty.settings ↔
        env.lookup outputVariable ≠ some "" ∨ ∃ e, env.settings = .error e) := by
  have hdropped : ∀ output, env.withoutEmpty.settingsIn output = env.settingsIn output :=
    settingsIn_congr env.filled?_withoutEmpty
  by_cases hempty : env.lookup outputVariable = some ""
  · have hgiven : env.settings = env.settingsIn "" := by
      rw [settings_eq, hempty]
      rfl
    have hstandard : env.withoutEmpty.settings = env.settingsIn "./output" := by
      rw [settings_eq, hdropped, lookup_output_withoutEmpty, if_pos hempty]
      rfl
    have hmoved := env.settingsIn_output "" "./output"
    rw [if_pos hempty, hgiven, hstandard]
    refine ⟨hmoved, fun hsame => .inr ?_, fun herror => ?_⟩
    · -- settings that are equal would have one directory
      cases hread : env.settingsIn "./output" with
      | error e => exact ⟨e, hsame.trans hread⟩
      | ok s =>
          have hdirectory := (outputDirectory_of_settingsIn (hsame.trans hread)).symm.trans
            (outputDirectory_of_settingsIn hread)
          exact absurd hdirectory (by decide)
    · obtain ⟨e, he⟩ := herror.resolve_left (not_not_intro hempty)
      rw [he] at hmoved ⊢
      cases hread : env.settingsIn "./output" with
      | error e' =>
          rw [hread] at hmoved
          exact hmoved
      | ok s =>
          rw [hread] at hmoved
          cases hmoved
  · have hsame : env.settings = env.withoutEmpty.settings := by
      rw [settings_eq, settings_eq, hdropped, lookup_output_withoutEmpty, if_neg hempty]
    rw [if_neg hempty]
    exact ⟨hsame, fun _ => .inl hempty, fun _ => hsame⟩

-- an empty variable for the directory leads to the current one
example :
    let env : Environment := [("NGS_OUTPUT_DIR", ""), ("NGS_STRICT", "")]
    env.settings = .ok { outputDirectory := Path.ofString "" } ∧
      env.withoutEmpty.settings = .ok {} :=
  ⟨rfl, rfl⟩

end Environment

end Formwork
