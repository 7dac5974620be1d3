import Formwork.Proofs.Writer.Frame

/-!
A writer stays in its project. An artifact has a target if the file system can be asked about its
path and the path, followed name by name from the project, leads to a place in the project; the
target is that place. A batch with an artifact that has no target is refused as a whole, and nothing
is written then; no batch writes a file that is not in the project. Whatever the tree is and
wherever the writer fails, what lies outside of the project is as it was, but for directories above
the project that are new.
-/

namespace Formwork.Writer

open FileTree Formwork.Path

/-- Where the path of an artifact leads from its project, which is named as it is seen from the
current directory. -/
def destination (current : Place) (root : String) (a : Artifact) : Place :=
  Path.follow (Path.follow current root) a.path

/-- The path of an artifact leads to its project or to a place below it. -/
def Stays (current : Place) (root : String) (a : Artifact) : Prop :=
  Path.follow current root <+: destination current root a

instance (current : Place) (root : String) (a : Artifact) : Decidable (Stays current root a) :=
  inferInstanceAs (Decidable (_ <+: _))

/-- The file system can be asked about the project and the path of an artifact. -/
def Askable (root : String) (a : Artifact) : Prop := IsPassable root ∧ IsPassable a.path

instance (root : String) (a : Artifact) : Decidable (Askable root a) :=
  inferInstanceAs (Decidable (_ ∧ _))

section

variable {current : Place} {root : String} {a : Artifact} {artifacts : List Artifact}

theorem target_eq_ite (ha : Askable root a) :
    target current (.ofString root) a =
      if Stays current root a then .ok (destination current root a)
      else .error (.escapes a.path) := by
  have hfault := (resolveFault?_join_eq_none_iff (.ofString root) (.ofString a.path)).mpr
    ⟨isPassable_iff_of_ofString.mp ha.1, isPassable_iff_of_ofString.mp ha.2⟩
  rw [target]
  simp only [hfault, resolve_join_ofString, resolve_ofString, List.isPrefixOf_iff_prefix]
  rfl

theorem target_of_not_askable (current : Place) (ha : ¬ Askable root a) :
    ∃ fault, target current (.ofString root) a = .error (.path fault) := by
  have hfault : ((Path.ofString root).join (.ofString a.path)).resolveFault?.or
      (Path.ofString root).resolveFault? ≠ none := fun hnone => by
    obtain ⟨hroot, hpath⟩ := (resolveFault?_join_eq_none_iff _ _).mp hnone
    exact ha ⟨isPassable_iff_of_ofString.mpr hroot, isPassable_iff_of_ofString.mpr hpath⟩
  obtain ⟨fault, hfault⟩ := Option.ne_none_iff_exists'.mp hfault
  exact ⟨fault, by simp only [target, hfault]⟩

theorem target_of_not_stays (ha : Askable root a) (h : ¬ Stays current root a) :
    target current (.ofString root) a = .error (.escapes a.path) := by
  rw [target_eq_ite ha, if_neg h]

theorem target_eq_ok_iff {place : Place} :
    target current (.ofString root) a = .ok place ↔
      (Askable root a ∧ Stays current root a) ∧ place = destination current root a := by
  by_cases ha : Askable root a
  · rw [target_eq_ite ha, and_iff_right ha]
    split
    case isTrue h =>
      rw [Except.ok.injEq, and_iff_right h]
      exact eq_comm
    case isFalse h => exact iff_of_false (by simp) fun hstays => h hstays.1
  · obtain ⟨fault, hfault⟩ := target_of_not_askable current ha
    rw [hfault]
    exact iff_of_false (by simp) fun h => ha h.1.1

theorem exists_target_iff :
    (∃ place, target current (.ofString root) a = .ok place) ↔
      Askable root a ∧ Stays current root a := by
  simp only [target_eq_ok_iff, exists_and_left, exists_eq, and_true]

/-! ### Batches that are refused -/

theorem Early.not_late {e : WriteError} (h : Early e) : ¬ Late e := by
  rcases h with ⟨fault, rfl⟩ | ⟨path, rfl⟩ <;> exact id

theorem writeAll_of_no_target (t : FileTree)
    (h : ∃ a ∈ artifacts, ¬ (Askable root a ∧ Stays current root a)) :
    ∃ a ∈ artifacts, ∃ e, target current (.ofString root) a = .error e ∧
      writeAll t current (.ofString root) artifacts = (t, .error e) := by
  obtain ⟨a, ha, hout⟩ := h
  obtain ⟨e, he⟩ : ∃ e, target current (.ofString root) a = .error e := by
    cases htarget : target current (.ofString root) a with
    | error e => exact ⟨e, rfl⟩
    | ok place => exact absurd (exists_target_iff.mp ⟨place, htarget⟩) hout
  obtain ⟨b, hb, e', he', hmap⟩ := exists_error_of_mapM ha he
  exact ⟨b, hb, e', he', by simp only [writeAll, hmap]⟩

theorem mapM_target (h : ∀ a ∈ artifacts, Askable root a ∧ Stays current root a) :
    artifacts.mapM (target current (.ofString root)) =
      .ok (artifacts.map (destination current root)) := by
  rw [mapM_eq_ok, List.map_map]
  exact List.map_congr_left fun a ha => target_eq_ok_iff.mpr ⟨h a ha, rfl⟩

/-- A batch in which every artifact has a target is not refused: whatever fails does so while it is
written. -/
theorem late_of_targets {t : FileTree} {e : WriteError}
    (h : ∀ a ∈ artifacts, Askable root a ∧ Stays current root a)
    (he : (writeAll t current (.ofString root) artifacts).2 = .error e) : Late e := by
  rw [writeAll_of_targets (mapM_target h)] at he
  cases houtcome : (writeEach t ((artifacts.map (destination current root)).zip
      (artifacts.map (·.content)))).2 with
  | ok u =>
      rw [houtcome] at he
      exact absurd he (by simp [Except.map])
  | error e' =>
      rw [houtcome] at he
      exact Except.error.inj he ▸ late_of_writeEach houtcome

/-- A batch fails before anything is written, and leaves the tree as it is, if and only if an
artifact has no target. -/
theorem writeAll_early_iff (t : FileTree) :
    (∃ e, writeAll t current (.ofString root) artifacts = (t, .error e) ∧ Early e) ↔
      ∃ a ∈ artifacts, ¬ (Askable root a ∧ Stays current root a) := by
  constructor
  · rintro ⟨e, hrefused, hearly⟩
    by_contra hall
    have htargets : ∀ a ∈ artifacts, Askable root a ∧ Stays current root a := fun a ha =>
      not_not.mp fun hout => hall ⟨a, ha, hout⟩
    exact hearly.not_late (late_of_targets htargets (congrArg Prod.snd hrefused))
  · intro h
    obtain ⟨a, -, e, he, hrefused⟩ := writeAll_of_no_target t h
    exact ⟨e, hrefused, early_of_target he⟩

/-- Artifacts that have targets, and whose paths lead to places apart in an empty directory, are
written cleanly. -/
theorem writtenCleanly_of_destinations {t : FileTree} (hroot : EmptyRoot t (follow current root))
    (hpassable : IsPassable root)
    (htargeted : ∀ a ∈ artifacts, IsPassable a.path ∧ Stays current root a ∧
      destination current root a ≠ follow current root ∧ IsPlace (destination current root a))
    (hapart : (artifacts.map (destination current root)).Pairwise Apart) :
    WrittenCleanly t current (.ofString root) artifacts := by
  have htargets := mapM_target fun a ha =>
    ⟨⟨hpassable, (htargeted a ha).1⟩, (htargeted a ha).2.1⟩
  rw [← resolve_ofString] at hroot
  refine writtenCleanly hroot htargets (fun place hplace => ?_) hapart
  obtain ⟨a, ha, rfl⟩ := List.mem_map.mp hplace
  rw [resolve_ofString]
  exact (htargeted a ha).2.2

end

/-! ### Files outside of the project -/

theorem not_mem_target {current place : Place} (hcurrent : ".." ∉ current) {root : Path}
    {a : Artifact} (h : target current root a = .ok place) : ".." ∉ place := by
  rw [eq_resolve_of_target h, Path.resolve]
  split
  · exact Path.not_mem_normalize List.not_mem_nil _
  · exact Path.not_mem_normalize (by simpa using hcurrent) _

theorem led_eq_of_target {current place : Place} (hcurrent : ".." ∉ current) {root : Path}
    {a : Artifact} (h : target current root a = .ok place) : led place = place :=
  Path.normalize_of_not_mem [] place (not_mem_target hcurrent h)

/-- A file that is not in the project is as it was, whatever the batch is and however it ends. -/
theorem content?_writeAll_of_outside {current : Place} (hcurrent : ".." ∉ current) (t : FileTree)
    (root : Path) (artifacts : List Artifact) {q : Place} (hq : ¬ root.resolve current <+: q) :
    (writeAll t current root artifacts).1.content? q = t.content? q := by
  by_contra hchanged
  obtain ⟨⟨a, -, place, htarget, hplace⟩, -⟩ := writeAll_changed hchanged
  rw [hplace, led_eq_of_target hcurrent htarget] at hq
  exact hq (isPrefix_of_target htarget)

/-- An artifact has a target if and only if the file system can be asked about it and its path leads
to a place in the project; the target is that place, and a path that leads out is refused as such. A
batch is refused with the tree as it was if and only if an artifact has no target; where all can be
asked about, it is refused for a path that leads out if and only if one does, and every other
failure is met while files are being written. No batch changes a file outside of the project. -/
theorem writeAll_confined {current : Place} (hcurrent : ".." ∉ current) (root : String) :
    (∀ a : Artifact,
      ((∃ place, target current (.ofString root) a = .ok place) ↔
        Askable root a ∧ Stays current root a) ∧
      (∀ place, target current (.ofString root) a = .ok place →
        place = destination current root a) ∧
      (Askable root a → ¬ Stays current root a →
        target current (.ofString root) a = .error (.escapes a.path)) ∧
      (¬ Askable root a → ∃ fault, target current (.ofString root) a = .error (.path fault))) ∧
    (∀ (t : FileTree) (artifacts : List Artifact),
      ((∃ e, writeAll t current (.ofString root) artifacts = (t, .error e) ∧ Early e) ↔
        ∃ a ∈ artifacts, ¬ (Askable root a ∧ Stays current root a)) ∧
      ((∀ a ∈ artifacts, Askable root a) →
        ((∃ path, writeAll t current (.ofString root) artifacts = (t, .error (.escapes path))) ↔
          ∃ a ∈ artifacts, ¬ Stays current root a) ∧
        ∀ e, (writeAll t current (.ofString root) artifacts).2 = .error e →
          Late e ∨ ∃ a ∈ artifacts, ¬ Stays current root a ∧ e = .escapes a.path)) ∧
    ∀ (t : FileTree) (artifacts : List Artifact) (q : Place), ¬ Path.follow current root <+: q →
      (writeAll t current (.ofString root) artifacts).1.content? q = t.content? q := by
  refine ⟨fun a => ⟨exists_target_iff, fun place h => (target_eq_ok_iff.mp h).2,
    target_of_not_stays, target_of_not_askable current⟩,
    fun t artifacts => ⟨writeAll_early_iff t, fun haskable => ⟨⟨?_, ?_⟩, ?_⟩⟩,
    fun t artifacts q hq => ?_⟩
  · rintro ⟨path, hrefused⟩
    obtain ⟨a, ha, hout⟩ := (writeAll_early_iff t).mp ⟨_, hrefused, .inr ⟨path, rfl⟩⟩
    exact ⟨a, ha, fun hstays => hout ⟨haskable a ha, hstays⟩⟩
  · rintro ⟨a, ha, hout⟩
    obtain ⟨b, hb, e, he, hrefused⟩ :=
      writeAll_of_no_target t ⟨a, ha, fun h => hout h.2⟩
    rw [target_eq_ite (haskable b hb)] at he
    split at he
    · exact absurd he (by simp)
    · exact ⟨b.path, Except.error.inj he ▸ hrefused⟩
  · intro e he
    by_cases hout : ∃ a ∈ artifacts, ¬ (Askable root a ∧ Stays current root a)
    · obtain ⟨a, ha, e', he', hrefused⟩ := writeAll_of_no_target t hout
      rw [hrefused] at he
      obtain rfl := Except.error.inj he
      rw [target_eq_ite (haskable a ha)] at he'
      split at he'
      case isTrue => exact absurd he' (by simp)
      case isFalse hnot => exact .inr ⟨a, ha, hnot, (Except.error.inj he').symm⟩
    · exact .inl (late_of_targets (fun a ha => not_not.mp fun hnot => hout ⟨a, ha, hnot⟩) he)
  · exact content?_writeAll_of_outside hcurrent t (.ofString root) artifacts
      (by rwa [Path.resolve_ofString])

/-- A project that is named by a way up and down, with a path that stays by a way out and back in,
and one that leads out behind it. -/
theorem writeAll_confined_office :
    ".." ∉ ["home", "work"] ∧
    target ["home", "work"] (.ofString "./x/..//out/") ⟨"src/../../out//main.ts", "m"⟩ =
      .ok ["home", "work", "out", "main.ts"] ∧
    (∃ path, writeAll {} ["home", "work"] (.ofString "./x/..//out/")
      [⟨"src/../../out//main.ts", "m"⟩, ⟨"src/../../main.ts", "n"⟩] =
        ({}, .error (.escapes path))) ∧
    (writeAll {} ["home", "work"] (.ofString "./x/..//out/")
      [⟨"src/../../out//main.ts", "m"⟩]).1.content? ["home", "main.ts"] = none := by
  have hcurrent : ".." ∉ ["home", "work"] := by decide
  obtain ⟨htarget, hbatch, hfiles⟩ := writeAll_confined hcurrent "./x/..//out/"
  refine ⟨hcurrent, ?_, ?_, ?_⟩
  · obtain ⟨⟨-, hfound⟩, hplace, -⟩ := htarget ⟨"src/../../out//main.ts", "m"⟩
    obtain ⟨place, h⟩ := hfound (by decide)
    rw [h, hplace place h]
    decide
  · have haskable : ∀ a ∈ [(⟨"src/../../out//main.ts", "m"⟩ : Artifact),
        ⟨"src/../../main.ts", "n"⟩], Askable "./x/..//out/" a := by decide
    exact ((hbatch {} _).2 haskable).1.mpr
      ⟨_, List.mem_cons_of_mem _ List.mem_cons_self, by decide⟩
  · exact hfiles {} _ ["home", "main.ts"] (by decide)

/-- There is no target for a path with half of a surrogate pair, though it leads to a place in the
project. A batch whose paths all stay leaves a tree as it was and fails for a text with such a half,
if the file of that text is there already and empty. -/
theorem target_of_half :
    let path := "a".push (Text.charOfCode 0xd800)
    let text := String.ofList [Text.charOfCode 0xd800]
    let t : FileTree := { entries := [(["out"], .directory), (["out", "a"], .file [])] }
    ('\x00' ∉ path.toList ∧ Stays [] "out" ⟨path, "x"⟩ ∧
      target [] (.ofString "out") ⟨path, "x"⟩ = .error (.path (.encoding ⟨0xd800, 5, 1⟩))) ∧
    Stays [] "out" ⟨"a", text⟩ ∧
      writeAll t [] (.ofString "out") [⟨"a", text⟩] = (t, .error (.encoding ⟨0xd800, 0, 1⟩)) := by
  decide +kernel

/-! ### What a writer changes -/

theorem writeFile_changedWithin (t : FileTree) {place : Place} (hplace : ".." ∉ place)
    (content : String) :
    ChangedWithin (· = place) (· <+: place) t (writeFile t place content).1 := by
  have hled : led place = place := Path.normalize_of_not_mem [] place hplace
  have hmade : ChangedWithin (· = place) (· <+: place) t
      (t.ensureDirectories [] (pathTo place).parent).1 :=
    (ensureDirectories_changedWithin t [] (pathTo place).parent).mono (fun _ => False.elim)
      fun _ hq => .inr (isPrefix_of_onWay_pathTo hplace hq.of_parent)
  rw [writeFile]
  split
  case h_1 hfailed =>
    rw [hfailed] at hmade
    exact hmade
  case h_2 hok =>
    rw [hok] at hmade
    simp only
    split
    case h_1 hwritten =>
      have hfile : ChangedWithin (· = led place) Nowhere _ _ := write_changedWithin hwritten
      rw [hled] at hfile
      exact hmade.trans (hfile.mono (fun _ => id) fun _ => False.elim)
    case h_2 => exact hmade

/-- Files are written in a directory that all of them lie in, and the directories above it may be
new. -/
theorem writeEach_changedWithin (t : FileTree) {files : List (Place × String)} {root : Place}
    (hfiles : ∀ f ∈ files, root <+: f.1 ∧ ".." ∉ f.1) :
    ChangedWithin (root <+: ·) (· <+: root) t (writeEach t files).1 := by
  induction files generalizing t with
  | nil => exact .refl _ _ t
  | cons f files ih =>
      obtain ⟨hroot, hdown⟩ := hfiles f List.mem_cons_self
      have hrest := fun t => ih t fun g hg => hfiles g (List.mem_cons_of_mem f hg)
      -- what is above a file of the directory is above or in the directory
      have hfirst : ChangedWithin (root <+: ·) (· <+: root) t (writeFile t f.1 f.2).1 :=
        (writeFile_changedWithin t hdown f.2).mono (fun q hq => hq ▸ hroot) fun q hq =>
          List.prefix_or_prefix_of_prefix hroot hq
      rw [writeEach_cons]
      split
      case h_1 hwritten =>
        rw [hwritten] at hfirst
        exact hfirst.trans (hrest _)
      case h_2 hfailed =>
        rw [hfailed] at hfirst
        exact hfirst.trans (hrest _)

/-- A writer changes its project only, but for new directories above it. -/
theorem writeAll_changedWithin {current : Place} (hcurrent : ".." ∉ current) (t : FileTree)
    (root : Path) (artifacts : List Artifact) :
    ChangedWithin (root.resolve current <+: ·) (· <+: root.resolve current) t
      (writeAll t current root artifacts).1 := by
  cases htargets : artifacts.mapM (target current root) with
  | error e =>
      have hrefused : writeAll t current root artifacts = (t, .error e) := by
        simp only [writeAll, htargets]
      rw [hrefused]
      exact .refl _ _ t
  | ok targets =>
      rw [writeAll_of_targets htargets]
      refine writeEach_changedWithin t fun f hf => ?_
      obtain ⟨a, -, htarget, -⟩ := (mem_files_iff htargets).mp hf
      exact ⟨isPrefix_of_target htarget, not_mem_target hcurrent htarget⟩

end Formwork.Writer
