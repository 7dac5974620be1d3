import Formwork.Proofs.FileTree.Contents
import Formwork.Proofs.Outcome
import Formwork.Writer

/-!
Artifacts whose targets lie apart. No target is on the way to another one, so no write can undo or
hinder another: afterwards each target is a file with the content of its artifact, the ways to the
targets are directories, and everything else is as it was. Only a text that cannot be encoded is a
failure then.
-/

namespace Formwork.Writer

open FileTree

/-- Neither of two places is on the way to the other. -/
def Apart (p q : Place) : Prop := ¬ p <+: q ∧ ¬ q <+: p

instance (p q : Place) : Decidable (Apart p q) := inferInstanceAs (Decidable (_ ∧ _))

theorem Apart.symm {p q : Place} (h : Apart p q) : Apart q p := ⟨h.2, h.1⟩

theorem Apart.append_left {p q : Place} (h : Apart p q) (root : Place) :
    Apart (root ++ p) (root ++ q) :=
  ⟨fun hway => h.1 ((List.prefix_append_right_inj root).mp hway),
    fun hway => h.2 ((List.prefix_append_right_inj root).mp hway)⟩

def octets (content : String) : Text.Octets :=
  (Text.Utf8.encodeStrict content.toList).toOption.getD []

/-- The only failure is that a text cannot be encoded. -/
def OnlyEncoding {α : Type} (outcome : Except WriteError α) : Prop :=
  ∀ e, outcome = .error e → ∃ f, e = .encoding f

theorem OnlyEncoding.map {α β : Type} {outcome : Except WriteError α} (h : OnlyEncoding outcome)
    (g : α → β) : OnlyEncoding (outcome.map g) := by
  intro e he
  cases outcome with
  | ok a => exact absurd he (by simp [Except.map])
  | error e' => exact h e (congrArg Except.error (Except.error.inj he))

/-- A place where a file can be written. -/
structure Writable (t : FileTree) (place : Place) : Prop where
  isPlace : IsPlace place
  ne_root : place ≠ []
  way : ∀ q, q <+: place → q ≠ place → Open t q
  free : t.lookup place ≠ some .directory

/-- What a tree holds once files have been written. -/
structure Written (t : FileTree) (files : List (Place × String)) (t' : FileTree) : Prop where
  file : ∀ f ∈ files, t'.lookup f.1 = some (.file (octets f.2))
  way : ∀ f ∈ files, ∀ q, q <+: f.1 → q ≠ f.1 → t'.lookup q = some .directory
  rest : ∀ q, (∀ f ∈ files, ¬ q <+: f.1) → t'.lookup q = t.lookup q

theorem writeFile_written {t : FileTree} {place : Place} (h : Writable t place)
    (content : String) :
    ∃ t' outcome, writeFile t place content = (t', outcome) ∧ OnlyEncoding outcome ∧
      Written t [(place, content)] t' := by
  have habove : ∀ q, q <+: place.dropLast → Open t q := fun q hq => by
    refine h.way q (hq.trans (List.dropLast_prefix place)) fun heq => ?_
    have hlength := hq.length_le
    rw [heq, List.length_dropLast] at hlength
    have hpos := List.length_pos_iff.mpr h.ne_root
    omega
  obtain ⟨t₁, hmade, hdirectories⟩ : ∃ t₁,
      t.ensureDirectories [] (pathTo place.dropLast) = (t₁, .ok ()) ∧
        DirectoriesTo place.dropLast t t₁ := ensureDirectories_directoriesTo
    (h.isPlace.of_isPrefix (List.dropLast_prefix place)) habove
  have hplace : ¬ place <+: place.dropLast := fun hway => by
    have hlength := hway.length_le
    rw [List.length_dropLast] at hlength
    have hpos := List.length_pos_iff.mpr h.ne_root
    omega
  have hreached : Reached t₁ place := fun q hq hne => by
    rw [hdirectories, if_pos (isPrefix_dropLast hq hne)]
  have hfree : t₁.lookup place ≠ some .directory := by
    rw [hdirectories, if_neg hplace]
    exact h.free
  have hwritten : t₁.write [] (pathTo place) (octets content) =
      .ok (t₁.put place (.file (octets content))) :=
    write_of_reached h.isPlace hreached hfree (octets content)
  have hparent : (pathTo place).parent = pathTo place.dropLast := rfl
  refine ⟨t₁.put place (.file (octets content)),
    ((Text.Utf8.encodeStrict content.toList).mapError .encoding).map fun _ => (), ?_, ?_, ?_⟩
  · rw [octets] at hwritten
    simp only [writeFile, hparent, hmade, hwritten, octets]
  · intro e he
    cases hencoded : Text.Utf8.encodeStrict content.toList with
    | ok encoded =>
        rw [hencoded] at he
        exact absurd he (by simp [Except.mapError, Except.map])
    | error f =>
        rw [hencoded] at he
        exact ⟨f, (Except.error.inj he).symm⟩
  · refine ⟨fun f hf => ?_, fun f hf q hq hne => ?_, fun q hq => ?_⟩
    · cases List.mem_singleton.mp hf
      rw [lookup_put t₁ h.ne_root, if_pos rfl]
    · cases List.mem_singleton.mp hf
      rw [lookup_put t₁ h.ne_root, if_neg hne, hreached q hq hne]
    · have hoff : ¬ q <+: place := hq (place, content) List.mem_cons_self
      have hne : q ≠ place := fun heq => hoff (heq ▸ List.prefix_rfl)
      have hoff' : ¬ q <+: place.dropLast := fun hway =>
        hoff (hway.trans (List.dropLast_prefix place))
      rw [lookup_put t₁ h.ne_root, if_neg hne, hdirectories, if_neg hoff']

theorem Writable.of_written {t t' : FileTree} {place : Place} {file : Place × String}
    (h : Writable t place) (hapart : Apart file.1 place) (hwritten : Written t [file] t') :
    Writable t' place where
  isPlace := h.isPlace
  ne_root := h.ne_root
  way q hq hne := by
    by_cases hway : q <+: file.1
    · have hfile : q ≠ file.1 := fun heq => hapart.1 (heq ▸ hq)
      exact .inr (hwritten.way file List.mem_cons_self q hway hfile)
    · rw [Open, hwritten.rest q (by simpa using hway)]
      exact h.way q hq hne
  free := by
    rw [hwritten.rest place (by simpa using hapart.2)]
    exact h.free

theorem writeEach_cons (t : FileTree) (f : Place × String) (files : List (Place × String)) :
    writeEach t (f :: files) =
      match writeFile t f.1 f.2 with
      | (t', .ok ()) => writeEach t' files
      | (t', .error e) => ((writeEach t' files).1, .error e) := rfl

theorem writeEach_written {t : FileTree} {files : List (Place × String)}
    (hwritable : ∀ f ∈ files, Writable t f.1)
    (hapart : files.Pairwise fun f g => Apart f.1 g.1) :
    ∃ t' outcome, writeEach t files = (t', outcome) ∧ OnlyEncoding outcome ∧
      Written t files t' := by
  induction files generalizing t with
  | nil =>
      exact ⟨t, .ok (), rfl, fun e he => absurd he (by simp),
        ⟨fun f hf => absurd hf List.not_mem_nil, fun f hf => absurd hf List.not_mem_nil,
          fun q _ => rfl⟩⟩
  | cons f files ih =>
      obtain ⟨hfirst, hothers⟩ := List.pairwise_cons.mp hapart
      obtain ⟨t₁, outcome₁, hwrite, honly₁, hwritten₁⟩ :=
        writeFile_written (hwritable f List.mem_cons_self) f.2
      obtain ⟨t₂, outcome₂, heach, honly₂, hwritten₂⟩ := ih
        (fun g hg => (hwritable g (List.mem_cons_of_mem f hg)).of_written (hfirst g hg) hwritten₁)
        hothers
      have hwritten : Written t (f :: files) t₂ := by
        refine ⟨fun g hg => ?_, fun g hg q hq hne => ?_, fun q hq => ?_⟩
        · rcases List.mem_cons.mp hg with rfl | hg
          · rw [hwritten₂.rest g.1 fun g' hg' => (hfirst g' hg').1]
            exact hwritten₁.file g List.mem_cons_self
          · exact hwritten₂.file g hg
        · rcases List.mem_cons.mp hg with rfl | hg
          · -- a directory on the way may be on the way to a later file as well
            by_cases hlater : ∃ g' ∈ files, q <+: g'.1
            · obtain ⟨g', hg', hway⟩ := hlater
              exact hwritten₂.way g' hg' q hway fun heq => (hfirst g' hg').2 (heq ▸ hq)
            · rw [hwritten₂.rest q fun g' hg' hway => hlater ⟨g', hg', hway⟩]
              exact hwritten₁.way (g.1, g.2) List.mem_cons_self q hq hne
          · exact hwritten₂.way g hg q hq hne
        · rw [hwritten₂.rest q fun g hg => hq g (List.mem_cons_of_mem f hg)]
          exact hwritten₁.rest q (by simpa using hq f List.mem_cons_self)
      rw [writeEach_cons, hwrite]
      -- a failure of the first file keeps none of the others from being written
      cases outcome₁ with
      | ok u => exact ⟨t₂, outcome₂, heach, honly₂, hwritten⟩
      | error e =>
          refine ⟨t₂, .error e, ?_, fun e' he' => honly₁ e' (Except.error.inj he' ▸ rfl), hwritten⟩
          simp only [heach]

/-! ### A batch of artifacts -/

/-- The files below a directory are the given ones, each with the octets of its text. -/
structure Holds (t : FileTree) (root : Place) (files : List (Place × String)) : Prop where
  places : ∀ place, root <+: place → (t.isFile place = true ↔ place ∈ files.map Prod.fst)
  content : ∀ f ∈ files, t.lookup f.1 = some (.file (octets f.2))

theorem Holds.of_perm {t : FileTree} {root : Place} {order files : List (Place × String)}
    (h : Holds t root order) (hperm : order.Perm files) : Holds t root files where
  places place hplace := by
    rw [h.places place hplace]
    exact (hperm.map Prod.fst).mem_iff
  content f hf := h.content f (hperm.mem_iff.mpr hf)

/-- The artifacts have been written: their targets are known and lie apart, the files below the
directory are those at the targets, each with the content of its artifact, and a text that cannot
be encoded is the only failure. The files may be written in any order. -/
structure WrittenCleanly (t : FileTree) (current : Place) (root : Path)
    (artifacts : List Artifact) : Prop where
  outcome : OnlyEncoding (writeAll t current root artifacts).2
  files : ∃ targets, artifacts.mapM (target current root) = .ok targets ∧
    targets.Pairwise Apart ∧
    Holds (writeAll t current root artifacts).1 (root.resolve current)
      (targets.zip (artifacts.map (·.content))) ∧
    ∀ order, order.Perm (targets.zip (artifacts.map (·.content))) →
      OnlyEncoding (writeEach t order).2 ∧
        Holds (writeEach t order).1 (root.resolve current)
          (targets.zip (artifacts.map (·.content)))

/-- A directory that is empty, or not there yet. -/
structure EmptyRoot (t : FileTree) (root : Place) : Prop where
  isPlace : IsPlace root
  way : ∀ q, q <+: root → Open t q
  empty : ∀ q, root <+: q → q ≠ root → t.lookup q = none

theorem EmptyRoot.of_empty {root : Place} (h : IsPlace root) : EmptyRoot {} root where
  isPlace := h
  way q _ := by
    cases q with
    | nil => exact .inr rfl
    | cons n q => exact .inl rfl
  empty q hbelow hne := by
    cases q with
    | nil => exact absurd (List.prefix_nil.mp hbelow).symm hne
    | cons n q => rfl

theorem EmptyRoot.writable {t : FileTree} {root place : Place} (h : EmptyRoot t root)
    (hbelow : root <+: place) (hne : place ≠ root) (hplace : IsPlace place) :
    Writable t place where
  isPlace := hplace
  ne_root hempty := hne (hempty.trans (List.prefix_nil.mp (hempty ▸ hbelow)).symm)
  way q hq _ := by
    rcases List.prefix_or_prefix_of_prefix hq hbelow with hway | hinside
    · exact h.way q hway
    · by_cases heq : q = root
      · exact h.way q (heq ▸ List.prefix_rfl)
      · exact .inl (h.empty q hinside heq)
  free := by
    rw [h.empty place hbelow hne]
    simp

theorem isFile_of_lookup {t : FileTree} {place : Place} {content : Text.Octets}
    (h : t.lookup place = some (.file content)) : t.isFile place = true := by
  rw [isFile, h]

theorem Open.not_isFile {t : FileTree} {place : Place} (h : Open t place) :
    t.isFile place = false := by
  rcases h with h | h <;> rw [isFile, h]

theorem EmptyRoot.holds {t t' : FileTree} {root : Place} {files : List (Place × String)}
    (hroot : EmptyRoot t root) (h : Written t files t') : Holds t' root files where
  content := h.file
  places place hplace := by
    refine ⟨fun hfile => ?_, fun hmem => ?_⟩
    · by_contra hnot
      have hoff : ∀ f ∈ files, place ≠ f.1 := fun f hf heq =>
        hnot (heq ▸ List.mem_map_of_mem hf)
      -- what is no target is a directory on the way to one, or was not there before either
      by_cases hway : ∃ f ∈ files, place <+: f.1
      · obtain ⟨f, hf, hway⟩ := hway
        have hdirectory := h.way f hf place hway (hoff f hf)
        rw [Open.not_isFile (.inr hdirectory)] at hfile
        exact absurd hfile (by decide)
      · have hsame := h.rest place fun f hf hon => hway ⟨f, hf, hon⟩
        have hopen : Open t place := by
          by_cases heq : place = root
          · exact hroot.way place (heq ▸ List.prefix_rfl)
          · exact .inl (hroot.empty place hplace heq)
        rw [Open, ← hsame] at hopen
        rw [Open.not_isFile hopen] at hfile
        exact absurd hfile (by decide)
    · obtain ⟨f, hf, rfl⟩ := List.mem_map.mp hmem
      exact isFile_of_lookup (h.file f hf)

/-- Files that lie apart below an empty directory are all that it holds when they are written, in
whatever order that is. -/
theorem writeEach_holds {t : FileTree} {root : Place} {files order : List (Place × String)}
    (hroot : EmptyRoot t root)
    (hbelow : ∀ f ∈ files, root <+: f.1 ∧ f.1 ≠ root ∧ IsPlace f.1)
    (hapart : files.Pairwise fun f g => Apart f.1 g.1) (hperm : order.Perm files) :
    OnlyEncoding (writeEach t order).2 ∧ Holds (writeEach t order).1 root files := by
  have hwritable : ∀ f ∈ order, Writable t f.1 := fun f hf => by
    obtain ⟨hinside, hne, hplace⟩ := hbelow f (hperm.mem_iff.mp hf)
    exact hroot.writable hinside hne hplace
  obtain ⟨t', outcome, heach, honly, hwritten⟩ :=
    writeEach_written hwritable (hperm.symm.pairwise hapart Apart.symm)
  rw [heach]
  exact ⟨honly, (hroot.holds hwritten).of_perm hperm⟩

theorem map_fst_files {current : Place} {root : Path} {artifacts : List Artifact}
    {targets : List Place} (h : artifacts.mapM (target current root) = .ok targets) :
    (targets.zip (artifacts.map (·.content))).map Prod.fst = targets := by
  have hlength := congrArg List.length (mapM_eq_ok.mp h)
  rw [List.length_map, List.length_map] at hlength
  exact List.map_fst_zip (by rw [List.length_map, hlength])

theorem isPrefix_of_target {current : Place} {root : Path} {a : Artifact} {place : Place}
    (h : target current root a = .ok place) : root.resolve current <+: place := by
  rw [target] at h
  simp only at h
  split at h
  · exact absurd h (by simp)
  · split at h
    · cases Except.ok.inj h
      exact List.isPrefixOf_iff_prefix.mp ‹_›
    · exact absurd h (by simp)

theorem eq_resolve_of_target {current place : Place} {root : Path} {a : Artifact}
    (h : target current root a = .ok place) :
    place = (root.join (Path.ofString a.path)).resolve current := by
  rw [target] at h
  simp only at h
  split at h
  · exact absurd h (by simp)
  · split at h
    · exact (Except.ok.inj h).symm
    · exact absurd h (by simp)

theorem writeAll_of_targets {t : FileTree} {current : Place} {root : Path}
    {artifacts : List Artifact} {targets : List Place}
    (h : artifacts.mapM (target current root) = .ok targets) :
    writeAll t current root artifacts =
      ((writeEach t (targets.zip (artifacts.map (·.content)))).1,
        (writeEach t (targets.zip (artifacts.map (·.content)))).2.map fun _ => targets) := by
  simp only [writeAll, h]
  split
  case h_1 heach => rw [heach]; rfl
  case h_2 heach => rw [heach]; rfl

theorem writtenCleanly {t : FileTree} {current : Place} {root : Path}
    {artifacts : List Artifact} {targets : List Place}
    (hroot : EmptyRoot t (root.resolve current))
    (htargets : artifacts.mapM (target current root) = .ok targets)
    (htargeted : ∀ p ∈ targets, p ≠ root.resolve current ∧ IsPlace p)
    (hapart : targets.Pairwise Apart) : WrittenCleanly t current root artifacts := by
  let files := targets.zip (artifacts.map (·.content))
  have hplaces : files.map Prod.fst = targets := map_fst_files htargets
  have hbelow : ∀ f ∈ files, root.resolve current <+: f.1 ∧ f.1 ≠ root.resolve current ∧
      IsPlace f.1 := fun f hf => by
    have hmem : f.1 ∈ targets := hplaces ▸ List.mem_map_of_mem hf
    have hok : .ok f.1 ∈ artifacts.map (target current root) :=
      mapM_eq_ok.mp htargets ▸ List.mem_map_of_mem hmem
    obtain ⟨a, -, ha⟩ := List.mem_map.mp hok
    exact ⟨isPrefix_of_target ha, htargeted f.1 hmem⟩
  have hfiles : files.Pairwise fun f g => Apart f.1 g.1 :=
    List.pairwise_map.mp (hplaces.symm ▸ hapart)
  obtain ⟨honly, hholds⟩ := writeEach_holds hroot hbelow hfiles (.refl files)
  refine ⟨?_, targets, htargets, hapart, ?_, fun order => writeEach_holds hroot hbelow hfiles⟩
  · rw [writeAll_of_targets htargets]
    exact honly.map fun _ => targets
  · rw [writeAll_of_targets htargets]
    exact hholds

/-! ### A batch that is refused -/

theorem exists_error_of_mapM {α β ε : Type} {f : α → Except ε β} {as : List α} {a : α} {e : ε}
    (ha : a ∈ as) (he : f a = .error e) :
    ∃ a' ∈ as, ∃ e', f a' = .error e' ∧ as.mapM f = .error e' := by
  induction as with
  | nil => exact absurd ha List.not_mem_nil
  | cons b as ih =>
      rw [List.mapM_cons]
      cases hb : f b with
      | error e' => exact ⟨b, List.mem_cons_self, e', hb, rfl⟩
      | ok c =>
          have hmem : a ∈ as := (List.mem_cons.mp ha).resolve_left fun heq => by
            rw [heq, hb] at he
            exact absurd he (by simp)
          obtain ⟨a', ha', e', he', hmap⟩ := ih hmem
          rw [hmap]
          exact ⟨a', List.mem_cons_of_mem b ha', e', he', rfl⟩

/-- A target is refused before anything is written: there is no asking about its path, or it is
not in the directory. -/
def Early (e : WriteError) : Prop := (∃ fault, e = .path fault) ∨ ∃ path, e = .escapes path

theorem early_of_target {current : Place} {root : Path} {a : Artifact} {e : WriteError}
    (h : target current root a = .error e) : Early e := by
  rw [target] at h
  simp only at h
  split at h
  case h_1 fault _ => exact .inl ⟨fault, (Except.error.inj h).symm⟩
  case h_2 =>
    split at h
    · exact absurd h (by simp)
    · exact .inr ⟨a.path, (Except.error.inj h).symm⟩

end Formwork.Writer
