import Formwork.Proofs.FileTree.Territory
import Formwork.Proofs.Writer.Separate

/-!
What writing cannot have changed, and what it has. Making directories leaves every file as it is,
whether it comes to an end or not, and a path leads to no place but the one that it resolves to. So
a writer changes the files that the targets of its artifacts lead to, and no others, on whatever
tree it starts and wherever it fails; and where a target is refused it changes none. Where it does
not fail, each of these files holds what was written last.
-/

namespace Formwork.FileTree

def content? (t : FileTree) (place : Place) : Option Text.Octets :=
  match t.lookup place with
  | some (.file content) => some content
  | _ => none

def SameFiles (t t' : FileTree) : Prop := ∀ q, t'.content? q = t.content? q

theorem SameFiles.refl (t : FileTree) : SameFiles t t := fun _ => rfl

theorem SameFiles.trans {t t' t'' : FileTree} (h : SameFiles t t') (h' : SameFiles t' t'') :
    SameFiles t t'' :=
  fun q => (h' q).trans (h q)

theorem content?_congr {t t' : FileTree} {q : Place} (h : t'.lookup q = t.lookup q) :
    t'.content? q = t.content? q := by
  rw [content?, content?, h]

/-- Outside of the places that a change is about every file is as it was, since a new directory
takes the place of no file. -/
theorem ChangedWithin.content? {inside way : Place → Prop} {t t' : FileTree} {q : Place}
    (h : ChangedWithin inside way t t') (hq : ¬ inside q) : t'.content? q = t.content? q := by
  rcases h q with hsame | hinside | ⟨-, hnone, hmade⟩
  · exact content?_congr hsame
  · exact absurd hinside hq
  · rw [FileTree.content?, FileTree.content?, hnone, hmade]

/-- Making directories leaves every file as it is, even where it fails. -/
theorem ensureDirectories_sameFiles (t : FileTree) (current : Place) (p : Path) :
    SameFiles t (t.ensureDirectories current p).1 :=
  fun _ => (ensureDirectories_changedWithin t current p).content? id

theorem content?_write {t t' : FileTree} {current : Place} {p : Path} {content : Text.Octets}
    (h : t.write current p content = .ok t') {q : Place} (hq : q ≠ p.resolve current) :
    t'.content? q = t.content? q :=
  (write_changedWithin h).content? hq

theorem content?_write_self {t t' : FileTree} {current : Place} {p : Path}
    {content : Text.Octets} (h : t.write current p content = .ok t') :
    t'.content? (p.resolve current) = some content := by
  rw [write] at h
  cases hlocate : t.locate current p with
  | error fault => simp [hlocate, bind, Except.bind] at h
  | ok place =>
      simp only [hlocate, bind, Except.bind] at h
      rw [← eq_resolve_of_locate hlocate]
      split at h
      · exact absurd h (by simp)
      · next hfree =>
        have hne : place ≠ [] := by
          rintro rfl
          exact hfree rfl
        rw [← Except.ok.inj h, content?, lookup_put t hne, if_pos rfl]

end Formwork.FileTree

namespace Formwork.Writer

open FileTree

def led (target : Place) : Place := (pathTo target).resolve []

/-- A file is written at its place only, whether that succeeds or not. -/
theorem content?_writeFile (t : FileTree) {place q : Place} (hq : q ≠ led place)
    (content : String) : (writeFile t place content).1.content? q = t.content? q := by
  have hmade := ensureDirectories_sameFiles t [] (pathTo place).parent
  rw [writeFile]
  split
  case h_1 hfailed => exact (hfailed ▸ hmade) q
  case h_2 hok =>
    rw [hok] at hmade
    simp only
    split
    case h_1 hwritten => exact (content?_write hwritten hq).trans (hmade q)
    case h_2 => exact hmade q

/-- Files are written at their places only, however many of them fail. -/
theorem content?_writeEach (t : FileTree) {files : List (Place × String)} {q : Place}
    (hq : ∀ f ∈ files, q ≠ led f.1) : (writeEach t files).1.content? q = t.content? q := by
  induction files generalizing t with
  | nil => rfl
  | cons f files ih =>
      obtain ⟨place, content⟩ := f
      have hfirst := content?_writeFile t (hq (place, content) List.mem_cons_self) content
      have hrest := fun t => ih t fun g hg => hq g (List.mem_cons_of_mem _ hg)
      rw [writeEach]
      split
      case h_1 hwritten =>
        rw [hwritten] at hfirst
        exact (hrest _).trans hfirst
      case h_2 hfailed =>
        rw [hfailed] at hfirst
        exact (hrest _).trans hfirst

def Late : WriteError → Prop
  | .file _ | .encoding _ => True
  | .escapes _ | .path _ => False

theorem late_of_writeFile {t : FileTree} {place : Place} {content : String} {e : WriteError}
    (h : (writeFile t place content).2 = .error e) : Late e := by
  rw [writeFile] at h
  split at h
  case h_1 => exact Except.error.inj h ▸ trivial
  case h_2 =>
    simp only at h
    split at h
    case h_1 =>
      cases hencoded : Text.Utf8.encodeStrict content.toList with
      | ok octets =>
          rw [hencoded] at h
          exact absurd h (by simp [Except.mapError, Except.map])
      | error f =>
          rw [hencoded] at h
          exact Except.error.inj h ▸ trivial
    case h_2 => exact Except.error.inj h ▸ trivial

theorem late_of_writeEach {t : FileTree} {files : List (Place × String)} {e : WriteError}
    (h : (writeEach t files).2 = .error e) : Late e := by
  induction files generalizing t with
  | nil => exact absurd h (by simp [writeEach])
  | cons f files ih =>
      obtain ⟨place, content⟩ := f
      rw [writeEach] at h
      split at h
      case h_1 => exact ih h
      case h_2 hfailed =>
        rw [← Except.error.inj h]
        exact late_of_writeFile (congrArg Prod.snd hfailed)

theorem mem_files_iff {current : Place} {root : Path} {artifacts : List Artifact}
    {targets : List Place} (h : artifacts.mapM (target current root) = .ok targets)
    {f : Place × String} :
    f ∈ targets.zip (artifacts.map (·.content)) ↔
      ∃ a ∈ artifacts, target current root a = .ok f.1 ∧ a.content = f.2 := by
  have hok := mapM_eq_ok.mp h
  induction artifacts generalizing targets with
  | nil => simp
  | cons a artifacts ih =>
      cases targets with
      | nil => exact absurd hok (by simp)
      | cons place targets =>
          obtain ⟨ha, hrest⟩ := List.cons.inj hok
          have htail := ih (mapM_eq_ok.mpr hrest) hrest
          rw [List.map_cons, List.zip_cons_cons, List.mem_cons, List.exists_mem_cons_iff, ha]
          refine or_congr ⟨fun heq => heq ▸ ⟨rfl, rfl⟩, fun ⟨hplace, hcontent⟩ => ?_⟩ htail
          exact Prod.ext (Except.ok.inj hplace).symm hcontent.symm

/-- A writer changes no file but those of its artifacts, and where it changes one and fails, it has
failed late. -/
theorem writeAll_changed {t : FileTree} {current : Place} {root : Path}
    {artifacts : List Artifact} {q : Place}
    (h : (writeAll t current root artifacts).1.content? q ≠ t.content? q) :
    (∃ a ∈ artifacts, ∃ place, target current root a = .ok place ∧ q = led place) ∧
      ∀ e, (writeAll t current root artifacts).2 = .error e → Late e := by
  cases htargets : artifacts.mapM (target current root) with
  | error e =>
      -- where a target is refused, nothing is written
      have hwrite : writeAll t current root artifacts = (t, .error e) := by
        simp only [writeAll, htargets]
      rw [hwrite] at h
      exact absurd rfl h
  | ok targets =>
      rw [writeAll_of_targets htargets] at h ⊢
      refine ⟨?_, fun e he => ?_⟩
      · by_contra hnone
        refine h (content?_writeEach t fun f hf hq => hnone ?_)
        obtain ⟨a, ha, hplace, -⟩ := (mem_files_iff htargets).mp hf
        exact ⟨a, ha, f.1, hplace, hq⟩
      · cases houtcome : (writeEach t (targets.zip (artifacts.map (·.content)))).2 with
        | ok u =>
            rw [houtcome] at he
            exact absurd he (by simp [Except.map])
        | error e' =>
            rw [houtcome] at he
            exact Except.error.inj he ▸ late_of_writeEach houtcome

example :
    let t : FileTree := { entries := [(["p"], .directory), (["p", "b"], .directory)] }
    let written := writeAll t [] { parts := ["p"] } [⟨"a", "x"⟩, ⟨"b", "y"⟩]
    written.2 = .error (.file ⟨.isDirectory, "/p/b"⟩) ∧ t.content? ["p", "a"] = none ∧
      written.1.content? ["p", "a"] = some [120] := by
  decide

/-! ### What has been written -/

theorem content?_writeFile_ok {t t' : FileTree} {place : Place} {content : String}
    (h : writeFile t place content = (t', .ok ())) :
    t'.content? (led place) = some (octets content) := by
  rw [writeFile] at h
  split at h
  case h_1 => exact absurd (congrArg Prod.snd h) (by simp)
  case h_2 hmade =>
    simp only at h
    split at h
    case h_1 hwritten =>
      obtain rfl : _ = t' := congrArg Prod.fst h
      exact content?_write_self hwritten
    case h_2 => exact absurd (congrArg Prod.snd h) (by simp)

/-- Each of several files holds its text afterwards, or that of another one at the same place. -/
theorem content?_writeEach_ok {t t' : FileTree} {files : List (Place × String)}
    (h : writeEach t files = (t', .ok ())) :
    ∀ f ∈ files, ∃ g ∈ files, led g.1 = led f.1 ∧
      t'.content? (led f.1) = some (octets g.2) := by
  induction files generalizing t with
  | nil => exact fun f hf => absurd hf List.not_mem_nil
  | cons first files ih =>
      rw [writeEach_cons] at h
      cases hfirst : writeFile t first.1 first.2 with
      | mk t₁ outcome =>
          rw [hfirst] at h
          cases outcome with
          | error e => exact absurd (congrArg Prod.snd h) (by simp)
          | ok u =>
              have hrest := ih h
              intro f hf
              -- what counts is the last file at the place
              by_cases hlater : ∃ g ∈ files, led g.1 = led f.1
              · obtain ⟨g, hg, hplace⟩ := hlater
                obtain ⟨g', hg', hplace', hcontent⟩ := hrest g hg
                rw [hplace] at hplace' hcontent
                exact ⟨g', List.mem_cons_of_mem first hg', hplace', hcontent⟩
              · have hf : f = first := (List.mem_cons.mp hf).resolve_right fun hmem =>
                  hlater ⟨f, hmem, rfl⟩
                have hkept : (writeEach t₁ files).1.content? (led f.1) = t₁.content? (led f.1) :=
                  content?_writeEach t₁ fun g hg heq => hlater ⟨g, hg, heq.symm⟩
                refine ⟨first, List.mem_cons_self, by rw [hf], ?_⟩
                rw [congrArg Prod.fst h] at hkept
                rw [hkept, hf]
                exact content?_writeFile_ok hfirst

/-- Where artifacts have been written, every one of them has a file, which holds its content or that
of another artifact at the same place. -/
theorem writeAll_ok {t t' : FileTree} {current : Place} {root : Path} {artifacts : List Artifact}
    {places : List Place} (h : writeAll t current root artifacts = (t', .ok places)) :
    ∀ a ∈ artifacts, ∃ place, target current root a = .ok place ∧
      ∃ b ∈ artifacts, ∃ place', target current root b = .ok place' ∧ led place' = led place ∧
        t'.content? (led place) = some (octets b.content) := by
  cases htargets : artifacts.mapM (target current root) with
  | error e =>
      have hrefused : writeAll t current root artifacts = (t, .error e) := by
        simp only [writeAll, htargets]
      rw [hrefused] at h
      exact absurd (congrArg Prod.snd h) (by simp)
  | ok targets =>
      let files := targets.zip (artifacts.map (·.content))
      rw [writeAll_of_targets htargets] at h
      have htree : (writeEach t files).1 = t' := congrArg Prod.fst h
      have houtcome : (writeEach t files).2.map (fun _ => targets) = .ok places :=
        congrArg Prod.snd h
      have heach : writeEach t files = (t', .ok ()) := by
        cases hfiles : (writeEach t files).2 with
        | ok u => exact Prod.ext htree hfiles
        | error e =>
            rw [hfiles] at houtcome
            exact absurd houtcome (by simp [Except.map])
      intro a ha
      have hok : target current root a ∈ targets.map .ok :=
        mapM_eq_ok.mp htargets ▸ List.mem_map_of_mem ha
      obtain ⟨place, -, hplace⟩ := List.mem_map.mp hok
      have hfile : (place, a.content) ∈ files :=
        (mem_files_iff htargets).mpr ⟨a, ha, hplace.symm, rfl⟩
      obtain ⟨g, hg, hsame, hcontent⟩ := content?_writeEach_ok heach _ hfile
      obtain ⟨b, hb, hplace', htext⟩ := (mem_files_iff htargets).mp hg
      exact ⟨place, hplace.symm, b, hb, g.1, hplace', hsame, htext ▸ hcontent⟩

end Formwork.Writer
