import Formwork.Proofs.FileTree.Texts
import Formwork.Proofs.Writer.Confined

/-!
Artifacts are written at the same time, so that the files may come into being in any order. Where
the targets lie apart and nothing is in their way, the order does not matter: what is at a place
afterwards is settled by the artifacts alone. Writing the batch once more changes nothing then. A
text that cannot be encoded is the only failure, and it keeps none of the other files from being
written.
-/

namespace Formwork.FileTree

/-- At every place is what was there. -/
def Same (t t' : FileTree) : Prop := ∀ q, t'.lookup q = t.lookup q

theorem lookup_of_isDirectory_eq_false {t : FileTree} {place : Place}
    (h : t.isDirectory place = false) : t.lookup place ≠ some .directory := fun hlookup => by
  rw [isDirectory, hlookup] at h
  exact absurd h (by decide)

theorem open_of_isFile_eq_false {t : FileTree} {place : Place} (h : t.isFile place = false) :
    Open t place := by
  cases hlookup : t.lookup place with
  | none => exact .inl hlookup
  | some entry =>
      cases entry with
      | directory => exact .inr hlookup
      | file content =>
          rw [isFile, hlookup] at h
          exact absurd h (by simp)

theorem isFile_empty (place : Place) : ({} : FileTree).isFile place = false := by
  cases place <;> rfl

theorem walk_of_long {t : FileTree} {start : Place} {names : List String} {name : String}
    (hmem : name ∈ names) (hup : name ≠ "..") (hlong : longestName < nameSize name) :
    ∃ fault, t.walk start names = .error fault := by
  induction names generalizing start with
  | nil => exact absurd hmem List.not_mem_nil
  | cons part names ih =>
      rw [walk]
      split
      case h_1 => exact ⟨_, rfl⟩
      case h_2 => exact ⟨_, rfl⟩
      case h_3 =>
        rcases List.mem_cons.mp hmem with rfl | hlater
        · rw [if_neg hup, if_pos hlong]
          exact ⟨_, rfl⟩
        · split
          · exact ih hlater
          · split
            · exact ⟨_, rfl⟩
            · exact ih hlater

theorem write_of_long {t : FileTree} {current : Place} {p : Path}
    (hlong : longestPath < p.size ∨ ∃ name ∈ p.parts, name ≠ ".." ∧ longestName < nameSize name)
    (content : Text.Octets) : ∃ fault, t.write current p content = .error fault := by
  have hlocate : ∃ fault, t.locate current p = .error fault := by
    rw [locate]
    split
    case h_1 => exact ⟨_, rfl⟩
    case h_2 =>
      split
      case isTrue => exact ⟨_, rfl⟩
      case isFalse hshort =>
        obtain ⟨name, hmem, hup, hlong⟩ := hlong.resolve_left hshort
        exact walk_of_long hmem hup hlong
  obtain ⟨fault, hfault⟩ := hlocate
  exact ⟨fault, by rw [write, hfault]; rfl⟩

end Formwork.FileTree

namespace Formwork.Writer

open FileTree Formwork.Path

/-! ### Texts that cannot be encoded -/

/-- The octets are a text, and are read back as it; of a text that holds halves of surrogate pairs
there are none. -/
def Encodes (content : Text.Octets) (text : String) : Prop :=
  if Text.holdsHalf text then content = []
  else content = Text.Utf8.encode text.toList ∧ Text.Utf8.decode content = .ok text.toList

theorem encodes_octets (text : String) : Encodes (octets text) text := by
  rw [Encodes, octets]
  split
  case isTrue h =>
    obtain ⟨f, hf⟩ := Text.Utf8.encodeStrict_of_holdsHalf h
    rw [hf]
    rfl
  case isFalse h =>
    rw [Text.Utf8.encodeStrict_of_not_holdsHalf (Bool.eq_false_iff.mpr h)]
    exact ⟨rfl, Text.Utf8.decode_encode text.toList⟩

/-- A file is written only if its text can be encoded, and only then is there no fault to find with
the text. -/
theorem holdsHalf_of_writeFile (t : FileTree) (place : Place) (content : String) :
    ((writeFile t place content).2 = .ok () → Text.holdsHalf content = false) ∧
      ∀ f, (writeFile t place content).2 = .error (.encoding f) →
        Text.holdsHalf content = true := by
  rw [writeFile]
  split
  case h_1 => exact ⟨fun h => absurd h (by simp), fun f h => absurd h (by simp)⟩
  case h_2 =>
    simp only
    split
    case h_2 => exact ⟨fun h => absurd h (by simp), fun f h => absurd h (by simp)⟩
    case h_1 =>
      cases hhalf : Text.holdsHalf content with
      | false =>
          rw [Text.Utf8.encodeStrict_of_not_holdsHalf hhalf]
          exact ⟨fun _ => rfl, fun f h => absurd h (by simp [Except.mapError, Except.map])⟩
      | true =>
          obtain ⟨f, hf⟩ := Text.Utf8.encodeStrict_of_holdsHalf hhalf
          rw [hf]
          exact ⟨fun h => absurd h (by simp [Except.mapError, Except.map]), fun _ _ => rfl⟩

theorem holdsHalf_of_writeEach (t : FileTree) (files : List (Place × String)) :
    ((writeEach t files).2 = .ok () → ∀ f ∈ files, Text.holdsHalf f.2 = false) ∧
      ∀ fault, (writeEach t files).2 = .error (.encoding fault) →
        ∃ f ∈ files, Text.holdsHalf f.2 = true := by
  induction files generalizing t with
  | nil =>
      exact ⟨fun _ f hf => absurd hf List.not_mem_nil,
        fun fault h => absurd h (by simp [writeEach])⟩
  | cons f files ih =>
      -- the outcome is the first failure, so that later files count only where this one succeeds
      obtain ⟨hfirst, hfault⟩ := holdsHalf_of_writeFile t f.1 f.2
      rw [writeEach_cons]
      cases hwrite : writeFile t f.1 f.2 with
      | mk t₁ outcome =>
          rw [hwrite] at hfirst hfault
          cases outcome with
          | ok u =>
              obtain ⟨hrest, hlater⟩ := ih t₁
              refine ⟨fun h g hg => ?_, fun fault h => ?_⟩
              · rcases List.mem_cons.mp hg with rfl | hg
                · exact hfirst rfl
                · exact hrest h g hg
              · obtain ⟨g, hg, hhalf⟩ := hlater fault h
                exact ⟨g, List.mem_cons_of_mem f hg, hhalf⟩
          | error e =>
              refine ⟨fun h => absurd h (by simp), fun fault h => ?_⟩
              exact ⟨f, List.mem_cons_self, hfault fault (congrArg _ (Except.error.inj h))⟩

/-- Where a text that cannot be encoded is the only failure, there is one if and only if there is
such a text. -/
theorem writeEach_eq_ok_iff {t : FileTree} {files : List (Place × String)}
    (honly : OnlyEncoding (writeEach t files).2) :
    (writeEach t files).2 = .ok () ↔ ∀ f ∈ files, Text.holdsHalf f.2 = false := by
  obtain ⟨hencoded, hunencoded⟩ := holdsHalf_of_writeEach t files
  refine ⟨hencoded, fun hencodable => ?_⟩
  cases houtcome : (writeEach t files).2 with
  | ok u => rfl
  | error e =>
      obtain ⟨fault, rfl⟩ := honly e houtcome
      obtain ⟨f, hf, hhalf⟩ := hunencoded fault houtcome
      rw [hencodable f hf] at hhalf
      exact absurd hhalf (by decide)

/-! ### What is written does not depend on the order -/

section

variable {t t' t'' : FileTree} {files order : List (Place × String)}

theorem Written.of_perm (h : Written t order t') (hperm : order.Perm files) :
    Written t files t' where
  file f hf := h.file f (hperm.mem_iff.mpr hf)
  way f hf := h.way f (hperm.mem_iff.mpr hf)
  rest q hq := h.rest q fun f hf => hq f (hperm.mem_iff.mp hf)

theorem Written.same (h : Written t files t') (h' : Written t files t'') : Same t' t'' := by
  intro q
  -- whatever lies on the way to a file is settled by that file, and nothing else is touched
  by_cases hway : ∃ f ∈ files, q <+: f.1
  · obtain ⟨f, hf, hway⟩ := hway
    by_cases hplace : q = f.1
    · rw [hplace, h.file f hf, h'.file f hf]
    · rw [h.way f hf q hway hplace, h'.way f hf q hway hplace]
  · have hoff : ∀ f ∈ files, ¬ q <+: f.1 := fun f hf hon => hway ⟨f, hf, hon⟩
    rw [h.rest q hoff, h'.rest q hoff]

theorem Written.again (h : Written t files t') : Written t' files t' where
  file := h.file
  way := h.way
  rest _ _ := rfl

theorem writeEach_order (hwritable : ∀ f ∈ files, Writable t f.1)
    (hapart : files.Pairwise fun f g => Apart f.1 g.1) (hperm : order.Perm files) :
    Written t files (writeEach t order).1 ∧ OnlyEncoding (writeEach t order).2 ∧
      ((writeEach t order).2 = .ok () ↔ ∀ f ∈ files, Text.holdsHalf f.2 = false) := by
  obtain ⟨t', outcome, heach, honly, hwritten⟩ := writeEach_written
    (fun f hf => hwritable f (hperm.mem_iff.mp hf)) (hperm.symm.pairwise hapart Apart.symm)
  have honly' : OnlyEncoding (writeEach t order).2 := by rwa [heach]
  refine ⟨?_, honly', (writeEach_eq_ok_iff honly').trans ?_⟩
  · rw [heach]
    exact hwritten.of_perm hperm
  · exact forall_congr' fun f => imp_congr_left hperm.mem_iff

theorem Writable.again {f : Place × String} (hf : f ∈ files) (h : Written t files t')
    (hwritable : Writable t f.1) : Writable t' f.1 where
  isPlace := hwritable.isPlace
  ne_root := hwritable.ne_root
  way q hq hne := .inr (h.way f hf q hq hne)
  free := by
    rw [h.file f hf]
    simp

/-- What is in a tree once a batch has been laid down in it: every file of the batch, everything
else that was there as it was, and nothing more but the directories that were missing. -/
structure LaidDown (t : FileTree) (files : List (Place × String)) (t' : FileTree) : Prop where
  file : ∀ f ∈ files, ∃ content, t'.lookup f.1 = some (.file content) ∧ Encodes content f.2
  kept : ∀ q entry, q ∉ files.map Prod.fst → t.lookup q = some entry → t'.lookup q = some entry
  added : ∀ q entry, q ∉ files.map Prod.fst → t.lookup q = none → t'.lookup q = some entry →
    entry = .directory ∧ ∃ f ∈ files, q <+: f.1

theorem Written.laidDown (hwritable : ∀ f ∈ files, Writable t f.1) (h : Written t files t') :
    LaidDown t files t' where
  file f hf := ⟨octets f.2, h.file f hf, encodes_octets f.2⟩
  kept q entry hq hentry := by
    by_cases hway : ∃ f ∈ files, q <+: f.1
    · obtain ⟨f, hf, hway⟩ := hway
      have hne : q ≠ f.1 := fun heq => hq (heq ▸ List.mem_map_of_mem hf)
      -- what was on the way has to have been a directory
      have hdirectory : t.lookup q = some .directory :=
        ((hwritable f hf).way q hway hne).resolve_left fun hnone => by
          rw [hnone] at hentry
          exact absurd hentry (by simp)
      rw [h.way f hf q hway hne, ← hdirectory, hentry]
    · rw [h.rest q fun f hf hon => hway ⟨f, hf, hon⟩, hentry]
  added q entry hq hnone hentry := by
    by_cases hway : ∃ f ∈ files, q <+: f.1
    · obtain ⟨f, hf, hway⟩ := hway
      have hne : q ≠ f.1 := fun heq => hq (heq ▸ List.mem_map_of_mem hf)
      rw [h.way f hf q hway hne] at hentry
      exact ⟨(Option.some.inj hentry).symm, f, hf, hway⟩
    · rw [h.rest q fun f hf hon => hway ⟨f, hf, hon⟩, hnone] at hentry
      exact absurd hentry (by simp)

end

/-! ### A batch of artifacts in any order -/

/-- Targets that are apart, with nothing in their way. -/
structure Spread (t : FileTree) (targets : List Place) : Prop where
  nodup : targets.Nodup
  nested : ∀ p ∈ targets, ∀ q ∈ targets, p <+: q → p = q
  free : ∀ p ∈ targets, t.isDirectory p = false
  way : ∀ p ∈ targets, ∀ q, q <+: p → q ≠ p → t.isFile q = false

theorem Spread.apart {t : FileTree} {targets : List Place} (h : Spread t targets) :
    targets.Pairwise Apart :=
  h.nodup.imp_of_mem fun hp hq hne =>
    ⟨fun hway => hne (h.nested _ hp _ hq hway), fun hway => hne (h.nested _ hq _ hp hway).symm⟩

theorem Spread.writable {t : FileTree} {targets : List Place} (h : Spread t targets) {p : Place}
    (hp : p ∈ targets) (hplace : IsPlace p) : Writable t p where
  isPlace := hplace
  ne_root hempty := lookup_of_isDirectory_eq_false (h.free p hp) (by rw [hempty]; rfl)
  way q hq hne := open_of_isFile_eq_false (h.way p hp q hq hne)
  free := lookup_of_isDirectory_eq_false (h.free p hp)

theorem Spread.of_singleton {p : Place} (h : p ≠ []) : Spread {} [p] where
  nodup := by simp
  nested q hq q' hq' _ := (List.mem_singleton.mp hq).trans (List.mem_singleton.mp hq').symm
  free q hq := by
    cases q with
    | nil => exact absurd (List.mem_singleton.mp hq).symm h
    | cons n q => rfl
  way _ _ q _ _ := isFile_empty q

/-- A place that holds no halves of surrogate pairs and is not too long for the file system. -/
def Fits (place : Place) : Prop :=
  (pathTo place).size ≤ longestPath ∧
    ∀ n ∈ place, Text.holdsHalf n = false ∧ nameSize n ≤ longestName

instance (place : Place) : Decidable (Fits place) := inferInstanceAs (Decidable (_ ∧ _))

theorem isPlace_of_target {current place : Place} (hcurrent : ∀ n ∈ current, IsName n)
    {root : Path} {a : Artifact} (h : target current root a = .ok place) (hfits : Fits place) :
    IsPlace place := by
  have hup : ".." ∉ current := fun hmem => (hcurrent _ hmem).ne_up rfl
  have hjoined : (root.join (Path.ofString a.path)).resolveFault? = none := by
    rw [target] at h
    simp only at h
    split at h
    case h_1 => exact absurd h (by simp)
    case h_2 hnone => exact (Option.or_eq_none_iff.mp hnone).1
  have hparts : ∀ n ∈ (root.join (Path.ofString a.path)).parts, '\x00' ∉ n.toList :=
    fun n hn hnul => ((Path.resolveFault?_eq_none_iff _).mp hjoined n hn _ hnul).1 rfl
  refine ⟨fun n hn => ⟨fun heq => not_mem_target hup h (heq ▸ hn), ?_, (hfits.2 n hn).1,
    (hfits.2 n hn).2⟩, hfits.1⟩
  rw [eq_resolve_of_target h, Path.resolve] at hn
  split at hn
  · exact (Path.mem_of_mem_normalize hn).elim
      (fun habove => absurd habove List.not_mem_nil) (hparts n)
  · exact (Path.mem_of_mem_normalize hn).elim
      (fun habove => (hcurrent n (List.mem_reverse.mp habove)).no_nul) (hparts n)

theorem forall_files_iff {current : Place} {root : Path} {artifacts : List Artifact}
    {targets : List Place} (h : artifacts.mapM (target current root) = .ok targets)
    (P : String → Prop) :
    (∀ f ∈ targets.zip (artifacts.map (·.content)), P f.2) ↔ ∀ a ∈ artifacts, P a.content := by
  have hlength : artifacts.length = targets.length := by
    simpa using congrArg List.length (mapM_eq_ok.mp h)
  have hcontents : (targets.zip (artifacts.map (·.content))).map Prod.snd =
      artifacts.map (·.content) := List.map_snd_zip (by rw [List.length_map, hlength])
  rw [← List.forall_mem_map (f := Prod.snd) (P := P), hcontents, List.forall_mem_map]

/-- A place whose path or one of whose names is too long. -/
def IsLong (place : Place) : Prop :=
  longestPath < (pathTo place).size ∨ ∃ name ∈ place, name ≠ ".." ∧ longestName < nameSize name

theorem writeFile_of_isLong (t : FileTree) {place : Place} (hlong : IsLong place)
    (content : String) :
    (writeFile t place content).2 ≠ .ok () ∧ SameFiles t (writeFile t place content).1 := by
  have hmade := ensureDirectories_sameFiles t [] (pathTo place).parent
  rw [writeFile]
  split
  case h_1 hfailed =>
    rw [hfailed] at hmade
    exact ⟨by simp, hmade⟩
  case h_2 t' hok =>
    rw [hok] at hmade
    obtain ⟨fault, hfault⟩ : ∃ fault, t'.write [] (pathTo place)
        ((Text.Utf8.encodeStrict content.toList).toOption.getD []) = .error fault :=
      write_of_long (p := pathTo place) hlong _
    simp only [hfault]
    exact ⟨by simp, hmade⟩

theorem writeEach_singleton (t : FileTree) (place : Place) (content : String) :
    writeEach t [(place, content)] = writeFile t place content := by
  rw [writeEach_cons]
  split
  case h_1 hwrite => exact hwrite.symm
  case h_2 hwrite => exact hwrite.symm

theorem writeAll_of_isLong (t : FileTree) {current place : Place} {root : Path} {a : Artifact}
    (ha : target current root a = .ok place) (hlong : IsLong place) :
    [a].mapM (target current root) = .ok [place] ∧
      (writeAll t current root [a]).2 ≠ .ok [place] ∧
        SameFiles t (writeAll t current root [a]).1 := by
  have htargets : [a].mapM (target current root) = .ok [place] :=
    mapM_eq_ok.mpr (congrArg (fun outcome => [outcome]) ha)
  obtain ⟨hfails, hfiles⟩ := writeFile_of_isLong t hlong a.content
  have hzip : [place].zip ([a].map (·.content)) = [(place, a.content)] := rfl
  rw [writeAll_of_targets htargets, hzip, writeEach_singleton]
  refine ⟨htargets, fun hok => ?_, hfiles⟩
  cases houtcome : (writeFile t place a.content).2 with
  | ok u => exact hfails houtcome
  | error e =>
      rw [houtcome] at hok
      exact absurd hok (by simp [Except.map])

def letters (count : Nat) : String := String.ofList (List.replicate count 'n')

theorem toList_letters (count : Nat) : (letters count).toList = List.replicate count 'n' :=
  String.toList_ofList

theorem nameSize_letters (count : Nat) : nameSize (letters count) = count := by
  have hn : (if Text.isOctetHalf 'n' then [(Text.codeOfChar 'n' - 0xdc00).toUInt8]
      else Text.Utf8.encodeChar 'n') = [110] := by decide
  rw [nameSize, toList_letters, Text.Utf8.nameOctets, List.flatMap_def, List.map_replicate, hn]
  simp

theorem isPart_letters {count : Nat} (h : 0 < count) :
    IsPart (letters count) ∧ letters count ≠ ".." := by
  have hmem : 'n' ∈ (letters count).toList := by
    rw [toList_letters, List.mem_replicate]
    exact ⟨Nat.ne_of_gt h, rfl⟩
  have hne : ∀ s : String, 'n' ∉ s.toList → letters count ≠ s := fun s hs heq => hs (heq ▸ hmem)
  refine ⟨⟨⟨hne "" (by decide), hne "." (by decide)⟩, fun hslash => ?_⟩, hne ".." (by decide)⟩
  rw [toList_letters, List.mem_replicate] at hslash
  exact absurd hslash.2 (by decide)

/-- The path of names of letters, one below the other, leads to a place of these names. -/
theorem target_letters {count : Nat} (h : 0 < count) (names : Nat) (content : String) :
    target [] (.ofString "out") ⟨"/".intercalate (List.replicate (names + 1) (letters count)),
      content⟩ = .ok ("out" :: List.replicate (names + 1) (letters count)) := by
  obtain ⟨hpart, hup⟩ := isPart_letters h
  let parts := List.replicate (names + 1) (letters count)
  have hparts : ∀ part ∈ parts, IsPart part := fun part hmem =>
    List.eq_of_mem_replicate hmem ▸ hpart
  have hread : (Path.ofString ("/".intercalate parts)).parts = parts := kept_intercalate hparts
  have hrelative : (Path.ofString ("/".intercalate parts)).isAbsolute = false :=
    Bool.eq_false_iff.mpr fun habsolute =>
      head?_intercalate hparts ((isAbsolute_ofString _).mp habsolute)
  have hplace : destination [] "out" ⟨"/".intercalate parts, content⟩ = "out" :: parts := by
    have hdown : ".." ∉ (Path.ofString ("/".intercalate parts)).parts := fun hmem =>
      hup (List.eq_of_mem_replicate (hread ▸ hmem)).symm
    rw [destination, ← resolve_join_ofString, resolve_join hrelative hdown, hread]
    rfl
  have haskable : Askable "out" ⟨"/".intercalate parts, content⟩ := by
    refine ⟨by decide, isPassable_iff_of_ofString.mpr fun n hn c hc => ?_⟩
    rw [hread] at hn
    rw [List.eq_of_mem_replicate hn, toList_letters] at hc
    rw [List.eq_of_mem_replicate hc]
    decide
  refine target_eq_ok_iff.mpr ⟨⟨haskable, ?_⟩, hplace.symm⟩
  rw [Stays, hplace]
  exact List.prefix_append ["out"] parts

theorem size_pathTo_letters (count names : Nat) :
    (pathTo (List.replicate (names + 1) (letters count))).size = (names + 1) * (1 + count) := by
  induction names with
  | zero => rw [List.replicate_one, size_pathTo_singleton, nameSize_letters, Nat.one_mul]
  | succ names ih =>
      rw [List.replicate_succ, size_pathTo_cons _ (by simp), ih, nameSize_letters,
        Nat.succ_mul (names + 1)]
      exact Nat.add_comm _ _

end Formwork.Writer
