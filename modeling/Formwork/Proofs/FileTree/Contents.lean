import Formwork.Proofs.FileTree.Names

/-!
What is in a tree after a change of it. A tree is looked at through `lookup` only: every operation
is described by what it leaves at each place. On a way without files all directories can be made,
and a file can be written where no directory is; everything off the way stays as it was.
-/

namespace Formwork.FileTree

/-- A name that a directory or file can have. No character of it is half of a surrogate pair. -/
structure IsName (name : String) : Prop where
  ne_up : name ≠ ".."
  no_nul : '\x00' ∉ name.toList
  no_half : Text.holdsHalf name = false
  short : nameSize name ≤ longestName

instance (name : String) : Decidable (IsName name) :=
  decidable_of_iff (name ≠ ".." ∧ '\x00' ∉ name.toList ∧ Text.holdsHalf name = false ∧
    nameSize name ≤ longestName)
    ⟨fun h => ⟨h.1, h.2.1, h.2.2.1, h.2.2.2⟩, fun h => ⟨h.ne_up, h.no_nul, h.no_half, h.short⟩⟩

theorem IsName.isPassable {name : String} (h : IsName name) : Path.IsPassable name := fun c hc =>
  ⟨fun heq => h.no_nul (heq ▸ hc), Text.Utf8.isUnnamed_of_not_isHalf
    (Bool.eq_false_iff.mpr (List.any_eq_false.mp h.no_half c hc))⟩

/-- A place that a directory or file can have. Its path is not too long. -/
structure IsPlace (place : Place) : Prop where
  names : ∀ n ∈ place, IsName n
  short : (pathTo place).size ≤ longestPath

instance (place : Place) : Decidable (IsPlace place) :=
  decidable_of_iff ((∀ n ∈ place, IsName n) ∧ (pathTo place).size ≤ longestPath)
    ⟨fun h => ⟨h.1, h.2⟩, fun h => ⟨h.names, h.short⟩⟩

theorem IsPlace.of_isPrefix {q place : Place} (h : IsPlace place) (hq : q <+: place) :
    IsPlace q where
  names n hn := h.names n (hq.subset hn)
  short := Nat.le_trans (size_pathTo_le hq) h.short

def Open (t : FileTree) (place : Place) : Prop :=
  t.lookup place = none ∨ t.lookup place = some .directory

@[simp] theorem lookup_root (t : FileTree) : t.lookup [] = some .directory := rfl

theorem lookup_replaceIn (place : Place) (entry : Entry) (entries : List (Place × Entry))
    (q : Place) :
    (put.replaceIn place entry entries).lookup q =
      if q = place then some entry else entries.lookup q := by
  induction entries with
  | nil =>
      by_cases h : q = place
      · simp [put.replaceIn, h]
      · have hne : (q == place) = false := by simpa using h
        simp [put.replaceIn, List.lookup_cons, h, hne]
  | cons e rest ih =>
      obtain ⟨p, old⟩ := e
      rw [put.replaceIn]
      split
      case isTrue hp =>
        subst hp
        by_cases h : q = p
        · simp [h]
        · have hne : (q == p) = false := by simpa using h
          simp [List.lookup_cons, h, hne]
      case isFalse hp =>
        by_cases h : q = p
        · subst h
          simp [hp]
        · have hne : (q == p) = false := by simpa using h
          simp only [List.lookup_cons, hne, ih]

theorem lookup_put (t : FileTree) {place : Place} (h : place ≠ []) (entry : Entry) (q : Place) :
    (t.put place entry).lookup q = if q = place then some entry else t.lookup q := by
  cases q with
  | nil => rw [lookup_root, lookup_root, if_neg h.symm]
  | cons name q => exact lookup_replaceIn place entry t.entries (name :: q)

/-! ### Following names -/

/-- The way to a place consists of directories. -/
def Reached (t : FileTree) (place : Place) : Prop :=
  ∀ q, q <+: place → q ≠ place → t.lookup q = some .directory

theorem walk_append {t : FileTree} {above names : List String} (hnames : ∀ n ∈ names, IsName n)
    (hopen : ∀ q, q <+: above ++ names → q ≠ above ++ names → Open t q)
    (habove : ∀ q, q <+: above → q ≠ above → t.lookup q = some .directory) :
    (t.walk above names = .ok (above ++ names) ∧ Reached t (above ++ names)) ∨
      (t.walk above names = .error .notFound ∧ ¬ Reached t (above ++ names)) := by
  induction names generalizing above with
  | nil =>
      rw [List.append_nil]
      exact .inl ⟨rfl, habove⟩
  | cons name names ih =>
      have hname := hnames name List.mem_cons_self
      have hstep : above ++ name :: names = (above ++ [name]) ++ names := by simp
      have hopenAbove : Open t above := hopen above (List.prefix_append _ _) (by simp)
      rcases hopenAbove with hnone | hdirectory
      · -- the walk ends where the first directory is missing
        right
        rw [walk, hnone]
        refine ⟨rfl, fun hreached => ?_⟩
        have hthere := hreached above (List.prefix_append _ _) (by simp)
        exact absurd (hnone.symm.trans hthere) (by simp)
      · rw [walk, hdirectory]
        simp only [if_neg hname.ne_up, if_neg (Nat.not_lt.mpr hname.short)]
        rw [hstep] at hopen ⊢
        have hway : ∀ q, q <+: above ++ [name] → q ≠ above ++ [name] →
            t.lookup q = some .directory := fun q hq hne => by
          have hqabove : q <+: above := (List.prefix_concat_iff.mp hq).resolve_left hne
          by_cases heq : q = above
          · rw [heq, hdirectory]
          · exact habove q hqabove heq
        exact ih (fun n hn => hnames n (List.mem_cons_of_mem _ hn)) hopen hway

theorem fault?_pathTo {place : Place} (hplace : IsPlace place) : (pathTo place).fault? = none :=
  (Path.fault?_eq_none_iff (by decide : Path.IsPassable "/")).mpr fun n hn =>
    (hplace.names n hn).isPassable

/-- On a way without files a place is located unless a directory on the way is missing. -/
theorem locate_pathTo {t : FileTree} {place : Place} (hplace : IsPlace place)
    (hopen : ∀ q, q <+: place → q ≠ place → Open t q) (current : Place) :
    (t.locate current (pathTo place) = .ok place ∧ Reached t place) ∨
      (t.locate current (pathTo place) = .error .notFound ∧ ¬ Reached t place) := by
  have hwalk : t.locate current (pathTo place) = t.walk [] place := by
    simp only [locate, fault?_pathTo hplace, if_neg (Nat.not_lt.mpr hplace.short)]
    rfl
  rw [hwalk]
  exact walk_append hplace.names hopen fun q hq hne => absurd (List.prefix_nil.mp hq) hne

theorem locate_of_reached {t : FileTree} {place : Place} (hplace : IsPlace place)
    (h : Reached t place) (current : Place) : t.locate current (pathTo place) = .ok place := by
  rcases locate_pathTo hplace (fun q hq hne => .inr (h q hq hne)) current with
    ⟨hok, -⟩ | ⟨-, hmissing⟩
  · exact hok
  · exact absurd h hmissing

/-! ### Making directories -/

section

variable {t : FileTree} {place : Place} {current : Place}

theorem makeDirectory_of_none (hplace : IsPlace place) (h : Reached t place)
    (hnone : t.lookup place = none) :
    t.makeDirectory current (pathTo place) = .ok (t.put place .directory) := by
  simp only [makeDirectory, locate_of_reached hplace h, bind, Except.bind, hnone]

theorem makeDirectory_of_some (hplace : IsPlace place) (h : Reached t place)
    {entry : Entry} (hsome : t.lookup place = some entry) :
    t.makeDirectory current (pathTo place) = .error .exists := by
  simp only [makeDirectory, locate_of_reached hplace h, bind, Except.bind, hsome]

theorem leadsToDirectory_of_reached (hplace : IsPlace place) (h : Reached t place)
    (hdirectory : t.lookup place = some .directory) :
    t.leadsToDirectory current (pathTo place) = true := by
  have hfind : t.find current (pathTo place) = .ok (place, .directory) := by
    simp only [find, locate_of_reached hplace h, bind, Except.bind, hdirectory]
  rw [leadsToDirectory, hfind]

/-- A tree in which every place down to one is a directory, and all others are as they were. -/
def DirectoriesTo (place : Place) (t t' : FileTree) : Prop :=
  ∀ q, t'.lookup q = if q <+: place then some .directory else t.lookup q

theorem directoriesTo_of_reached (h : Reached t place)
    (hdirectory : t.lookup place = some .directory) : DirectoriesTo place t t := by
  intro q
  split
  case isTrue hq =>
    by_cases heq : q = place
    · rw [heq, hdirectory]
    · exact h q hq heq
  case isFalse => rfl

theorem directoriesTo_put (h : Reached t place) (hne : place ≠ []) :
    DirectoriesTo place t (t.put place .directory) := by
  intro q
  rw [lookup_put t hne]
  by_cases heq : q = place
  · rw [if_pos heq, if_pos (heq ▸ List.prefix_rfl)]
  · rw [if_neg heq]
    split
    case isTrue hq => exact h q hq heq
    case isFalse => rfl

theorem ensureDirectory_directoriesTo (hplace : IsPlace place) (h : Reached t place)
    (hopen : Open t place) :
    ∃ t', t.ensureDirectory current (pathTo place) = .ok t' ∧ DirectoriesTo place t t' := by
  rcases hopen with hnone | hdirectory
  · have hne : place ≠ [] := by
      rintro rfl
      exact absurd hnone (by simp)
    refine ⟨_, ?_, directoriesTo_put h hne⟩
    rw [ensureDirectory, makeDirectory_of_none hplace h hnone]
  · refine ⟨t, ?_, directoriesTo_of_reached h hdirectory⟩
    rw [ensureDirectory, makeDirectory_of_some hplace h hdirectory]
    simp only [leadsToDirectory_of_reached hplace h hdirectory, if_true]

/-- The directory above is made only where it is missing. -/
theorem ensureFrom_succ (current : Place) (fuel : Nat) (t : FileTree) (p : Path) :
    ensureDirectories.ensureFrom current (fuel + 1) t p =
      if t.makeDirectory current p = .error .notFound then
        match ensureDirectories.ensureFrom current fuel t p.parent with
        | (t', .error e) => (t', .error e)
        | (t', .ok ()) => t'.settle (t'.ensureDirectory current p)
      else t.settle (t.ensureDirectory current p) := by
  rw [ensureDirectories.ensureFrom]
  split
  case h_1 hmissing => exact (if_pos hmissing).symm
  case h_2 hother => exact (if_neg hother).symm

theorem isPrefix_dropLast {q : Place} (h : q <+: place) (hne : q ≠ place) :
    q <+: place.dropLast := by
  cases hlast : place.getLast? with
  | none =>
      rw [List.getLast?_eq_none_iff.mp hlast] at h hne
      exact absurd (List.prefix_nil.mp h) hne
  | some name =>
      have hplace : place.dropLast ++ [name] = place := List.dropLast_append_getLast? name hlast
      rw [← hplace] at h hne
      exact (List.prefix_concat_iff.mp h).resolve_left hne

theorem ensureFrom_directoriesTo (hplace : IsPlace place)
    (hopen : ∀ q, q <+: place → Open t q) {fuel : Nat} (hfuel : place.length ≤ fuel) :
    ∃ t', ensureDirectories.ensureFrom current fuel t (pathTo place) = (t', .ok ()) ∧
      DirectoriesTo place t t' := by
  induction fuel generalizing place with
  | zero =>
      have hroot : place = [] := List.eq_nil_of_length_eq_zero (Nat.le_zero.mp hfuel)
      subst hroot
      have hreached : Reached t [] := fun q hq hne => absurd (List.prefix_nil.mp hq) hne
      obtain ⟨t', hensured, hdirectories⟩ :=
        ensureDirectory_directoriesTo hplace hreached (hopen [] List.prefix_rfl)
      exact ⟨t', by rw [ensureDirectories.ensureFrom, hensured, settle], hdirectories⟩
  | succ fuel ih =>
      by_cases hreached : Reached t place
      · obtain ⟨t', hensured, hdirectories⟩ :=
          ensureDirectory_directoriesTo hplace hreached (hopen place List.prefix_rfl)
        refine ⟨t', ?_, hdirectories⟩
        have hmade : t.makeDirectory current (pathTo place) ≠ .error .notFound := by
          rcases hopen place List.prefix_rfl with hnone | hdirectory
          · rw [makeDirectory_of_none hplace hreached hnone]
            simp
          · rw [makeDirectory_of_some hplace hreached hdirectory]
            simp
        rw [ensureFrom_succ, if_neg hmade, hensured, settle]
      · -- the directory above is missing and is made first
        have hmissing : t.makeDirectory current (pathTo place) = .error .notFound := by
          rcases locate_pathTo hplace (fun q hq _ => hopen q hq) current with
            ⟨-, hthere⟩ | ⟨hlocate, -⟩
          · exact absurd hthere hreached
          · simp only [makeDirectory, hlocate, bind, Except.bind]
        have hne : place ≠ [] := by
          rintro rfl
          exact hreached fun q hq hne => absurd (List.prefix_nil.mp hq) hne
        have hshorter : place.dropLast.length < place.length := by
          rw [List.length_dropLast]
          exact Nat.sub_lt (List.length_pos_iff.mpr hne) Nat.one_pos
        obtain ⟨t₁, hmade, hdirectories⟩ : ∃ t₁,
            ensureDirectories.ensureFrom current fuel t (pathTo place.dropLast) = (t₁, .ok ()) ∧
              DirectoriesTo place.dropLast t t₁ := ih
          (hplace.of_isPrefix (List.dropLast_prefix place))
          (fun q hq => hopen q (hq.trans (List.dropLast_prefix place))) (by omega)
        have hreached₁ : Reached t₁ place := fun q hq hqne => by
          rw [hdirectories, if_pos (isPrefix_dropLast hq hqne)]
        have hlonger : ¬ place <+: place.dropLast := fun h => by
          have := h.length_le
          omega
        have hopen₁ : Open t₁ place := by
          rw [Open, hdirectories, if_neg hlonger]
          exact hopen place List.prefix_rfl
        obtain ⟨t₂, hensured, hdirectories₂⟩ : ∃ t₂,
            t₁.ensureDirectory current (pathTo place) = .ok t₂ ∧ DirectoriesTo place t₁ t₂ :=
          ensureDirectory_directoriesTo hplace hreached₁ hopen₁
        refine ⟨t₂, ?_, fun q => ?_⟩
        · have hparent : (pathTo place).parent = pathTo place.dropLast := rfl
          rw [ensureFrom_succ, if_pos hmissing, hparent, hmade]
          simp only [hensured, settle]
        · rw [hdirectories₂, hdirectories]
          by_cases hq : q <+: place
          · rw [if_pos hq, if_pos hq]
          · have hq' : ¬ q <+: place.dropLast := fun h =>
              hq (h.trans (List.dropLast_prefix place))
            rw [if_neg hq, if_neg hq, if_neg hq']

theorem ensureDirectories_directoriesTo (hplace : IsPlace place)
    (hopen : ∀ q, q <+: place → Open t q) :
    ∃ t', t.ensureDirectories current (pathTo place) = (t', .ok ()) ∧ DirectoriesTo place t t' :=
  ensureFrom_directoriesTo hplace hopen (Nat.le_refl place.length)

theorem write_of_reached (hplace : IsPlace place) (h : Reached t place)
    (hfile : t.lookup place ≠ some .directory) (content : Text.Octets) :
    t.write current (pathTo place) content = .ok (t.put place (.file content)) := by
  simp only [write, locate_of_reached hplace h, bind, Except.bind]

end

end Formwork.FileTree
