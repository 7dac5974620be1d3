import Formwork.Proofs.FileTree.Contents
import Formwork.Proofs.FileTree.Paths

/-!
The territory of a change. A path leads to no place but the one that it resolves to. So making
directories makes new ones on the way that the path takes, and writing a file changes its place;
everything else is as it was, whether they come to an end or not.
-/

namespace Formwork.FileTree

/-! ### Places that paths lead to -/

theorem eq_normalize_of_walk {t : FileTree} {above place : Place} {names : List String}
    (h : t.walk above names = .ok place) : place = Path.normalize above.reverse names := by
  induction names generalizing above with
  | nil =>
      rw [walk] at h
      rw [Path.normalize, List.reverse_reverse, Except.ok.inj h]
  | cons name names ih =>
      rw [walk] at h
      rw [Path.normalize]
      split at h
      case h_1 => exact absurd h (by simp)
      case h_2 => exact absurd h (by simp)
      case h_3 =>
        split at h
        case isTrue hup => rw [if_pos hup, ih h, ← List.tail_reverse]
        case isFalse hname =>
          split at h
          · exact absurd h (by simp)
          · rw [if_neg hname, ih h, List.reverse_append]
            rfl

theorem eq_resolve_of_locate {t : FileTree} {current place : Place} {p : Path}
    (h : t.locate current p = .ok place) : place = p.resolve current := by
  rw [locate] at h
  split at h
  case h_1 => exact absurd h (by simp)
  case h_2 =>
    split at h
    case isTrue => exact absurd h (by simp)
    case isFalse =>
      have hplace := eq_normalize_of_walk h
      rw [Path.resolve]
      split at hplace
      · next habsolute => rw [hplace, if_pos habsolute, List.reverse_nil]
      · next hrelative => rw [hplace, if_neg hrelative]

/-! ### Changes -/

/-- There was nothing at a place, and now there is a directory. -/
def NewDirectory (t t' : FileTree) (q : Place) : Prop :=
  t.lookup q = none ∧ t'.lookup q = some .directory

/-- A tree has changed inside of some places only, but for new directories on some ways. -/
def ChangedWithin (inside way : Place → Prop) (t t' : FileTree) : Prop :=
  ∀ q, t'.lookup q = t.lookup q ∨ inside q ∨ (way q ∧ NewDirectory t t' q)

def Nowhere (_ : Place) : Prop := False

section

variable {inside inside' way way' : Place → Prop} {t t' t'' : FileTree} {current place q : Place}
  {p : Path}

theorem ChangedWithin.refl (inside way : Place → Prop) (t : FileTree) :
    ChangedWithin inside way t t :=
  fun _ => .inl rfl

theorem ChangedWithin.trans (h : ChangedWithin inside way t t')
    (h' : ChangedWithin inside way t' t'') : ChangedWithin inside way t t'' := by
  intro q
  rcases h' q with hsame' | hinside | ⟨hway, hnone, hmade⟩
  · rw [NewDirectory, hsame']
    exact h q
  · exact .inr (.inl hinside)
  · rcases h q with hsame | hinside | ⟨-, -, hthere⟩
    · exact .inr (.inr ⟨hway, hsame ▸ hnone, hmade⟩)
    · exact .inr (.inl hinside)
    · exact absurd (hthere.symm.trans hnone) (by simp)

theorem ChangedWithin.mono (h : ChangedWithin inside way t t') (hinside : ∀ q, inside q → inside' q)
    (hway : ∀ q, way q → inside' q ∨ way' q) : ChangedWithin inside' way' t t' := by
  intro q
  rcases h q with hsame | hin | ⟨hon, hnew⟩
  · exact .inl hsame
  · exact .inr (.inl (hinside q hin))
  · exact .inr ((hway q hon).imp_right fun hon' => ⟨hon', hnew⟩)

/-! ### Directories -/

/-- A place on the way that a path takes: where the path leads without some of its last names. -/
def OnWay (current : Place) (p : Path) (q : Place) : Prop :=
  ∃ parts, parts <+: p.parts ∧ q = ({ p with parts } : Path).resolve current

theorem onWay_resolve (current : Place) (p : Path) : OnWay current p (p.resolve current) :=
  ⟨p.parts, List.prefix_rfl, rfl⟩

theorem OnWay.of_parent (h : OnWay current p.parent q) : OnWay current p q := by
  obtain ⟨parts, hparts, hq⟩ := h
  exact ⟨parts, hparts.trans (List.dropLast_prefix p.parts), hq⟩

theorem isPrefix_of_onWay_pathTo (hplace : ".." ∉ place) (h : OnWay [] (pathTo place) q) :
    q <+: place := by
  obtain ⟨parts, hparts, rfl⟩ := h
  have hdown : ".." ∉ parts := fun hmem => hplace (hparts.subset hmem)
  have hresolve : ({ pathTo place with parts } : Path).resolve [] = parts :=
    Path.normalize_of_not_mem [] parts hdown
  rwa [hresolve]

theorem makeDirectory_changedWithin (h : t.makeDirectory current p = .ok t') :
    ChangedWithin Nowhere (OnWay current p) t t' := by
  rw [makeDirectory] at h
  cases hlocate : t.locate current p with
  | error fault => simp [hlocate, bind, Except.bind] at h
  | ok place =>
      simp only [hlocate, bind, Except.bind] at h
      split at h
      case h_1 => exact absurd h (by simp)
      case h_2 hnone =>
        have hne : place ≠ [] := by
          rintro rfl
          exact absurd hnone (by simp)
        obtain rfl := Except.ok.inj h
        intro q
        by_cases hq : q = place
        · have hway : OnWay current p place :=
            eq_resolve_of_locate hlocate ▸ onWay_resolve current p
          rw [hq]
          exact .inr (.inr ⟨hway, hnone, by rw [lookup_put t hne, if_pos rfl]⟩)
        · exact .inl (by rw [lookup_put t hne, if_neg hq])

theorem ensureDirectory_changedWithin (h : t.ensureDirectory current p = .ok t') :
    ChangedWithin Nowhere (OnWay current p) t t' := by
  rw [ensureDirectory] at h
  split at h
  case h_1 hmade => exact Except.ok.inj h ▸ makeDirectory_changedWithin hmade
  case h_2 =>
    split at h
    · exact Except.ok.inj h ▸ .refl _ _ t
    · exact absurd h (by simp)

theorem settle_changedWithin (current : Place) (t : FileTree) (p : Path) :
    ChangedWithin Nowhere (OnWay current p) t (t.settle (t.ensureDirectory current p)).1 := by
  cases hensured : t.ensureDirectory current p with
  | ok t' => exact ensureDirectory_changedWithin hensured
  | error e => exact .refl _ _ t

theorem ensureFrom_changedWithin (current : Place) (fuel : Nat) (t : FileTree) (p : Path) :
    ChangedWithin Nowhere (OnWay current p) t
      (ensureDirectories.ensureFrom current fuel t p).1 := by
  -- on the number of names, since the directory above is made first
  induction fuel generalizing p with
  | zero => exact settle_changedWithin current t p
  | succ fuel ih =>
      rw [ensureFrom_succ]
      split
      case isTrue =>
        have habove : ChangedWithin Nowhere (OnWay current p) t
            (ensureDirectories.ensureFrom current fuel t p.parent).1 :=
          (ih p.parent).mono (fun _ => id) fun _ hq => .inr hq.of_parent
        split
        case h_1 hfailed => exact hfailed ▸ habove
        case h_2 hmade =>
          rw [hmade] at habove
          exact habove.trans (settle_changedWithin current _ p)
      case isFalse => exact settle_changedWithin current t p

/-- Making directories makes new ones on the way of the path, and changes nothing else, even where
it fails. -/
theorem ensureDirectories_changedWithin (t : FileTree) (current : Place) (p : Path) :
    ChangedWithin Nowhere (OnWay current p) t (t.ensureDirectories current p).1 :=
  ensureFrom_changedWithin current p.parts.length t p

/-! ### Files -/

theorem write_changedWithin {content : Text.Octets} (h : t.write current p content = .ok t') :
    ChangedWithin (· = p.resolve current) Nowhere t t' := by
  rw [write] at h
  cases hlocate : t.locate current p with
  | error fault => simp [hlocate, bind, Except.bind] at h
  | ok place =>
      simp only [hlocate, bind, Except.bind] at h
      have hplace := eq_resolve_of_locate hlocate
      split at h
      case h_1 => exact absurd h (by simp)
      case h_2 hfree =>
        have hne : place ≠ [] := by
          rintro rfl
          exact hfree rfl
        obtain rfl := Except.ok.inj h
        intro q
        by_cases hq : q = place
        · exact .inr (.inl (hq.trans hplace))
        · exact .inl (by rw [lookup_put t hne, if_neg hq])

end

end Formwork.FileTree
