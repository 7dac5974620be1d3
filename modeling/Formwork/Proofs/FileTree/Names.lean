import Formwork.FileTree.Basic
import Formwork.Proofs.FileTree.Paths
import Formwork.Proofs.Text.Utf8

/-!
Texts that the file system can be asked about. A text has to have octets, and must not hold the
character that ends texts. A path is looked at name by name when it is resolved, so that it resolves
if and only if every name of it can be asked about. The octets of a path begin with those of each
path on the way to it, so none on the way is longer.
-/

namespace Formwork

open Text.Utf8 (isUnnamed nameOctets)

namespace Path

/-- A text that the file system can be asked about. -/
def IsPassable (s : String) : Prop := ∀ c ∈ s.toList, c ≠ '\x00' ∧ isUnnamed c = false

instance (s : String) : Decidable (IsPassable s) := List.decidableBAll _ s.toList

theorem IsPassable.of_subset {s t : String} (h : IsPassable t) (hsub : s.toList ⊆ t.toList) :
    IsPassable s :=
  fun c hc => h c (hsub hc)

/-! ### Paths on the way -/

theorem mem_intercalate_slash {c : Char} (hc : c ≠ '/') {pieces : List (List Char)} :
    c ∈ ['/'].intercalate pieces ↔ ∃ piece ∈ pieces, c ∈ piece := by
  induction pieces with
  | nil => simp
  | cons piece pieces ih =>
      cases pieces with
      | nil => simp
      | cons next pieces =>
          rw [List.intercalate_cons_cons, List.mem_append, List.mem_append, ih]
          simp [hc]

theorem mem_intercalate {c : Char} (hc : c ≠ '/') {parts : List String} :
    c ∈ ("/".intercalate parts).toList ↔ ∃ part ∈ parts, c ∈ part.toList := by
  have hslash : "/".toList = ['/'] := by decide
  rw [String.toList_intercalate, hslash, mem_intercalate_slash hc]
  simp

theorem mem_text {p : Path} {c : Char} (hslash : c ≠ '/') (hdot : c ≠ '.') :
    c ∈ p.text.toList ↔ c ∈ p.root.toList ∨ ∃ part ∈ p.parts, c ∈ part.toList := by
  rw [text]
  split
  case isTrue hempty =>
    rw [hempty.1, List.isEmpty_iff.mp hempty.2]
    simp [hdot]
  case isFalse => rw [String.toList_append, List.mem_append, mem_intercalate hslash]

theorem fault?_eq_none_iff {p : Path} (hroot : IsPassable p.root) :
    p.fault? = none ↔ ∀ part ∈ p.parts, IsPassable part := by
  have hsign : ∀ c : Char, c = '/' ∨ c = '.' → isUnnamed c = false := by
    rintro c (rfl | rfl) <;> decide
  have htext : Text.Utf8.firstUnnamed? p.text.toList = none ↔
      ∀ part ∈ p.parts, ∀ c ∈ part.toList, isUnnamed c = false := by
    rw [Text.Utf8.firstUnnamed?_eq_none]
    constructor
    · intro h part hpart c hc
      by_cases hkept : c = '/' ∨ c = '.'
      · exact hsign c hkept
      · rw [not_or] at hkept
        exact h c ((mem_text hkept.1 hkept.2).mpr (.inr ⟨part, hpart, hc⟩))
    · intro h c hc
      by_cases hkept : c = '/' ∨ c = '.'
      · exact hsign c hkept
      · rw [not_or] at hkept
        rcases (mem_text hkept.1 hkept.2).mp hc with hc | ⟨part, hpart, hc⟩
        · exact (hroot c hc).2
        · exact h part hpart c hc
  have hnul : p.hasNul = false ↔ ∀ part ∈ p.parts, ∀ c ∈ part.toList, c ≠ '\x00' := by
    rw [hasNul, List.any_eq_false]
    refine forall₂_congr fun part _ => ?_
    rw [List.contains_iff_mem]
    exact ⟨fun h c hc heq => h (heq ▸ hc), fun h hmem => h _ hmem rfl⟩
  rw [fault?]
  cases hfirst : Text.Utf8.firstUnnamed? p.text.toList with
  | some f =>
      refine iff_of_false (by simp) fun h => ?_
      rw [htext.mpr fun part hpart c hc => (h part hpart c hc).2] at hfirst
      exact absurd hfirst (by simp)
  | none =>
      have hoctets := htext.mp hfirst
      cases hends : p.hasNul with
      | false =>
          refine iff_of_true rfl fun part hpart c hc => ?_
          exact ⟨hnul.mp hends part hpart c hc, hoctets part hpart c hc⟩
      | true =>
          refine iff_of_false (by simp) fun h => ?_
          rw [hnul.mpr fun part hpart c hc => (h part hpart c hc).1] at hends
          exact absurd hends (by decide)

theorem root_step (p : Path) (part : String) : (p.step part).root = p.root := by
  rw [step]
  split
  · rfl
  · split
    · split <;> rfl
    · rfl

/-- The names after a step are passable if and only if the name that is stepped to is. -/
theorem forall_isPassable_step {p : Path} (hp : ∀ n ∈ p.parts, IsPassable n) (part : String) :
    (∀ n ∈ (p.step part).parts, IsPassable n) ↔ IsPassable part := by
  have hup : IsPassable ".." := by decide
  rw [step]
  split
  case isTrue hpart =>
    rw [List.forall_mem_append, List.forall_mem_singleton]
    exact and_iff_right hp
  case isFalse hpart =>
    rw [not_not.mp hpart]
    refine iff_of_true (fun n hn => ?_) hup
    split at hn
    · split at hn
      · exact hp n hn
      · exact List.mem_singleton.mp hn ▸ hup
    · simp only at hn
      split at hn
      · rcases List.mem_append.mp hn with hn | hn
        · exact hp n hn
        · exact List.mem_singleton.mp hn ▸ hup
      · exact hp n (List.mem_of_mem_dropLast hn)

theorem faultAlong?_eq_none_iff {p : Path} (hroot : IsPassable p.root)
    (hp : ∀ n ∈ p.parts, IsPassable n) (names : List String) :
    p.faultAlong? names = none ↔ ∀ n ∈ names, IsPassable n := by
  induction names generalizing p with
  | nil => simp [faultAlong?]
  | cons name names ih =>
      have hroot' : IsPassable (p.step name).root := root_step p name ▸ hroot
      have hstep := forall_isPassable_step hp name
      rw [faultAlong?, Option.or_eq_none_iff, fault?_eq_none_iff hroot', hstep,
        List.forall_mem_cons]
      exact and_congr_right fun hname => ih hroot' (hstep.mpr hname)

/-- A path can be resolved if and only if every name of it can be asked about. -/
theorem resolveFault?_eq_none_iff (p : Path) :
    p.resolveFault? = none ↔ ∀ n ∈ p.parts, IsPassable n := by
  refine faultAlong?_eq_none_iff ?_ (fun n hn => absurd hn List.not_mem_nil) p.parts
  show IsPassable (if p.isAbsolute then "/" else "")
  split <;> decide

theorem isPassable_iff_of_ofString {s : String} :
    IsPassable s ↔ ∀ n ∈ (ofString s).parts, IsPassable n := by
  constructor
  · intro h n hn
    obtain ⟨piece, hpiece, rfl⟩ := List.mem_map.mp (List.mem_filter.mp hn).1
    refine h.of_subset fun c hc => ?_
    rw [String.toList_ofList] at hc
    exact mem_of_mem_splitSlashes hpiece hc
  · intro h c hc
    by_cases hslash : c = '/'
    · rw [hslash]
      decide
    · -- what is no slash is in a piece, and the pieces that are dropped are passable
      rw [← intercalate_splitSlashes s.toList] at hc
      obtain ⟨piece, hpiece, hc⟩ := (mem_intercalate_slash hslash).mp hc
      have hpart : String.ofList piece ∈ names s := List.mem_map_of_mem hpiece
      have hpassable : IsPassable (String.ofList piece) := by
        by_cases hdropped : String.ofList piece = "" ∨ String.ofList piece = "."
        · rcases hdropped with heq | heq <;> rw [heq] <;> decide
        · rw [not_or] at hdropped
          exact h _ (List.mem_filter.mpr ⟨hpart, decide_eq_true hdropped⟩)
      exact hpassable c (by rwa [String.toList_ofList])

/-- A path below another can be resolved, together with the other, if and only if the names of both
can be asked about. -/
theorem resolveFault?_join_eq_none_iff (p q : Path) :
    (p.join q).resolveFault?.or p.resolveFault? = none ↔
      (∀ n ∈ p.parts, IsPassable n) ∧ ∀ n ∈ q.parts, IsPassable n := by
  rw [Option.or_eq_none_iff, resolveFault?_eq_none_iff, resolveFault?_eq_none_iff, join]
  split
  · exact and_comm
  · rw [List.forall_mem_append, and_assoc, and_comm (a := ∀ n ∈ q.parts, _), ← and_assoc, and_self]

end Path

namespace FileTree

/-! ### Lengths -/

theorem toList_text_pathTo (place : Place) :
    (pathTo place).text.toList = '/' :: ("/".intercalate place).toList := by
  have hroot : ¬ ((pathTo place).root = "" ∧ (pathTo place).parts.isEmpty) := fun h =>
    absurd h.1 (by decide : "/" ≠ "")
  have hslash : "/".toList = ['/'] := by decide
  rw [Path.text, if_neg hroot, String.toList_append, pathTo, hslash, List.singleton_append]

theorem intercalate_isPrefix (place more : List String) :
    ("/".intercalate place).toList <+: ("/".intercalate (place ++ more)).toList := by
  rw [String.toList_intercalate, String.toList_intercalate]
  induction place with
  | nil => exact List.nil_prefix
  | cons name place ih =>
      cases place with
      | nil =>
          cases more with
          | nil => exact List.prefix_rfl
          | cons next more =>
              rw [List.singleton_append, List.map_cons, List.map_nil, List.map_cons, List.map_cons,
                List.intercalate_cons_cons, List.intercalate_singleton, List.append_assoc]
              exact List.prefix_append _ _
      | cons next place =>
          rw [List.cons_append] at ih
          rw [List.cons_append, List.cons_append, List.map_cons, List.map_cons, List.map_cons,
            List.map_cons, List.intercalate_cons_cons, List.intercalate_cons_cons,
            ← List.map_cons, ← List.map_cons]
          exact (List.prefix_append_right_inj _).mpr ih

theorem size_pathTo_le {q place : Place} (h : q <+: place) :
    (pathTo q).size ≤ (pathTo place).size := by
  obtain ⟨more, rfl⟩ := h
  obtain ⟨rest, hrest⟩ := intercalate_isPrefix q more
  rw [Path.size, Path.size, toList_text_pathTo, toList_text_pathTo, ← hrest, ← List.cons_append,
    Text.Utf8.nameOctets_append, List.length_append]
  exact Nat.le_add_right _ _

theorem size_pathTo_cons (name : String) {place : Place} (h : place ≠ []) :
    (pathTo (name :: place)).size = 1 + nameSize name + (pathTo place).size := by
  obtain ⟨next, more, rfl⟩ := List.exists_cons_of_ne_nil h
  have hslash : "/".toList = ['/'] := by decide
  have hchars : (pathTo (name :: next :: more)).text.toList =
      '/' :: name.toList ++ (pathTo (next :: more)).text.toList := by
    rw [toList_text_pathTo, toList_text_pathTo, String.toList_intercalate,
      String.toList_intercalate, List.map_cons, List.map_cons, List.intercalate_cons_cons, hslash]
    simp
  have hone : (nameOctets ['/']).length = 1 := by decide
  rw [Path.size, hchars, ← List.singleton_append, Text.Utf8.nameOctets_append,
    Text.Utf8.nameOctets_append, List.length_append, List.length_append, hone]
  rfl

theorem size_pathTo_singleton (name : String) : (pathTo [name]).size = 1 + nameSize name := by
  have hone : (nameOctets ['/']).length = 1 := by decide
  rw [Path.size, toList_text_pathTo, String.intercalate_singleton, ← List.singleton_append,
    Text.Utf8.nameOctets_append, List.length_append, hone]
  rfl

end FileTree

end Formwork
