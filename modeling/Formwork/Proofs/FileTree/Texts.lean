import Formwork.Proofs.FileTree.Paths

/-!
Paths are read back from their texts. A path that was read has names that are neither empty nor a
single dot and hold no slash, so that its text has just these names and the same root.
-/

namespace Formwork.Path

theorem not_mem_of_mem_splitSlashes {cs piece : List Char} (h : piece ∈ splitSlashes cs) :
    '/' ∉ piece := by
  induction cs generalizing piece with
  | nil =>
      rw [List.mem_singleton.mp h]
      exact List.not_mem_nil
  | cons c cs ih =>
      by_cases hc : c = '/'
      · rw [hc, splitSlashes_slash] at h
        rcases List.mem_cons.mp h with rfl | h
        · exact List.not_mem_nil
        · exact ih h
      · cases hpieces : splitSlashes cs with
        | nil => exact absurd hpieces (splitSlashes_ne_nil cs)
        | cons first more =>
            rw [hpieces] at ih
            rw [splitSlashes_other hc hpieces] at h
            rcases List.mem_cons.mp h with rfl | h
            · exact List.not_mem_cons_of_ne_of_not_mem (Ne.symm hc) (ih List.mem_cons_self)
            · exact ih (List.mem_cons_of_mem first h)

theorem splitSlashes_intercalate {piece : List Char} {more : List (List Char)}
    (h : ∀ p ∈ piece :: more, '/' ∉ p) :
    splitSlashes (['/'].intercalate (piece :: more)) = piece :: more := by
  induction more generalizing piece with
  | nil =>
      rw [List.intercalate_singleton]
      exact splitSlashes_of_not_mem (h piece List.mem_cons_self)
  | cons next more ih =>
      rw [List.intercalate_cons_cons, List.append_assoc, List.singleton_append,
        splitSlashes_append_slash, splitSlashes_of_not_mem (h piece List.mem_cons_self),
        ih fun p hp => h p (List.mem_cons_of_mem piece hp)]
      rfl

/-- A name of a path: it is neither empty nor a single dot, and holds no slash. -/
def IsPart (part : String) : Prop := (part ≠ "" ∧ part ≠ ".") ∧ '/' ∉ part.toList

theorem isPart_of_mem_ofString {s part : String} (h : part ∈ (ofString s).parts) : IsPart part := by
  obtain ⟨hmem, hkept⟩ := List.mem_filter.mp h
  obtain ⟨piece, hpiece, rfl⟩ := List.mem_map.mp hmem
  refine ⟨of_decide_eq_true hkept, ?_⟩
  rw [String.toList_ofList]
  exact not_mem_of_mem_splitSlashes hpiece

theorem rootOf_cases (cs : List Char) : rootOf cs = "" ∨ rootOf cs = "/" ∨ rootOf cs = "//" := by
  rw [rootOf.eq_def]
  split
  case h_2 => split <;> simp
  all_goals simp

def kept (cs : List Char) : List String :=
  ((splitSlashes cs).map String.ofList).filter fun part => part ≠ "" ∧ part ≠ "."

theorem kept_slash (cs : List Char) : kept ('/' :: cs) = kept cs := by
  rw [kept, splitSlashes_slash, List.map_cons, List.filter_cons_of_neg (by decide)]
  rfl

section

variable {parts : List String} (h : ∀ part ∈ parts, IsPart part)

include h

theorem kept_intercalate : kept ("/".intercalate parts).toList = parts := by
  cases parts with
  | nil => rfl
  | cons part parts =>
      have hpieces : ∀ p ∈ (part :: parts).map String.toList, '/' ∉ p :=
        List.forall_mem_map.mpr fun p hp => (h p hp).2
      have hread : ((part :: parts).map String.toList).map String.ofList = part :: parts := by
        simp
      rw [kept, String.toList_intercalate, List.map_cons]
      show ((splitSlashes (['/'].intercalate (part.toList :: parts.map String.toList))).map
        String.ofList).filter _ = _
      rw [splitSlashes_intercalate hpieces, ← List.map_cons, hread]
      exact List.filter_eq_self.mpr fun p hp => decide_eq_true (h p hp).1

theorem head?_intercalate : ("/".intercalate parts).toList.head? ≠ some '/' := by
  cases parts with
  | nil => decide
  | cons part parts =>
      obtain ⟨⟨hempty, -⟩, hslash⟩ := h part List.mem_cons_self
      obtain ⟨c, cs, hc⟩ : ∃ c cs, part.toList = c :: cs :=
        List.exists_cons_of_ne_nil fun hnil => hempty (String.toList_injective hnil)
      rw [String.toList_intercalate, List.map_cons, hc]
      have hne : c ≠ '/' := fun heq => hslash (hc ▸ heq ▸ List.mem_cons_self)
      cases parts <;> simpa [List.intercalate] using hne

end

theorem rootOf_append {cs inner : List Char} (hinner : inner.head? ≠ some '/') :
    rootOf ((rootOf cs).toList ++ inner) = rootOf cs := by
  cases inner with
  | nil => rcases rootOf_cases cs with h | h | h <;> rw [h] <;> rfl
  | cons c inner =>
      have hc : c ≠ '/' := fun heq => hinner (congrArg some heq)
      rcases rootOf_cases cs with h | h | h <;> rw [h]
      · exact rootOf_other hc inner
      · simp [rootOf, hc]
      · simp [rootOf, hc]

theorem kept_append (cs inner : List Char) : kept ((rootOf cs).toList ++ inner) = kept inner := by
  rcases rootOf_cases cs with h | h | h <;> rw [h]
  · rfl
  · exact kept_slash inner
  · exact (kept_slash ('/' :: inner)).trans (kept_slash inner)

theorem ofString_text (s : String) : ofString (ofString s).text = ofString s := by
  have hparts : ∀ part ∈ (ofString s).parts, IsPart part := fun part => isPart_of_mem_ofString
  rw [text]
  split
  case isTrue hempty =>
    have hnil : (ofString s).parts = [] := List.isEmpty_iff.mp hempty.2
    exact congrArg₂ Path.mk hempty.1.symm hnil.symm
  case isFalse =>
    have hchars : ((ofString s).root ++ "/".intercalate (ofString s).parts).toList =
        (rootOf s.toList).toList ++ ("/".intercalate (ofString s).parts).toList :=
      String.toList_append
    refine congrArg₂ Path.mk ?_ ?_
    · rw [hchars]
      exact rootOf_append (head?_intercalate hparts)
    · show kept _ = _
      rw [hchars, kept_append, kept_intercalate hparts]
      rfl

end Formwork.Path
