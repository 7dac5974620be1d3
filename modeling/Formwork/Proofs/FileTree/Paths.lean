import Formwork.FileTree.Path
import Mathlib.Data.List.Infix

/-!
Paths as texts and as names. Slashes part a text into its names, and the text is the names with
slashes between them, so that texts with the same names are the same. Names without double dots
lead downwards from wherever they are looked at. A path resolves to where its text leads when the
names are followed one by one.
-/

namespace Formwork.Path

/-! ### Pieces between slashes -/

theorem splitSlashes_ne_nil (cs : List Char) : splitSlashes cs ≠ [] := by
  fun_induction splitSlashes cs <;> simp

theorem splitSlashes_slash (cs : List Char) : splitSlashes ('/' :: cs) = [] :: splitSlashes cs := by
  rw [splitSlashes, if_pos rfl]

theorem splitSlashes_other {c : Char} (h : c ≠ '/') {cs piece : List Char}
    {more : List (List Char)} (hcs : splitSlashes cs = piece :: more) :
    splitSlashes (c :: cs) = (c :: piece) :: more := by
  rw [splitSlashes, if_neg h, hcs]

theorem splitSlashes_append_slash (as bs : List Char) :
    splitSlashes (as ++ '/' :: bs) = splitSlashes as ++ splitSlashes bs := by
  induction as with
  | nil => exact splitSlashes_slash bs
  | cons a as ih =>
      rw [List.cons_append]
      by_cases ha : a = '/'
      · rw [ha, splitSlashes_slash, splitSlashes_slash, ih, List.cons_append]
      · cases hpieces : splitSlashes as with
        | nil => exact absurd hpieces (splitSlashes_ne_nil as)
        | cons piece more =>
            rw [splitSlashes_other ha hpieces]
            rw [hpieces, List.cons_append] at ih
            rw [splitSlashes_other ha ih, List.cons_append]

theorem splitSlashes_of_not_mem {cs : List Char} (h : '/' ∉ cs) : splitSlashes cs = [cs] := by
  induction cs with
  | nil => rfl
  | cons c cs ih =>
      rw [List.mem_cons, not_or] at h
      exact splitSlashes_other (Ne.symm h.1) (ih h.2)

/-- A text without slashes that is added goes to the last piece. -/
theorem splitSlashes_append {as bs : List Char} (h : '/' ∉ bs) {front : List (List Char)}
    {last : List Char} (has : splitSlashes as = front ++ [last]) :
    splitSlashes (as ++ bs) = front ++ [last ++ bs] := by
  induction as generalizing front last with
  | nil =>
      have hfront : front = [] ∧ last = [] := by
        have hnil : [[]] = front ++ [last] := has
        cases front with
        | nil => exact ⟨rfl, by simpa using hnil.symm⟩
        | cons piece more => simp at hnil
      rw [hfront.1, hfront.2]
      exact splitSlashes_of_not_mem h
  | cons a as ih =>
      rw [List.cons_append]
      by_cases ha : a = '/'
      · rw [ha, splitSlashes_slash] at has
        rw [ha, splitSlashes_slash]
        cases front with
        | nil => exact absurd (List.cons.inj has).2 (splitSlashes_ne_nil as)
        | cons piece more =>
            obtain ⟨rfl, hrest⟩ := List.cons.inj has
            rw [ih hrest, List.cons_append]
      · cases hpieces : splitSlashes as with
        | nil => exact absurd hpieces (splitSlashes_ne_nil as)
        | cons piece more =>
            rw [splitSlashes_other ha hpieces] at has
            cases front with
            | nil =>
                obtain ⟨rfl, rfl⟩ := List.cons.inj has
                exact splitSlashes_other ha (ih (show splitSlashes as = [] ++ _ from hpieces))
            | cons piece' more' =>
                obtain ⟨rfl, rfl⟩ := List.cons.inj has
                exact splitSlashes_other ha
                  (ih (show splitSlashes as = (piece :: more') ++ _ from hpieces))

theorem intercalate_splitSlashes (cs : List Char) : ['/'].intercalate (splitSlashes cs) = cs := by
  induction cs with
  | nil => rfl
  | cons c cs ih =>
      cases hpieces : splitSlashes cs with
      | nil => exact absurd hpieces (splitSlashes_ne_nil cs)
      | cons piece more =>
          rw [hpieces] at ih
          by_cases hc : c = '/'
          · rw [hc, splitSlashes_slash, hpieces, ← ih]
            simp [List.intercalate]
          · rw [splitSlashes_other hc hpieces, ← ih]
            cases more <;> simp [List.intercalate]

theorem mem_of_mem_splitSlashes {cs piece : List Char} (h : piece ∈ splitSlashes cs) {c : Char}
    (hc : c ∈ piece) : c ∈ cs := by
  induction cs generalizing piece with
  | nil =>
      rw [List.mem_singleton.mp h] at hc
      exact hc
  | cons d cs ih =>
      by_cases hd : d = '/'
      · rw [hd, splitSlashes_slash] at h
        rcases List.mem_cons.mp h with rfl | h
        · exact absurd hc List.not_mem_nil
        · exact List.mem_cons_of_mem d (ih h hc)
      · cases hpieces : splitSlashes cs with
        | nil => exact absurd hpieces (splitSlashes_ne_nil cs)
        | cons first more =>
            rw [hpieces] at ih
            rw [splitSlashes_other hd hpieces] at h
            rcases List.mem_cons.mp h with rfl | h
            · rcases List.mem_cons.mp hc with rfl | hc
              · exact List.mem_cons_self
              · exact List.mem_cons_of_mem d (ih List.mem_cons_self hc)
            · exact List.mem_cons_of_mem d (ih (List.mem_cons_of_mem first h) hc)

/-! ### Names -/

def names (s : String) : List String := (splitSlashes s.toList).map String.ofList

theorem names_ne_nil (s : String) : names s ≠ [] := by
  rw [names, ne_eq, List.map_eq_nil_iff]
  exact splitSlashes_ne_nil s.toList

theorem names_injective {s t : String} (h : names s = names t) : s = t := by
  have hpieces : splitSlashes s.toList = splitSlashes t.toList := by
    have := congrArg (List.map String.toList) h
    simpa [names, Function.comp_def] using this
  have hchars : s.toList = t.toList := by
    rw [← intercalate_splitSlashes s.toList, hpieces, intercalate_splitSlashes]
  exact String.toList_injective hchars

theorem names_append_slash (s t : String) : names (s ++ "/" ++ t) = names s ++ names t := by
  have hchars : (s ++ "/" ++ t).toList = s.toList ++ '/' :: t.toList := by
    simp [String.toList_append]
  rw [names, hchars, splitSlashes_append_slash, List.map_append]
  rfl

/-- A text without slashes that is added goes to the last name. -/
theorem names_append {s t : String} (h : '/' ∉ t.toList) {front : List String} {last : String}
    (hs : names s = front ++ [last]) : names (s ++ t) = front ++ [last ++ t] := by
  have hpieces : splitSlashes s.toList = front.map String.toList ++ [last.toList] := by
    have := congrArg (List.map String.toList) hs
    simpa [names, Function.comp_def] using this
  rw [names, String.toList_append, splitSlashes_append h hpieces]
  simp [Function.comp_def]

theorem parts_ofString (s : String) :
    (ofString s).parts = (names s).filter fun part => part ≠ "" ∧ part ≠ "." := rfl

/-! ### Where paths lead -/

theorem normalize_of_not_mem (above parts : List String) (h : ".." ∉ parts) :
    normalize above parts = above.reverse ++ parts := by
  induction parts generalizing above with
  | nil => rw [normalize, List.append_nil]
  | cons part parts ih =>
      rw [List.mem_cons, not_or] at h
      rw [normalize, if_neg (Ne.symm h.1), ih (part :: above) h.2]
      simp

theorem not_mem_normalize {above : List String} (h : ".." ∉ above) (parts : List String) :
    ".." ∉ normalize above parts := by
  induction parts generalizing above with
  | nil => simpa [normalize] using h
  | cons part parts ih =>
      rw [normalize]
      split
      · exact ih fun hmem => h (List.mem_of_mem_tail hmem)
      · next hpart =>
        exact ih fun hmem => (List.mem_cons.mp hmem).elim (fun heq => hpart heq.symm) h

theorem mem_of_mem_normalize {above parts : List String} {name : String}
    (h : name ∈ normalize above parts) : name ∈ above ∨ name ∈ parts := by
  induction parts generalizing above with
  | nil => exact .inl (by simpa [normalize] using h)
  | cons part parts ih =>
      rw [normalize] at h
      split at h
      · exact (ih h).imp List.mem_of_mem_tail (List.mem_cons_of_mem part)
      · rcases ih h with habove | hparts
        · rcases List.mem_cons.mp habove with rfl | habove
          · exact .inr List.mem_cons_self
          · exact .inl habove
        · exact .inr (List.mem_cons_of_mem part hparts)

theorem normalize_append (above parts more : List String) :
    normalize above (parts ++ more) = normalize (normalize above parts).reverse more := by
  induction parts generalizing above with
  | nil => rw [List.nil_append, normalize, List.reverse_reverse]
  | cons part parts ih =>
      rw [List.cons_append, normalize, normalize]
      split
      · exact ih above.tail
      · exact ih (part :: above)

theorem resolve_join {current : List String} {root p : Path} (hp : p.isAbsolute = false)
    (h : ".." ∉ p.parts) : (root.join p).resolve current = root.resolve current ++ p.parts := by
  have hjoin : root.join p = { root with parts := root.parts ++ p.parts } := by
    rw [join, hp]
    rfl
  have habsolute : ({ root with parts := root.parts ++ p.parts } : Path).isAbsolute =
      root.isAbsolute := rfl
  rw [hjoin, resolve, resolve, habsolute]
  cases root.isAbsolute with
  | true =>
      rw [if_pos rfl, if_pos rfl, normalize_append, normalize_of_not_mem _ _ h,
        List.reverse_reverse]
  | false =>
      rw [if_neg Bool.false_ne_true, if_neg Bool.false_ne_true, normalize_append,
        normalize_of_not_mem _ _ h, List.reverse_reverse]

/-! ### Names followed one by one -/

/-- Where a name leads from a place. An empty name and a single dot stay there, and a double dot
goes up. -/
def enter (place : List String) (name : String) : List String :=
  if name = "" ∨ name = "." then place
  else if name = ".." then place.dropLast
  else place ++ [name]

/-- Where a text leads from a place, one name after the other. A slash at its start leads to the
root of the tree first. -/
def follow (place : List String) (text : String) : List String :=
  (names text).foldl enter (if text.toList.head? = some '/' then [] else place)

theorem rootOf_slash (rest : List Char) : rootOf ('/' :: rest) ≠ "" := by
  rw [rootOf.eq_def]
  split
  case h_2 => split <;> decide
  case h_4 hnone => exact absurd rfl (hnone rest)
  all_goals decide

theorem rootOf_other {c : Char} (h : c ≠ '/') (rest : List Char) : rootOf (c :: rest) = "" := by
  rw [rootOf.eq_def]
  split <;> simp_all

theorem isAbsolute_ofString (s : String) :
    (ofString s).isAbsolute = true ↔ s.toList.head? = some '/' := by
  have habsolute : (ofString s).isAbsolute = (rootOf s.toList != "") := rfl
  rw [habsolute, bne_iff_ne]
  cases s.toList with
  | nil => decide
  | cons c rest =>
      by_cases hc : c = '/'
      · rw [hc]
        exact iff_of_true (rootOf_slash rest) rfl
      · exact iff_of_false (not_not.mpr (rootOf_other hc rest)) (by simpa using hc)

theorem follow_of_isAbsolute {s : String} (h : (ofString s).isAbsolute = true)
    (place : List String) : follow place s = (names s).foldl enter [] := by
  rw [follow, if_pos ((isAbsolute_ofString s).mp h)]

theorem follow_of_not_isAbsolute {s : String} (h : ¬ (ofString s).isAbsolute = true)
    (place : List String) : follow place s = (names s).foldl enter place := by
  rw [follow, if_neg (mt (isAbsolute_ofString s).mpr h)]

theorem normalize_filter (above names : List String) :
    normalize above (names.filter fun part => part ≠ "" ∧ part ≠ ".") =
      names.foldl enter above.reverse := by
  induction names generalizing above with
  | nil => rfl
  | cons name names ih =>
      rw [List.foldl_cons, List.filter_cons]
      by_cases hstay : name = "" ∨ name = "."
      · have hdropped : decide (name ≠ "" ∧ name ≠ ".") = false := by
          rw [decide_eq_false_iff_not, ← not_or, not_not]
          exact hstay
        rw [hdropped, if_neg Bool.false_ne_true, enter, if_pos hstay, ih]
      · have hkept : decide (name ≠ "" ∧ name ≠ ".") = true := by
          rw [decide_eq_true_iff, ← not_or]
          exact hstay
        rw [hkept, if_pos rfl, enter, if_neg hstay, normalize]
        split
        · rw [ih, List.dropLast_reverse]
        · rw [ih, List.reverse_cons]

theorem resolve_ofString (current : List String) (s : String) :
    (ofString s).resolve current = follow current s := by
  rw [resolve, parts_ofString, normalize_filter, normalize_filter, List.reverse_reverse]
  split
  case isTrue h => rw [follow_of_isAbsolute h, List.reverse_nil]
  case isFalse h => rw [follow_of_not_isAbsolute h]

theorem resolve_join_text (current : List String) (p : Path) (t : String) :
    (p.join (ofString t)).resolve current = follow (p.resolve current) t := by
  by_cases habsolute : (ofString t).isAbsolute = true
  · rw [join, if_pos habsolute, resolve_ofString, follow_of_isAbsolute habsolute,
      follow_of_isAbsolute habsolute]
  · have hjoin : p.join (ofString t) = { p with parts := p.parts ++ (ofString t).parts } := by
      rw [join, if_neg habsolute]
    have hroot : ({ p with parts := p.parts ++ (ofString t).parts } : Path).isAbsolute =
        p.isAbsolute := rfl
    have hbelow : (p.join (ofString t)).resolve current =
        normalize (p.resolve current).reverse (ofString t).parts := by
      rw [hjoin, resolve, resolve, hroot]
      split <;> exact normalize_append _ _ _
    rw [hbelow, parts_ofString, normalize_filter, List.reverse_reverse,
      follow_of_not_isAbsolute habsolute]

theorem resolve_join_ofString (current : List String) (s t : String) :
    ((ofString s).join (ofString t)).resolve current = follow (follow current s) t := by
  rw [resolve_join_text, resolve_ofString]

theorem isPrefix_follow (place : List String) {s : String} (hhead : s.toList.head? ≠ some '/')
    (hdown : ".." ∉ names s) : place <+: follow place s := by
  rw [follow, if_neg hhead]
  generalize names s = names at hdown
  induction names generalizing place with
  | nil => exact List.prefix_rfl
  | cons name names ih =>
      rw [List.mem_cons, not_or] at hdown
      have hentered : place <+: enter place name := by
        rw [enter, if_neg (Ne.symm hdown.1)]
        split
        · exact List.prefix_rfl
        · exact List.prefix_append place [name]
      rw [List.foldl_cons]
      exact hentered.trans (ih (enter place name) hdown.2)

end Formwork.Path
