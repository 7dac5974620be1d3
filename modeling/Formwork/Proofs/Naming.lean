import Formwork.Naming
import Formwork.Proofs.Text.Case

/-!
The forms of a name, taken again. The class form and the path form change nothing the second time.
The label form keeps the first character of each word and lowers the others. So it changes nothing
exactly if no word of the name begins with a character whose upper case has a capital letter behind
its first character, and the third time it never changes anything.
-/

namespace Formwork.Naming

/-! ### Class and path -/

theorem classChars_classChars (cs : List Char) : classChars (classChars cs) = classChars cs := by
  cases cs with
  | nil => rfl
  | cons c rest =>
      obtain ⟨u, us, hupper, hu⟩ := Text.exists_upperChar c
      calc classChars (Text.upperChar c ++ rest)
          = Text.upperChar u ++ (us ++ rest) := by rw [hupper]; rfl
        _ = Text.upperChar c ++ rest := by rw [hu, hupper]; rfl

theorem classForm_classForm (name : String) : classForm (classForm name) = classForm name := by
  rw [classForm, classForm, String.toList_ofList, classChars_classChars]

/-! ### Words -/

theorem words_eq_splitOn (cs : List Char) : words cs = cs.splitOn ' ' := by
  induction cs with
  | nil => rfl
  | cons c rest ih =>
      rw [words, List.splitOn_cons_eq_if_modifyHead, ih]
      by_cases hblank : c = ' '
      · rw [if_pos hblank, if_pos (beq_iff_eq.mpr hblank)]
      · rw [if_neg hblank, if_neg (by simpa using hblank)]
        obtain ⟨word, more, hsplit⟩ := List.exists_cons_of_ne_nil (List.splitOn_ne_nil ' ' rest)
        rw [hsplit]
        rfl

theorem blank_not_mem_of_mem_words {cs word : List Char} (h : word ∈ words cs) : ' ' ∉ word := by
  induction cs generalizing word with
  | nil =>
      rw [List.mem_singleton.mp h]
      exact List.not_mem_nil
  | cons c rest ih =>
      rw [words] at h
      split at h
      · rcases List.mem_cons.mp h with rfl | h
        · exact List.not_mem_nil
        · exact ih h
      · next hblank =>
        split at h
        · next first more hwords =>
          rcases List.mem_cons.mp h with rfl | h
          · have hfirst : ' ' ∉ first := ih (hwords ▸ List.mem_cons_self)
            exact List.not_mem_cons_of_ne_of_not_mem (Ne.symm hblank) hfirst
          · exact ih (hwords ▸ List.mem_cons_of_mem _ h)
        · rw [List.mem_singleton.mp h, List.mem_singleton]
          exact Ne.symm hblank

theorem blank_not_mem_labelWord {word : List Char} (h : ' ' ∉ word) : ' ' ∉ labelWord word := by
  cases word with
  | nil => exact h
  | cons c rest =>
      rw [List.mem_cons, not_or] at h
      rw [labelWord, List.mem_append, not_or]
      exact ⟨fun hupper => h.1 (Text.eq_blank_of_mem_upperChar hupper).symm,
        fun hlower => h.2 (Text.blank_mem_of_mem_lowerAfter hlower)⟩

theorem words_labelForm (name : String) :
    words (labelForm name).toList = (words name.toList).map labelWord := by
  rw [labelForm, String.toList_ofList, words_eq_splitOn]
  refine List.splitOn_intercalate ' ' ?_ ?_
  · intro formed hformed
    obtain ⟨word, hword, rfl⟩ := List.mem_map.mp hformed
    exact blank_not_mem_labelWord (blank_not_mem_of_mem_words hword)
  · rw [words_eq_splitOn, Ne, List.map_eq_nil_iff]
    exact List.splitOn_ne_nil ' ' _

theorem labelForm_eq_iff {name other : String} :
    labelForm name = labelForm other ↔
      (words name.toList).map labelWord = (words other.toList).map labelWord := by
  refine ⟨fun h => ?_, fun h => by rw [labelForm, h, labelForm]⟩
  rw [← words_labelForm, h, words_labelForm]

/-! ### Labels -/

/-- A word put in form is left as it is exactly if its first character does not spread. -/
theorem labelWord_labelWord_iff (word : List Char) :
    labelWord (labelWord word) = labelWord word ↔ ∀ c ∈ word.head?, Text.spreads c = false := by
  cases word with
  | nil => simp [labelWord]
  | cons c rest =>
      obtain ⟨u, us, hupper, hu⟩ := Text.exists_upperChar c
      have hword : labelWord (c :: rest) = u :: (us ++ Text.lowerChars rest) := by
        rw [labelWord, hupper]
        rfl
      have hagain : labelWord (labelWord (c :: rest)) =
          u :: Text.lowerChars (us ++ Text.lowerChars rest) := by
        rw [hword, labelWord, hu]
        rfl
      have hrest : ∀ x ∈ Text.lowerChars rest, Text.lowerChar x = [x] :=
        fun _ hx => Text.lowerChar_of_mem_lowerAfter hx
      -- behind the first character stand the rest of its upper case, lowered only now, and a text
      -- that is in lower case already
      have hspread : Text.spreads c = false ↔ ∀ x ∈ us, Text.lowerChar x = [x] := by
        rw [← Bool.not_eq_true, Text.spreads_iff, hupper]
        simp
      rw [hagain, hword, List.cons.injEq, and_iff_right rfl, Text.lowerChars_eq_self_iff,
        List.forall_mem_append, and_iff_left hrest, ← hspread]
      simp

/-- A word in form begins with a character that is its own upper case, so that nothing spreads. -/
theorem not_spreads_of_mem_head_labelWord {word : List Char} {c : Char}
    (h : c ∈ (labelWord word).head?) : Text.spreads c = false := by
  cases word with
  | nil => cases h
  | cons first rest =>
      obtain ⟨u, us, hupper, hu⟩ := Text.exists_upperChar first
      rw [labelWord, hupper] at h
      obtain rfl : u = c := Option.some.inj h
      rw [← Bool.not_eq_true, Text.spreads_iff, hu]
      simp

theorem labelForm_labelForm_iff (name : String) :
    labelForm (labelForm name) = labelForm name ↔
      ∀ word ∈ words name.toList, ∀ c ∈ word.head?, Text.spreads c = false := by
  rw [labelForm_eq_iff, words_labelForm, List.map_map, List.map_inj_left]
  exact forall₂_congr fun word _ => labelWord_labelWord_iff word

theorem labelForm_thrice (name : String) :
    labelForm (labelForm (labelForm name)) = labelForm (labelForm name) := by
  rw [labelForm_labelForm_iff, words_labelForm]
  intro formed hformed c hc
  obtain ⟨word, -, rfl⟩ := List.mem_map.mp hformed
  exact not_spreads_of_mem_head_labelWord hc

/-- The forms of any name, taken again: class form and path form are left as they are, a label form
exactly if no word of the name begins with a character that spreads, and the label form of a label
form always. -/
theorem forms_again (name : String) :
    classForm (classForm name) = classForm name ∧
      pathForm (pathForm name) = pathForm name ∧
      (labelForm (labelForm name) = labelForm name ↔
        ∀ word ∈ words name.toList, ∀ c ∈ word.head?, Text.spreads c = false) ∧
      labelForm (labelForm (labelForm name)) = labelForm (labelForm name) :=
  ⟨classForm_classForm name, Text.lower_lower name, labelForm_labelForm_iff name,
    labelForm_thrice name⟩

example : labelForm "ﬁeld" = "FIeld" ∧ labelForm "FIeld" = "Field" := by decide

end Formwork.Naming
