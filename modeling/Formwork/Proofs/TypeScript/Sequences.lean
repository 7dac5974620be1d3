import Mathlib.Data.List.Basic
import Mathlib.Data.List.TakeWhile

/-!
Items in a sequence: the elements of a list, the properties of an object. They stand between
brackets, with commas between them and with space around them that says nothing. A sequence is read
item by item, so it is read as far as its items are: items that are well written give the values
that were written, and the first one that is not decides what becomes of the rest.
-/

namespace Formwork.TypeScript

/-! ### Space -/

def isSpace (c : Char) : Bool := c = ' ' || c = '\t' || c = '\n' || c = '\r'

def skipSpace (cs : List Char) : List Char := cs.dropWhile isSpace

theorem skipSpace_cons {c : Char} (h : isSpace c = true) (cs : List Char) :
    skipSpace (c :: cs) = skipSpace cs :=
  List.dropWhile_cons_of_pos h

theorem skipSpace_of_not_isSpace {c : Char} (h : isSpace c = false) (cs : List Char) :
    skipSpace (c :: cs) = c :: cs :=
  List.dropWhile_cons_of_neg (by simp [h])

/-! ### Sequences -/

section

variable {α ι : Type} (readItem : List Char → Option (α × List Char)) (close : Char)

/-- The items up to the closing bracket, at most `fuel` of them, and what follows it. -/
def readSequence : (fuel : Nat) → List Char → Option (List α × List Char)
  | 0, _ => none
  | fuel + 1, cs =>
    (readItem (skipSpace cs)).bind fun first =>
      match skipSpace first.2 with
      | c :: rest =>
        if c = ',' then
          (readSequence fuel rest).map fun more => (first.1 :: more.1, more.2)
        else if c = close then some ([first.1], rest)
        else none
      | [] => none

def sequence (space : Char) (ending : List Char) (texts : List (List Char)) : List Char :=
  [',', space].intercalate texts ++ ending

theorem sequence_singleton (space : Char) (ending text : List Char) :
    sequence space ending [text] = text ++ ending := by
  simp [sequence]

theorem sequence_cons_cons (space : Char) (ending text next : List Char)
    (texts : List (List Char)) :
    sequence space ending (text :: next :: texts) =
      text ++ ',' :: space :: sequence space ending (next :: texts) := by
  simp [sequence, List.intercalate_cons_cons]

/-- What follows an item: the end of the sequence, or a comma and the next item. -/
def Follows (space : Char) (ending next : List Char) : Prop :=
  next = ending ∨ ∃ more, next = ',' :: space :: more

def ReadAs (text : List Char) (value : α) (next : List Char) : Prop :=
  ∃ left, readItem (skipSpace (text ++ next)) = some (value, left) ∧
    skipSpace left = skipSpace next

theorem length_le_sequence (space : Char) {ending : List Char} (hne : ending ≠ [])
    (texts : List (List Char)) : texts.length ≤ (sequence space ending texts).length := by
  have hpos : 1 ≤ ending.length := List.length_pos_iff.mpr hne
  induction texts with
  | nil => exact Nat.zero_le _
  | cons text texts ih =>
      cases texts with
      | nil =>
          rw [sequence_singleton, List.length_append, List.length_singleton]
          omega
      | cons more texts =>
          rw [sequence_cons_cons]
          simp only [List.length_append, List.length_cons] at ih ⊢
          omega

variable {readItem close} {space : Char} {ending rest : List Char}

theorem sequence_cons (hspace : isSpace space = true) (hend : skipSpace ending = close :: rest)
    (text : List Char) (texts : List (List Char)) :
    ∃ next, Follows space ending next ∧
      sequence space ending (text :: texts) = text ++ next ∧
      ((texts = [] ∧ skipSpace next = close :: rest) ∨
        (texts ≠ [] ∧ ∃ cs, skipSpace next = ',' :: cs ∧
          skipSpace cs = skipSpace (sequence space ending texts))) := by
  cases texts with
  | nil => exact ⟨ending, .inl rfl, sequence_singleton _ _ _, .inl ⟨rfl, hend⟩⟩
  | cons more texts =>
      exact ⟨_, .inr ⟨sequence space ending (more :: texts), rfl⟩, sequence_cons_cons _ _ _ _ _,
        .inr ⟨List.cons_ne_nil more texts, _, skipSpace_of_not_isSpace (by decide) _,
          skipSpace_cons hspace _⟩⟩

theorem readSequence_sequence {print : ι → List Char} (value : ι → α) {items : List ι}
    (hspace : isSpace space = true) (hend : skipSpace ending = close :: rest)
    (hclose : close ≠ ',') (hne : items ≠ [])
    (hitems : ∀ i ∈ items, ∀ next, Follows space ending next →
      ReadAs readItem (print i) (value i) next)
    {fuel : Nat} (hfuel : items.length ≤ fuel) {cs : List Char}
    (hcs : skipSpace cs = skipSpace (sequence space ending (items.map print))) :
    readSequence readItem close fuel cs = some (items.map value, rest) := by
  induction items generalizing fuel cs with
  | nil => exact absurd rfl hne
  | cons i items ih =>
      obtain ⟨fuel, rfl⟩ : ∃ n, fuel = n + 1 :=
        Nat.exists_eq_add_one.mpr (Nat.lt_of_lt_of_le (Nat.succ_pos _) hfuel)
      obtain ⟨next, hnext, heq, hmore⟩ := sequence_cons hspace hend (print i) (items.map print)
      obtain ⟨left, hread, hleft⟩ := hitems i List.mem_cons_self next hnext
      rw [List.map_cons, heq] at hcs
      rw [readSequence, hcs, hread, Option.bind_some]
      simp only [hleft]
      rcases hmore with ⟨hnil, hbracket⟩ | ⟨hcons, cs', hcomma, hrest⟩
      · obtain rfl : items = [] := List.map_eq_nil_iff.mp hnil
        simp only [hbracket, if_neg hclose, if_pos, List.map_cons, List.map_nil]
      · simp only [hcomma, if_pos]
        rw [ih (fun h => hcons (List.map_eq_nil_iff.mpr h))
          (fun j hj => hitems j (List.mem_cons_of_mem i hj)) (Nat.le_of_succ_le_succ hfuel) hrest]
        rfl

theorem exists_of_readSequence {fuel : Nat} {cs left : List Char} {values : List α}
    (h : readSequence readItem close fuel cs = some (values, left)) :
    ∃ fuel' value mid more, fuel = fuel' + 1 ∧ readItem (skipSpace cs) = some (value, mid) ∧
      values = value :: more ∧
      ∀ cs', skipSpace mid = ',' :: cs' →
        readSequence readItem close fuel' cs' = some (more, left) := by
  cases fuel with
  | zero => cases h
  | succ fuel =>
      obtain ⟨⟨value, mid⟩, hread, hvalues⟩ := Option.bind_eq_some_iff.mp h
      simp only at hvalues
      split at hvalues
      case h_2 => cases hvalues
      case h_1 c cs' hmid =>
        split at hvalues
        case isTrue hcomma =>
          obtain ⟨⟨more, left'⟩, hmore, heq⟩ := Option.map_eq_some_iff.mp hvalues
          cases heq
          refine ⟨fuel, value, mid, more, rfl, hread, rfl, fun cs'' hcs'' => ?_⟩
          obtain rfl := (List.cons.inj (hmid.symm.trans hcs'')).2
          exact hmore
        case isFalse hcomma =>
          split at hvalues
          · cases hvalues
            refine ⟨fuel, value, mid, [], rfl, hread, rfl, fun cs'' hcs'' => ?_⟩
            exact absurd (List.cons.inj (hmid.symm.trans hcs'')).1 hcomma
          · cases hvalues

/-- Where a sequence is read and its good items are read as their values, either all items are good,
or the values come to an end with what the first bad item was read as. -/
theorem good_of_readSequence {print : ι → List Char} (value : ι → α) (Good : ι → Prop)
    {items : List ι} (hspace : isSpace space = true) (hend : skipSpace ending = close :: rest)
    (hitems : ∀ i ∈ items, Good i → ∀ next, Follows space ending next →
      ReadAs readItem (print i) (value i) next)
    {fuel : Nat} {cs left : List Char} {values : List α}
    (hcs : skipSpace cs = skipSpace (sequence space ending (items.map print)))
    (h : readSequence readItem close fuel cs = some (values, left)) :
    (∀ i ∈ items, Good i) ∨
      ∃ front i back bad next mid more, items = front ++ i :: back ∧ ¬ Good i ∧
        values = front.map value ++ bad :: more ∧
        readItem (skipSpace (print i ++ next)) = some (bad, mid) := by
  induction items generalizing fuel cs left values with
  | nil => exact .inl fun i hi => absurd hi List.not_mem_nil
  | cons i items ih =>
      obtain ⟨next, hnext, heq, hmore⟩ := sequence_cons hspace hend (print i) (items.map print)
      obtain ⟨fuel, v, mid, more, rfl, hread, rfl, hrest⟩ := exists_of_readSequence h
      rw [hcs, List.map_cons, heq] at hread
      by_cases hgood : Good i
      case neg => exact .inr ⟨[], i, items, v, next, mid, more, rfl, hgood, rfl, hread⟩
      -- a good item is read to its end, so the others are read from their start
      obtain ⟨mid', hread', hmid⟩ := hitems i List.mem_cons_self hgood next hnext
      cases hread.symm.trans hread'
      rcases hmore with ⟨hnil, -⟩ | ⟨-, cs', hcomma, hcs'⟩
      · obtain rfl : items = [] := List.map_eq_nil_iff.mp hnil
        exact .inl (List.forall_mem_singleton.mpr hgood)
      rcases ih (fun j hj => hitems j (List.mem_cons_of_mem i hj)) hcs'
        (hrest cs' (hmid.trans hcomma)) with
        hall | ⟨front, j, back, bad, next', mid', more', hsplit, hbad, hvalues, hfault⟩
      · exact .inl (List.forall_mem_cons.mpr ⟨hgood, hall⟩)
      · exact .inr ⟨i :: front, j, back, bad, next', mid', more', by rw [hsplit]; rfl, hbad,
          by rw [hvalues]; rfl, hfault⟩

end

end Formwork.TypeScript
