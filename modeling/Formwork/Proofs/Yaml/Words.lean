import Formwork.Proofs.Outcome
import Formwork.Yaml.Decode

/-!
Long words in a flow collection. A word of small letters and digits is one plain scalar, however
long it is, and the tokenizer goes from its beginning to its end in one step. A word that is longer
than any key also leaves behind all places where a key may have begun, so that the tokens behind it
depend on its length alone.
-/

namespace Formwork.Yaml

/-- Whether a character is a digit or a small letter, and so belongs to the word it stands in. -/
def isWordChar (c : Char) : Bool :=
  (48 ≤ c.toNat && c.toNat ≤ 57) || (97 ≤ c.toNat && c.toNat ≤ 122)

section

variable {c : Char}

theorem ne_of_isWordChar (h : isWordChar c = true) (other : Char)
    (hother : isWordChar other = false) : c ≠ other := fun heq => by
  rw [heq, hother] at h
  exact absurd h (by decide)

theorem isWordChar_cases (h : isWordChar c = true) :
    isSpace c = false ∧ c ≠ ':' ∧ c ≠ '#' ∧ c ≠ '\uFEFF' ∧
      [',', '?', '[', ']', '\x7b', '\x7d'].contains c = false := by
  have hne := ne_of_isWordChar h
  refine ⟨?_, hne ':' rfl, hne '#' rfl, hne '\uFEFF' rfl, ?_⟩
  · simp [isSpace, isGap, isBreak, hne ' ' rfl, hne '\t' rfl, hne '\n' rfl, hne '\x85' rfl,
      hne '\u2028' rfl, hne '\u2029' rfl]
  · simp [hne ',' rfl, hne '?' rfl, hne '[' rfl, hne ']' rfl, hne '\x7b' rfl, hne '\x7d' rfl]

theorem isAllowed_of_isWordChar (h : isWordChar c = true) : isAllowed c = true := by
  have hbounds : 48 ≤ c.toNat ∧ c.toNat ≤ 122 := by
    simp only [isWordChar, Bool.or_eq_true, Bool.and_eq_true, decide_eq_true_eq] at h
    omega
  simp [isAllowed]
  omega

end

section

variable {word rest : List Char}

theorem plainLength_word (h : ∀ c ∈ word, isWordChar c = true) :
    plainLength true (word ++ ',' :: rest) = word.length := by
  induction word with
  | nil => rfl
  | cons c word ih =>
      obtain ⟨hspace, hcolon, -, -, hflow⟩ := isWordChar_cases (h c List.mem_cons_self)
      rw [List.cons_append, plainLength, ih fun d hd => h d (List.mem_cons_of_mem c hd)]
      simp only [hspace, hcolon, hflow, decide_false, Bool.false_and, Bool.and_false,
        Bool.false_eq_true, if_false, List.length_cons]

theorem skip_word (h : ∀ c ∈ word, isWordChar c = true) (index line column : Nat) :
    Cursor.skip ⟨word ++ rest, index, line, column⟩ word.length =
      ⟨rest, index + word.length, line, column + word.length⟩ := by
  induction word generalizing index column with
  | nil => rfl
  | cons c word ih =>
      obtain ⟨hspace, -, -, hmark, -⟩ := isWordChar_cases (h c List.mem_cons_self)
      have hbreak : isBreak c = false := (Bool.or_eq_false_iff.mp hspace).2
      have hnext : Cursor.next ⟨c :: word ++ rest, index, line, column⟩ =
          ⟨word ++ rest, index + 1, line, column + 1⟩ := by
        simp [Cursor.next, hbreak, hmark]
      rw [List.length_cons, Cursor.skip, hnext, ih fun d hd => h d (List.mem_cons_of_mem c hd),
        Nat.add_assoc, Nat.add_assoc, Nat.add_comm 1]

theorem plain_word (h : ∀ c ∈ word, isWordChar c = true) (hne : word ≠ []) (indent : Int)
    (index line column : Nat) :
    plain true indent ⟨word ++ ',' :: rest, index, line, column⟩ =
      (word, false, ⟨',' :: rest, index + word.length, line, column + word.length⟩) := by
  have hlength : word.length ≠ 0 := by simpa using hne
  have hpeek : Cursor.peek ⟨word ++ ',' :: rest, index, line, column⟩ ≠ some '#' := by
    obtain ⟨c, more, rfl⟩ := List.exists_cons_of_ne_nil hne
    obtain ⟨-, -, hcomment, -, -⟩ := isWordChar_cases (h c List.mem_cons_self)
    simpa [Cursor.peek] using hcomment
  rw [plain, plainFrom]
  simp only [plainLength_word h, hlength, hpeek, or_self, if_false, skip_word h]
  simp [plainGap, Cursor.span, Cursor.skip, Cursor.takeBreak?, isBreak]

end

/-! ### Steps of the tokenizer -/

namespace Tokenizer

variable {t t' : Tokenizer} {c : Char}

theorem run_succ (h : t.step = .ok t') (hfinished : t'.finished = false) (fuel : Nat) :
    run (fuel + 1) t = run fuel t' := by
  rw [run, h]
  simp [hfinished]

/-- The first character of a word begins a plain scalar. -/
theorem takeToken_wordChar (h : isWordChar c = true) (hcolumn : t.cursor.column ≠ 0) :
    t.takeToken c = t.takePlain := by
  have hne := ne_of_isWordChar h
  have hindicator : c ∉ indicators := fun hmem => by
    have hall : indicators.all (!isWordChar ·) = true := by decide
    exact hne c (by simpa using List.all_eq_true.mp hall c hmem) rfl
  have hstarts : t.startsPlain c = true := by
    simp [startsPlain, (isWordChar_cases h).1, hindicator]
  rw [takeToken]
  simp [hcolumn, hstarts, hne '[' rfl, hne '\x7b' rfl, hne ']' rfl, hne '\x7d' rfl, hne ',' rfl,
    hne '-' rfl, hne '?' rfl, hne ':' rfl, hne '*' rfl, hne '&' rfl, hne '!' rfl, hne '|' rfl,
    hne '>' rfl, hne '\'' rfl, hne '"' rfl]

/-- A place in the first line, behind the first key of a flow mapping. The brace of the mapping may
still turn out to begin a key. -/
def inMapping (rest : List Char) (index : Nat) (tokens : List Token) : Tokenizer where
  cursor := ⟨rest, index, 0, index⟩
  tokens := tokens
  slots := 2
  filled := [(1, [.key])]
  flowLevel := 1
  allowsKey := false
  keyPlaces := [(0, ⟨0, false, 0, 0, 0⟩)]

theorem skipSpace_word (h : isWordChar c = true) (rest : List Char) (index : Nat)
    (tokens : List Token) :
    (inMapping (' ' :: c :: rest) index tokens).skipSpace =
      inMapping (c :: rest) (index + 1) tokens := by
  obtain ⟨hspace, -, hcomment, -, -⟩ := isWordChar_cases h
  have hbreak : isBreak c = false := (Bool.or_eq_false_iff.mp hspace).2
  have hskip : Cursor.skipBlanks ⟨' ' :: c :: rest, index, 0, index⟩ =
      ⟨c :: rest, index + 1, 0, index + 1⟩ := by
    simp [Cursor.skipBlanks, Cursor.span, Cursor.skip, Cursor.next, ne_of_isWordChar h ' ' rfl,
      isBreak]
  rw [skipSpace, skipSpace.skipFrom]
  simp [inMapping, hskip, Cursor.skipComment, Cursor.peek, Cursor.takeBreak?, hcomment, hbreak]

/-- A long word is passed in one step, and the brace of the mapping is then no key any more. -/
theorem step_word {word : List Char} (h : ∀ c ∈ word, isWordChar c = true)
    (hlong : longestKey < word.length) (rest : List Char) (tokens : List Token) :
    step (inMapping (' ' :: (word ++ ',' :: rest)) 12 tokens) =
      .ok { inMapping (',' :: rest) (13 + word.length) (.scalar word true :: tokens) with
        keyPlaces := [] } := by
  have hne : word ≠ [] := List.ne_nil_of_length_pos (Nat.zero_lt_of_lt hlong)
  obtain ⟨c, more, hword⟩ := List.exists_cons_of_ne_nil hne
  have hc : isWordChar c = true := h c (by simp [hword])
  let before : Tokenizer := inMapping (word ++ ',' :: rest) 13 tokens
  let behind : Tokenizer :=
    inMapping (',' :: rest) (13 + word.length) (.scalar word true :: tokens)
  have hspace : (inMapping (' ' :: (word ++ ',' :: rest)) 12 tokens).skipSpace = before := by
    simpa [before, hword] using skipSpace_word hc (more ++ ',' :: rest) 12 tokens
  have hstale : before.dropStaleKeys = .ok before := rfl
  have hpeek : (before.unwind before.cursor.column).cursor.peek = some c := by
    show (word ++ ',' :: rest).head? = some c
    simp [hword]
  have htake : before.takeToken c = .ok behind := by
    rw [takeToken_wordChar hc (Nat.succ_ne_zero 12)]
    simp [before, behind, takePlain, noteKey, inMapping, plain_word h hne, push, movedTo]
  have hfar : longestKey < 13 + word.length := by omega
  have hdrop : behind.dropStaleKeys = .ok { behind with keyPlaces := [] } := by
    simp [behind, dropStaleKeys, inMapping, hfar]
  rw [step, hspace, hstale]
  simp only [bind, Except.bind]
  rw [hpeek]
  show (before.takeToken c >>= fun t => t.dropStaleKeys) = _
  rw [htake]
  exact hdrop

end Tokenizer

/-! ### A long integer under a name -/

/-- A text that gives a word that stands for an integer a name, and what comes behind. -/
def integerNamed (word rest : List Char) : List Char :=
  '\x7b' :: 'x' :: ':' :: ' ' :: '&' :: 'n' :: ' ' :: '!' :: '!' :: 'i' :: 'n' :: 't' :: ' ' ::
    (word ++ ',' :: rest)

section

open Tokenizer

variable {word : List Char} (rest : List Char)

def inBrace (rest : List Char) : Tokenizer :=
  { inMapping rest 1 [.flowMappingStart, .slot 0] with
    slots := 1, filled := [], allowsKey := true }

def behindName (rest : List Char) : Tokenizer :=
  { inMapping rest 2 [.scalar ['x'] true, .slot 1, .flowMappingStart, .slot 0] with
    filled := [], keyPlaces := [(1, ⟨1, false, 1, 0, 1⟩), (0, ⟨0, false, 0, 0, 0⟩)] }

theorem step_brace : step { cursor := ⟨'\x7b' :: 'x' :: ':' :: rest, 0, 0, 0⟩ } =
    .ok (inBrace ('x' :: ':' :: rest)) := rfl

theorem step_name : step (inBrace ('x' :: ':' :: ' ' :: rest)) =
    .ok (behindName (':' :: ' ' :: rest)) := by
  with_unfolding_all rfl

theorem step_colon : step (behindName (':' :: ' ' :: rest)) =
    .ok (inMapping (' ' :: rest) 3
      [.value, .scalar ['x'] true, .slot 1, .flowMappingStart, .slot 0]) := rfl

theorem step_anchor (tokens : List Token) :
    step (inMapping (' ' :: '&' :: 'n' :: ' ' :: rest) 3 tokens) =
      .ok (inMapping (' ' :: rest) 6 (.anchor "n" :: tokens)) := rfl

theorem step_tag (tokens : List Token) :
    step (inMapping (' ' :: '!' :: '!' :: 'i' :: 'n' :: 't' :: ' ' :: rest) 6 tokens) =
      .ok (inMapping (' ' :: rest) 12 (.tag (some "!!") "int" :: tokens)) := by
  with_unfolding_all rfl

theorem tokenize_integerNamed (h : ∀ c ∈ word, isWordChar c = true)
    (hlong : longestKey < word.length) (hallowed : rest.all isAllowed = true) :
    tokenize (integerNamed word rest) =
      run (word.length + rest.length + 10)
        { inMapping (',' :: rest) (13 + word.length)
            [.scalar word true, .tag (some "!!") "int", .anchor "n", .value, .scalar ['x'] true,
              .slot 1, .flowMappingStart, .slot 0] with
          keyPlaces := [] } := by
  have hword : word.all isAllowed = true :=
    List.all_eq_true.mpr fun c hc => isAllowed_of_isWordChar (h c hc)
  have hall : (integerNamed word rest).all isAllowed = true := by
    rw [integerNamed]
    simp only [List.all_cons, List.all_append, hword, hallowed]
    rfl
  have hhead : (integerNamed word rest).head? ≠ some '\uFEFF' := by simp [integerNamed]
  have hlength : (integerNamed word rest).length + 2 =
      word.length + rest.length + 10 + 1 + 1 + 1 + 1 + 1 + 1 := by
    simp only [integerNamed, List.length_append, List.length_cons]
    omega
  simp only [tokenize, hall, hlength, Bool.not_true, Bool.false_eq_true, if_false, hhead]
  rw [integerNamed, run_succ (step_brace _) rfl, run_succ (step_name _) rfl,
    run_succ (step_colon _) rfl, run_succ (step_anchor _ _) rfl, run_succ (step_tag _ _) rfl,
    run_succ (step_word h hlong _ _) rfl]

end

end Formwork.Yaml
