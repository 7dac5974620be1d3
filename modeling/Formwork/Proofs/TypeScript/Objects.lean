import Formwork.Proofs.TypeScript.Sequences
import Formwork.Proofs.TypeScript.Strict
import Mathlib.Data.List.DropRight

/-!
Object literals. A property has a name and, behind a colon, a quoted text or code. Quoted texts are
read with their escapes; code is taken as it stands, up to the next separator. An object that is
written without escapes is read as what was written exactly if its quoted texts stand for
themselves.
-/

namespace Formwork.TypeScript

inductive Content
  | quoted (text : List Char)
  | code (text : List Char)
  deriving DecidableEq, Repr

abbrev Property := List Char × Content

def isSeparator (c : Char) : Bool := c = ',' || c = '\x7d'

def trim (cs : List Char) : List Char := (skipSpace cs).rdropWhile isSpace

section

-- the name of the property that has code
variable (codeName : List Char)

def readContent (name cs : List Char) : Option (Content × List Char) :=
  if name = codeName then
    some (.code (trim (cs.takeWhile (!isSeparator ·))), cs.dropWhile (!isSeparator ·))
  else
    match skipSpace cs with
    | '\'' :: body => (readQuoted body).map fun read => (.quoted read.1, read.2)
    | _ => none

def readProperty (cs : List Char) : Option (Property × List Char) :=
  match skipSpace (cs.dropWhile Char.isAlphanum) with
  | ':' :: rest =>
    (readContent codeName (cs.takeWhile Char.isAlphanum) rest).map fun read =>
      ((cs.takeWhile Char.isAlphanum, read.1), read.2)
  | _ => none

def readObject : List Char → Option (List Property × List Char)
  | '\x7b' :: cs =>
    (readSequence (readProperty codeName) '\x7d' cs.length cs).filter fun read =>
      (read.1.map (·.1)).Nodup
  | _ => none

end

/-! ### Properties as they are written -/

def propertyChars : Property → List Char
  | (name, .quoted text) => name ++ ':' :: ' ' :: '\'' :: (text ++ ['\''])
  | (name, .code text) => name ++ ':' :: ' ' :: text

def objectEnd (rest : List Char) : List Char := ' ' :: '\x7d' :: rest

def objectChars (ps : List Property) (rest : List Char) : List Char :=
  '\x7b' :: ' ' :: sequence ' ' (objectEnd rest) (ps.map propertyChars)

/-- Code that can be told from what follows it. -/
def IsCode (cs : List Char) : Prop := ∀ c ∈ cs, isSeparator c = false

instance (cs : List Char) : Decidable (IsCode cs) :=
  List.decidableBAll _ cs

def WellFormed (codeName : List Char) : Property → Prop
  | (name, .quoted _) => name.all Char.isAlphanum = true ∧ name ≠ codeName
  | (name, .code text) => name.all Char.isAlphanum = true ∧ name = codeName ∧ IsCode text

def trimmed : Property → Property
  | (name, .quoted text) => (name, .quoted text)
  | (name, .code text) => (name, .code (trim text))

/-- A property whose text, if it is quoted, stands for itself. -/
def Faithful : Property → Prop
  | (_, .quoted text) => Verbatim text
  | (_, .code _) => True

theorem map_fst_trimmed (ps : List Property) : (ps.map trimmed).map (·.1) = ps.map (·.1) := by
  rw [List.map_map]
  refine List.map_congr_left fun p _ => ?_
  match p with
  | (_, .quoted _) | (_, .code _) => rfl

/-! ### Reading one property -/

theorem trim_cons_blank (cs : List Char) : trim (' ' :: cs) = trim cs := by
  rw [trim, skipSpace_cons (by decide), trim]

theorem trim_concat_blank (cs : List Char) : trim (cs ++ [' ']) = trim cs := by
  have hblank : isSpace ' ' = true := by decide
  rw [trim, trim, skipSpace, skipSpace, List.dropWhile_append]
  split
  case isTrue h =>
    rw [List.isEmpty_iff.mp h, List.dropWhile_cons_of_pos hblank]
    rfl
  case isFalse => exact List.rdropWhile_concat_pos isSpace _ ' ' hblank

theorem isSpace_of_isAlphanum {c : Char} (h : c.isAlphanum = true) : isSpace c = false := by
  refine Bool.eq_false_iff.mpr fun hc => ?_
  simp only [isSpace, Bool.or_eq_true, decide_eq_true_eq] at hc
  rcases hc with ((rfl | rfl) | rfl) | rfl <;> exact absurd h (by decide)

section

variable {codeName : List Char}

theorem readProperty_name {name : List Char} (h : name.all Char.isAlphanum = true)
    (rest : List Char) :
    readProperty codeName (skipSpace (name ++ ':' :: rest)) =
      (readContent codeName name rest).map fun read => ((name, read.1), read.2) := by
  have hall := List.all_eq_true.mp h
  have hskip : skipSpace (name ++ ':' :: rest) = name ++ ':' :: rest := by
    cases name with
    | nil => rfl
    | cons c name =>
        exact skipSpace_of_not_isSpace (isSpace_of_isAlphanum (hall c List.mem_cons_self)) _
  have hcolon : ':'.isAlphanum ≠ true := by decide
  rw [hskip, readProperty, List.dropWhile_append_of_pos hall, List.takeWhile_append_of_pos hall,
    List.dropWhile_cons_of_neg hcolon, List.takeWhile_cons_of_neg hcolon, List.append_nil]
  rfl

theorem readContent_code {text : List Char} (h : IsCode text) {rest next : List Char}
    (hnext : Follows ' ' (objectEnd rest) next) :
    ∃ left, readContent codeName codeName (' ' :: (text ++ next)) =
        some (.code (trim text), left) ∧ skipSpace left = skipSpace next := by
  have hall : ∀ c ∈ ' ' :: text, (!isSeparator c) = true :=
    List.forall_mem_cons.mpr ⟨by decide, fun c hc => by rw [h c hc]; rfl⟩
  rw [readContent, if_pos rfl, ← List.cons_append, List.takeWhile_append_of_pos hall,
    List.dropWhile_append_of_pos hall]
  rcases hnext with rfl | ⟨more, rfl⟩
  · -- the blank in front of the brace is read with the code
    refine ⟨'\x7d' :: rest, ?_, rfl⟩
    rw [objectEnd, List.takeWhile_cons_of_pos (by decide), List.takeWhile_cons_of_neg (by decide),
      List.dropWhile_cons_of_pos (by decide), List.dropWhile_cons_of_neg (by decide),
      trim_concat_blank, trim_cons_blank]
  · refine ⟨',' :: ' ' :: more, ?_, rfl⟩
    rw [List.takeWhile_cons_of_neg (by decide), List.dropWhile_cons_of_neg (by decide),
      List.append_nil, trim_cons_blank]

theorem readContent_quoted {name : List Char} (h : name ≠ codeName) (text next : List Char) :
    readContent codeName name (' ' :: '\'' :: (text ++ '\'' :: next)) =
      (readQuoted (text ++ '\'' :: next)).map fun read => (.quoted read.1, read.2) := by
  rw [readContent, if_neg h]
  rfl

/-- A property is read as itself if its text stands for itself. -/
theorem readAs_propertyChars {p : Property} (hp : WellFormed codeName p) (hfaithful : Faithful p)
    {rest next : List Char} (hnext : Follows ' ' (objectEnd rest) next) :
    ReadAs (readProperty codeName) (propertyChars p) (trimmed p) next := by
  match p, hp with
  | (name, .quoted text), ⟨hname, hother⟩ =>
      refine ⟨next, ?_, rfl⟩
      rw [propertyChars, List.append_assoc]
      simp only [List.cons_append, List.append_assoc, List.nil_append]
      rw [readProperty_name hname, readContent_quoted hother, Verbatim.readQuoted hfaithful]
      rfl
  | (name, .code text), hp =>
      obtain ⟨hname, rfl, hcode⟩ := hp
      obtain ⟨left, hread, hleft⟩ := readContent_code hcode hnext
      refine ⟨left, ?_, hleft⟩
      rw [propertyChars, List.append_assoc]
      simp only [List.cons_append]
      rw [readProperty_name hname, hread]
      rfl

/-- A property keeps its name, and if it keeps its text as well, the text stands for itself. -/
theorem faithful_of_readProperty {p q : Property} (hp : WellFormed codeName p)
    {next left : List Char}
    (h : readProperty codeName (skipSpace (propertyChars p ++ next)) = some (q, left)) :
    q.1 = p.1 ∧ ((∀ text, p.2 = .quoted text → q.2 = .quoted text) → Faithful p) := by
  match p, hp with
  | (name, .quoted text), ⟨hname, hother⟩ =>
      rw [propertyChars, List.append_assoc] at h
      simp only [List.cons_append, List.append_assoc, List.nil_append] at h
      rw [readProperty_name hname, readContent_quoted hother, Option.map_map] at h
      obtain ⟨read, hread, heq⟩ := Option.map_eq_some_iff.mp h
      cases heq
      refine ⟨rfl, fun hkept => ?_⟩
      cases hkept text rfl
      exact verbatim_of_readQuoted hread
  | (name, .code text), hp =>
      obtain ⟨hname, rfl, hcode⟩ := hp
      rw [propertyChars, List.append_assoc] at h
      simp only [List.cons_append] at h
      rw [readProperty_name hname] at h
      obtain ⟨read, -, heq⟩ := Option.map_eq_some_iff.mp h
      cases heq
      exact ⟨rfl, fun _ => trivial⟩

/-! ### Reading an object -/

theorem skipSpace_objectEnd (rest : List Char) : skipSpace (objectEnd rest) = '\x7d' :: rest := rfl

/-- An object whose texts stand for themselves is read as itself, and what follows it is left. -/
theorem readObject_objectChars {ps : List Property} (hne : ps ≠ [])
    (hnames : (ps.map (·.1)).Nodup) (hwell : ∀ p ∈ ps, WellFormed codeName p)
    (hfaithful : ∀ p ∈ ps, Faithful p) (rest : List Char) :
    readObject codeName (objectChars ps rest) = some (ps.map trimmed, rest) := by
  have hfuel := length_le_sequence ' ' (List.cons_ne_nil ' ' ('\x7d' :: rest))
    (ps.map propertyChars)
  rw [List.length_map] at hfuel
  have hblank : isSpace ' ' = true := by decide
  have hread : readSequence (readProperty codeName) '\x7d' _ _ = some (ps.map trimmed, rest) :=
    readSequence_sequence trimmed hblank (skipSpace_objectEnd rest) (by decide) hne
      (fun p hp _ hnext => readAs_propertyChars (hwell p hp) (hfaithful p hp) hnext)
      (Nat.le_succ_of_le hfuel) (skipSpace_cons hblank _)
  rw [objectChars, readObject, List.length_cons]
  unfold objectEnd at hread ⊢
  rw [hread, Option.filter_some, map_fst_trimmed, decide_eq_true hnames]
  rfl

/-- An object that is read with all its quoted texts has texts that stand for themselves. -/
theorem faithful_of_readObject {ps object : List Property} (hnames : (ps.map (·.1)).Nodup)
    (hwell : ∀ p ∈ ps, WellFormed codeName p) {rest left : List Char}
    (h : readObject codeName (objectChars ps rest) = some (object, left))
    (hkept : ∀ name text, (name, .quoted text) ∈ ps →
      object.lookup name = some (.quoted text)) : ∀ p ∈ ps, Faithful p := by
  rw [objectChars, readObject, Option.filter_eq_some_iff] at h
  have hgood := good_of_readSequence trimmed Faithful (by decide) (skipSpace_objectEnd rest)
    (fun p hp hfaithful _ hnext => readAs_propertyChars (hwell p hp) hfaithful hnext)
    (skipSpace_cons (by decide) _) h.1
  rcases hgood with hall | ⟨front, p, back, bad, next, mid, more, rfl, hbad, rfl, hread⟩
  · exact hall
  -- the properties in front have other names, so what the object says of this one is what was read
  have hp : p ∈ front ++ p :: back := List.mem_append_right front List.mem_cons_self
  obtain ⟨hname, hkeeps⟩ := faithful_of_readProperty (hwell p hp) hread
  refine absurd (hkeeps fun text htext => ?_) hbad
  have hlookup := hkept p.1 text (htext ▸ hp)
  have hfront : (front.map trimmed).lookup p.1 = none := by
    rw [List.map_append, List.nodup_append] at hnames
    refine List.lookup_eq_none_iff.mpr fun q hq => bne_iff_ne.mpr fun heq => ?_
    have hq : q.1 ∈ front.map (·.1) := by
      rw [← map_fst_trimmed]
      exact List.mem_map_of_mem hq
    exact hnames.2.2 q.1 hq p.1 (List.mem_map_of_mem List.mem_cons_self) heq.symm
  rw [List.lookup_append, hfront, Option.none_or, List.lookup_cons, hname, beq_self_eq_true]
    at hlookup
  exact Option.some.inj hlookup

end

end Formwork.TypeScript
