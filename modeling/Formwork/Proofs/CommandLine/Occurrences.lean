import Formwork.CommandLine.Arguments
import Formwork.Proofs.Outcome

/-!
Occurrences of options on a command line. Words are read one after the other, and each use of an
option takes effect on what the uses before it have left. Here the uses of a command line that is
accepted are collected first: each has a name of its option, and a value exactly if the option takes
one. What is left in the end is then told, option by option, by the last use.
-/

namespace Formwork.CommandLine

/-! ### Uses -/

/-- A use has a name of its option, and a value if the option takes one. -/
structure Use.Complete (u : Use) : Prop where
  name : u.name ∈ u.option.names
  value : u.value.isSome = u.option.takesValue

def Use.text (u : Use) : String := u.value.getD ""

def last? (s : Switch) (uses : List Use) : Option Use :=
  (uses.filter fun u => u.option = s).getLast?

theorem last?_cons (s : Switch) (u : Use) (uses : List Use) :
    last? s (u :: uses) = (last? s uses).or (if u.option = s then some u else none) := by
  rw [last?, last?, List.filter_cons]
  by_cases h : u.option = s
  · simp only [h, decide_true, if_true, List.getLast?_cons]
    cases (uses.filter fun u => u.option = s).getLast? <;> rfl
  · simp [h]

theorem mem_of_last? {s : Switch} {uses : List Use} {u : Use} (h : last? s uses = some u) :
    u ∈ uses ∧ u.option = s := by
  have hmem := List.mem_of_getLast? h
  simpa using hmem

/-! ### Uses in words -/

namespace Arguments

/-- The uses of a word, the last of which takes the next word for its value if it awaits one. -/
def completed (uses : List Use) (value : String) : List Use :=
  if uses.getLast?.any Use.awaitsValue then giveValue uses value else uses

/-- The uses of options in a row of words. Behind a double dash there are none. -/
def usesIn : List Word → List Use
  | [] => []
  | .separator :: _ => []
  | .operand _ :: rest => usesIn rest
  | .unknown _ :: rest => usesIn rest
  | .option s name attached :: rest =>
    let uses := (usesOf s name attached).toOption.getD []
    match rest with
    | .operand value :: rest => completed uses value ++ usesIn rest
    | rest => uses ++ usesIn rest

def occurrences (texts : List String) : List Use :=
  usesIn ((Word.ofTexts texts).toOption.getD [])

inductive Started : List Use → Prop
  | last {u : Use} (name : u.name ∈ u.option.names)
    (value : u.value.isSome = true → u.option.takesValue = true) : Started [u]
  | more {u : Use} {uses : List Use} (h : u.Complete) (rest : Started uses) : Started (u :: uses)

theorem Started.exists_last {uses : List Use} (h : Started uses) :
    ∃ before last, uses = before ++ [last] ∧ (∀ u ∈ before, u.Complete) ∧
      last.name ∈ last.option.names ∧
      (last.value.isSome = true → last.option.takesValue = true) := by
  induction h with
  | last name value => exact ⟨[], _, rfl, nofun, name, value⟩
  | more hu _ ih =>
      obtain ⟨before, last, rfl, hbefore, hlast⟩ := ih
      exact ⟨_ :: before, last, rfl, List.forall_mem_cons.mpr ⟨hu, hbefore⟩, hlast⟩

theorem Started.complete {uses : List Use} (h : Started uses)
    (hlast : uses.getLast?.any Use.awaitsValue = false) : ∀ u ∈ uses, u.Complete := by
  obtain ⟨before, last, rfl, hbefore, hname, hvalue⟩ := h.exists_last
  refine List.forall_mem_append.mpr ⟨hbefore, List.forall_mem_singleton.mpr ⟨hname, ?_⟩⟩
  have hawaits : (last.option.takesValue && last.value.isNone) = false := by
    simpa [Use.awaitsValue] using hlast
  cases htakes : last.option.takesValue <;> cases hgiven : last.value <;>
    simp_all

theorem Started.complete_giveValue {uses : List Use} (h : Started uses)
    (hlast : uses.getLast?.any Use.awaitsValue = true) (value : String) :
    ∀ u ∈ giveValue uses value, u.Complete := by
  obtain ⟨before, last, rfl, hbefore, hname, -⟩ := h.exists_last
  have hawaits : last.option.takesValue = true ∧ last.value.isNone = true := by
    simpa [Use.awaitsValue] using hlast
  rw [giveValue, List.getLast?_concat]
  dsimp only
  rw [List.dropLast_concat]
  exact List.forall_mem_append.mpr
    ⟨hbefore, List.forall_mem_singleton.mpr ⟨hname, hawaits.1.symm⟩⟩

theorem mem_names_of_ofName? {name : String} {s : Switch} (h : Switch.ofName? name = some s) :
    name ∈ s.names := by
  have hall : ∀ p ∈ Switch.spellings, p.1 ∈ p.2.names := by decide
  obtain ⟨l₁, l₂, hsplit, -⟩ := List.lookup_eq_some_iff.mp h
  exact hall (name, s) (hsplit ▸ List.mem_append_right l₁ List.mem_cons_self)

theorem started_usesOf {s : Switch} {name : String} {attached : List Char} {uses : List Use}
    (hname : name ∈ s.names) (h : usesOf s name attached = .ok uses) : Started uses := by
  induction attached generalizing s name uses with
  | nil =>
      cases Except.ok.inj h
      exact .last hname nofun
  | cons c rest ih =>
      rw [usesOf] at h
      split at h
      case isTrue htakes =>
        cases Except.ok.inj h
        exact .last hname fun _ => htakes
      case isFalse htakes =>
        split at h
        case h_1 next hnext =>
          obtain ⟨more, hmore, h⟩ := bind_eq_ok.mp h
          cases Except.ok.inj h
          exact .more ⟨hname, (Bool.not_eq_true _ ▸ htakes).symm⟩
            (ih (mem_names_of_ofName? hnext) hmore)
        case h_2 => cases h

/-! ### What reading comes to -/

theorem applyAll_append {o : Options} {uses more : List Use} :
    o.applyAll (uses ++ more) = o.applyAll uses >>= fun o' => o'.applyAll more := by
  induction uses generalizing o with
  | nil => rfl
  | cons u uses ih =>
      rw [List.cons_append, Options.applyAll, Options.applyAll, bind_assoc]
      exact congrArg _ (funext fun _ => ih)

theorem options_of_withUses {a a' : Arguments} {uses : List Use} (h : a.withUses uses = .ok a') :
    a.options.applyAll uses = .ok a'.options := by
  rw [withUses] at h
  obtain ⟨options, hoptions, h⟩ := bind_eq_ok.mp h
  rw [hoptions, ← Except.ok.inj h]

theorem readFrom_operand {a b : Arguments} {text : String} {rest : List Word}
    (h : a.readFrom (.operand text :: rest) = .ok b) :
    ∃ a' : Arguments, a'.options = a.options ∧
      (a'.readFrom rest = .ok b ∨
        ∃ behind, rest = .separator :: behind ∧ b.options = a.options) := by
  rw [readFrom.eq_def] at h
  dsimp only at h
  split at h
  case h_1 => exact ⟨a.setAside [text], rfl, .inl h⟩
  case h_2 behind _ =>
    rw [← Except.ok.inj h]
    exact ⟨a, rfl, .inr ⟨behind, rfl, rfl⟩⟩
  case h_3 => exact ⟨{ a with specification := some text }, rfl, .inl h⟩

theorem options_of_separator {a b : Arguments} {rest : List Word}
    (h : a.readFrom (.separator :: rest) = .ok b) : b.options = a.options := by
  rw [readFrom.eq_def] at h
  dsimp only at h
  split at h <;>
  · rw [← Except.ok.inj h]
    rfl

/-- An option takes effect with what is attached to it or, if it awaits a value, with the next
word. -/
theorem readFrom_option {a b : Arguments} {s : Switch} {name : String}
    {attached : List Char} {rest : List Word}
    (h : a.readFrom (.option s name attached :: rest) = .ok b) :
    ∃ uses, usesOf s name attached = .ok uses ∧
      ((uses.getLast?.any Use.awaitsValue = true ∧ ∃ value behind a',
          rest = .operand value :: behind ∧
          a.options.applyAll (giveValue uses value) = .ok a'.options ∧
          Arguments.readFrom a' behind = .ok b) ∨
        (uses.getLast?.any Use.awaitsValue = false ∧ ∃ a' : Arguments,
          a.options.applyAll uses = .ok a'.options ∧ a'.readFrom rest = .ok b)) := by
  rw [readFrom.eq_def] at h
  dsimp only at h
  obtain ⟨uses, huses, h⟩ := bind_eq_ok.mp h
  refine ⟨uses, mapError_eq_ok.mp huses, ?_⟩
  split at h
  case h_1 hlast =>
    have hnil : uses = [] := List.getLast?_eq_none_iff.mp hlast
    exact .inr ⟨by rw [hlast]; rfl, a, by rw [hnil]; rfl, h⟩
  case h_2 last hlast =>
    split at h
    case isTrue hawaits =>
      split at h
      case h_1 value behind _ =>
        obtain ⟨a', ha', h⟩ := bind_eq_ok.mp h
        exact .inl ⟨by rw [hlast]; exact hawaits, value, behind, a', rfl,
          options_of_withUses ha', h⟩
      case h_2 => cases h
    case isFalse hawaits =>
      obtain ⟨a', ha', h⟩ := bind_eq_ok.mp h
      refine .inr ⟨?_, a', options_of_withUses ha', h⟩
      rw [hlast]
      exact Bool.not_eq_true _ ▸ hawaits

theorem usesIn_option {s : Switch} {name : String} {attached : List Char}
    {uses : List Use} (h : usesOf s name attached = .ok uses)
    (hlast : uses.getLast?.any Use.awaitsValue = false) (rest : List Word) :
    usesIn (.option s name attached :: rest) = uses ++ usesIn rest := by
  rw [usesIn.eq_def]
  dsimp only
  rw [h]
  split
  case h_1 =>
    show completed uses _ ++ _ = _
    rw [completed, hlast, usesIn]
    rfl
  case h_2 => rfl

theorem usesIn_value {s : Switch} {name : String} {attached : List Char}
    {uses : List Use} (h : usesOf s name attached = .ok uses)
    (hlast : uses.getLast?.any Use.awaitsValue = true) (value : String) (rest : List Word) :
    usesIn (.option s name attached :: .operand value :: rest) =
      giveValue uses value ++ usesIn rest := by
  rw [usesIn, h]
  show completed uses value ++ usesIn rest = _
  rw [completed, hlast]
  rfl

def Named : Word → Prop
  | .option s name _ => name ∈ s.names
  | .separator | .operand _ | .unknown _ => True

/-- Reading has the uses take effect in their order, and they are complete. -/
theorem readFrom_uses : ∀ {words : List Word} {a b : Arguments}, a.readFrom words = .ok b →
    (∀ w ∈ words, Named w) →
      a.options.applyAll (usesIn words) = .ok b.options ∧ ∀ u ∈ usesIn words, u.Complete
  | [], a, b, h, _ => by
      rw [← Except.ok.inj h]
      exact ⟨rfl, nofun⟩
  | .separator :: rest, a, b, h, _ => by
      rw [options_of_separator h]
      exact ⟨rfl, nofun⟩
  | .operand text :: rest, a, b, h, hnamed => by
      obtain ⟨a', ha', h | ⟨behind, rfl, hb⟩⟩ := readFrom_operand h
      · rw [usesIn, ← ha']
        exact readFrom_uses h (List.forall_mem_cons.mp hnamed).2
      · rw [hb]
        exact ⟨rfl, nofun⟩
  | .unknown text :: rest, a, b, h, hnamed => by
      rw [usesIn]
      exact readFrom_uses (a := a.setAside [text]) h (List.forall_mem_cons.mp hnamed).2
  | .option s name attached :: rest, a, b, h, hnamed => by
      obtain ⟨hname, hrest⟩ := List.forall_mem_cons.mp hnamed
      obtain ⟨uses, huses, ⟨hlast, value, behind, a', rfl, ha', h⟩ | ⟨hlast, a', ha', h⟩⟩ :=
        readFrom_option h
      · have hstarted := (started_usesOf hname huses).complete_giveValue hlast value
        obtain ⟨hmore, hcomplete⟩ := readFrom_uses h (List.forall_mem_cons.mp hrest).2
        rw [usesIn_value huses hlast, applyAll_append, ha']
        exact ⟨hmore, List.forall_mem_append.mpr ⟨hstarted, hcomplete⟩⟩
      · have hstarted := (started_usesOf hname huses).complete hlast
        obtain ⟨hmore, hcomplete⟩ := readFrom_uses h hrest
        rw [usesIn_option huses hlast, applyAll_append, ha']
        exact ⟨hmore, List.forall_mem_append.mpr ⟨hstarted, hcomplete⟩⟩

/-! ### Names in words -/

theorem named_of_candidates {cs : List Char} {s : Switch} {name : String}
    {attached : List Char} (h : (s, name, attached) ∈ candidates cs) :
    name ∈ s.names := by
  have hall : ∀ p ∈ Switch.spellings, p.1 ∈ p.2.names := by decide
  rw [candidates] at h
  split at h <;>
  · obtain ⟨⟨n, t⟩, hmem, heq⟩ := List.mem_map.mp h
    cases heq
    exact hall _ (List.mem_of_mem_filter hmem)

theorem named_of_classify {text : String} {w : Word} (h : classify text = .ok w) : Named w := by
  rw [classify] at h
  dsimp only at h
  split at h
  case isTrue =>
    cases h
    trivial
  case isFalse =>
    split at h
    case h_1 hname =>
      cases h
      exact mem_names_of_ofName? hname
    case h_2 =>
      split at h
      case h_1 s name attached hcandidates =>
        cases h
        exact named_of_candidates (hcandidates ▸ List.mem_cons_self)
      case h_2 =>
        split at h <;>
        · cases h
          trivial
      case h_3 => cases h

theorem named_ofTexts {texts : List String} {words : List Word}
    (h : Word.ofTexts texts = .ok words) : ∀ w ∈ words, Named w := by
  induction texts generalizing words with
  | nil =>
      cases Except.ok.inj h
      exact nofun
  | cons text rest ih =>
      rw [Word.ofTexts] at h
      split at h
      case isTrue =>
        cases Except.ok.inj h
        refine List.forall_mem_cons.mpr ⟨trivial, List.forall_mem_map.mpr fun _ _ => trivial⟩
      case isFalse =>
        obtain ⟨w, hw, h⟩ := bind_eq_ok.mp h
        obtain ⟨more, hmore, h⟩ := bind_eq_ok.mp h
        cases Except.ok.inj h
        exact List.forall_mem_cons.mpr ⟨named_of_classify hw, ih hmore⟩

theorem read_uses {texts : List String} {specification : String} {options : Options}
    (h : Arguments.read texts = .ok (specification, options)) :
    Options.applyAll {} (occurrences texts) = .ok options ∧
      ∀ u ∈ occurrences texts, u.Complete := by
  rw [read] at h
  obtain ⟨words, hwords, h⟩ := bind_eq_ok.mp h
  obtain ⟨a, ha, h⟩ := bind_eq_ok.mp h
  have htexts := mapError_eq_ok.mp hwords
  obtain ⟨hoptions, hcomplete⟩ := readFrom_uses ha (named_ofTexts htexts)
  have hread : a.options = options := by
    split at h
    case h_1 => cases h
    case h_2 =>
      split at h
      case isTrue => exact congrArg Prod.snd (Except.ok.inj h)
      case isFalse => cases h
  rw [occurrences, htexts, ← hread]
  exact ⟨hoptions, hcomplete⟩

end Arguments

/-! ### The last use counts -/

/-- What an option settles about the options read is settled by its last use. -/
theorem applyAll_last {α : Type} {member : Options → α} {s : Switch} (Sets : Use → α → Prop)
    (hstep : ∀ {o o' : Options} {u : Use}, o.apply u = .ok o' →
      (u.option = s → Sets u (member o')) ∧ (u.option ≠ s → member o' = member o))
    {uses : List Use} {o o' : Options} (h : o.applyAll uses = .ok o') :
    (last? s uses = none ∧ member o' = member o) ∨
      ∃ u, last? s uses = some u ∧ Sets u (member o') := by
  induction uses generalizing o with
  | nil =>
      cases Except.ok.inj h
      exact .inl ⟨rfl, rfl⟩
  | cons u uses ih =>
      obtain ⟨o₁, ho₁, h⟩ := bind_eq_ok.mp h
      obtain ⟨hsets, hkeeps⟩ := hstep ho₁
      rw [last?_cons]
      rcases ih h with ⟨hnone, hsame⟩ | ⟨v, hlast, hv⟩
      · rw [hnone, hsame]
        by_cases hu : u.option = s
        · exact .inr ⟨u, by rw [if_pos hu]; rfl, hsets hu⟩
        · exact .inl ⟨by rw [if_neg hu]; rfl, hkeeps hu⟩
      · exact .inr ⟨v, by rw [hlast]; rfl, hv⟩

end Formwork.CommandLine
