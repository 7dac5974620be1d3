import Formwork.Proofs.Outcome
import Formwork.Yaml.Tokenize

/-!
The faults that are found when a YAML text is split into tokens. Each of them is a fault of form or
an escape that stands for no character.
-/

namespace Formwork.Yaml

variable {α β : Type}

/-- A fault of form, or an escape that stands for no character. -/
def Error.IsLexical (e : Error) : Prop := e = .malformed ∨ e = .badCharacter ∨ e = .hugeCharacter

/-- A computation that fails with faults of this kind only. -/
def Lexes (x : Except Error α) : Prop := Ends (fun _ => True) Error.IsLexical x

theorem ends_malformed {P : α → Prop} :
    Ends P Error.IsLexical (.error .malformed : Except Error α) := .inl rfl

namespace Lexes

theorem bind {Q : β → Prop} {x : Except Error α} {f : α → Except Error β} (hx : Lexes x)
    (hf : ∀ a, Ends Q Error.IsLexical (f a)) : Ends Q Error.IsLexical (x >>= f) :=
  Ends.bind hx fun a _ => hf a

end Lexes

/-! ### Scalars, tags and directives -/

theorem lexes_quotedBreaks (fuel : Nat) (breaks : List Char) (c : Cursor) :
    Lexes (quotedBreaks fuel breaks c) := by
  induction fuel generalizing breaks c with
  | zero => exact ends_malformed
  | succ fuel ih =>
      rw [quotedBreaks]
      split
      · exact ends_malformed
      · dsimp only
        split
        · exact ih _ _
        · exact trivial

theorem lexes_escapeAt (c : Cursor) : Lexes (escapeAt c) := by
  rw [escapeAt]
  dsimp only
  split
  · exact ends_malformed
  · split
    · exact trivial
    · split
      · exact ends_malformed
      · exact .ite (.inr (.inr rfl)) (.ite (.inr (.inl rfl)) trivial)
    · split
      · exact ends_malformed
      · exact (lexes_quotedBreaks _ _ _).bind fun _ => trivial

theorem lexes_quotedWord (quote : Char) (fuel : Nat) (text : List Char) (c : Cursor) :
    Lexes (quotedWord quote fuel text c) := by
  induction fuel generalizing text c with
  | zero => exact trivial
  | succ fuel ih =>
      rw [quotedWord]
      repeat' split
      all_goals first
        | exact trivial
        | exact ih _ _
        | exact (lexes_escapeAt c).bind fun _ => ih _ _

theorem lexes_quotedGap (c : Cursor) : Lexes (quotedGap c) := by
  rw [quotedGap]
  dsimp only
  split
  · exact .ite ends_malformed trivial
  · exact (lexes_quotedBreaks _ _ _).bind fun _ => trivial

theorem lexes_quoted (quote : Char) (c : Cursor) : Lexes (quoted quote c) := by
  have hfrom : ∀ fuel text c, Lexes (quotedFrom quote fuel text c) := by
    intro fuel
    induction fuel with
    | zero => exact fun _ _ => ends_malformed
    | succ fuel ih =>
        intro text c
        rw [quotedFrom]
        refine (lexes_quotedWord _ _ _ _).bind fun (text, c) => ?_
        exact .ite trivial ((lexes_quotedGap c).bind fun _ => ih _ _)
  exact hfrom _ _ _

theorem lexes_emptyLineRest (c : Cursor) : Lexes (emptyLineRest c) := by
  rw [emptyLineRest]
  exact .ite trivial ends_malformed

theorem lexes_block (folded : Bool) (indent : Int) (c : Cursor) :
    Lexes (block folded indent c) := by
  have hheader : Lexes (blockHeader c.next) := by
    rw [blockHeader]
    exact .ite ends_malformed trivial
  exact hheader.bind fun _ => (lexes_emptyLineRest _).bind fun _ => trivial

theorem lexes_tagEscapes (fuel : Nat) (octets : Text.Octets) (c : Cursor) :
    Lexes (tagEscapes fuel octets c) := by
  induction fuel generalizing octets c with
  | zero => exact trivial
  | succ fuel ih =>
      rw [tagEscapes]
      repeat' split
      all_goals first
        | exact trivial
        | exact ends_malformed
        | exact ih _ _

theorem lexes_tagText (c : Cursor) : Lexes (tagText c) := by
  have hfrom : ∀ fuel text c, Lexes (tagTextFrom fuel text c) := by
    intro fuel
    induction fuel with
    | zero => exact fun _ _ => ends_malformed
    | succ fuel ih =>
        intro text c
        rw [tagTextFrom]
        dsimp only
        split
        · refine (lexes_tagEscapes _ _ _).bind fun (octets, c) => ?_
          dsimp only
          split
          · exact ih _ _
          · exact ends_malformed
        · exact trivial
  rw [tagText]
  exact .ite ends_malformed ((hfrom _ _ _).bind fun _ => trivial)

theorem lexes_tagHandle (c : Cursor) : Lexes (tagHandle c) := by
  rw [tagHandle]
  exact .ite ends_malformed (.ite trivial (.ite trivial ends_malformed))

theorem lexes_versionNumber (c : Cursor) : Lexes (versionNumber c) := by
  rw [versionNumber]
  exact .ite ends_malformed trivial

theorem lexes_directiveValue (name : List Char) (c : Cursor) : Lexes (directiveValue name c) := by
  rw [directiveValue]
  split
  · refine (lexes_versionNumber _).bind fun (major, c) => ?_
    refine .ite ends_malformed ((lexes_versionNumber _).bind fun (minor, c) => ?_)
    exact .ite trivial ends_malformed
  · split
    · refine (lexes_tagHandle _).bind fun (handle, c) => ?_
      refine .ite ends_malformed ((lexes_tagText _).bind fun (start, c) => ?_)
      exact .ite trivial ends_malformed
    · exact trivial

theorem lexes_directiveAt (c : Cursor) : Lexes (directiveAt c) := by
  rw [directiveAt]
  exact .ite ends_malformed <|
    (lexes_directiveValue _ _).bind fun _ => (lexes_emptyLineRest _).bind fun _ => trivial

theorem lexes_anchorName (c : Cursor) : Lexes (anchorName c) := by
  rw [anchorName]
  exact .ite ends_malformed (.ite trivial ends_malformed)

/-! ### The tokenizer -/

def Token.IsProper (token : Token) : Prop := ∀ e, token ≠ .fault e

/-- A computation that gives a token that is no fault, or a fault of this kind. -/
def Reads (x : Except Error (Token × Cursor)) : Prop :=
  Ends (fun read => read.1.IsProper) Error.IsLexical x

theorem reads_tagAt (c : Cursor) : Reads (tagAt c) := by
  have hend : ∀ read : Token × Cursor, read.1.IsProper →
      Reads (if read.2.atBlankOrLineEnd then pure read else .error .malformed) :=
    fun _ hread => .ite hread (.inl rfl)
  rw [tagAt]
  refine .ite ?long (.ite (hend _ nofun) (.ite ?handled ?plain))
  case long =>
    exact (lexes_tagText _).bind fun (suffix, c) => .ite (hend _ nofun) (.inl rfl)
  case handled =>
    exact (lexes_tagHandle c).bind fun (handle, c) => (lexes_tagText c).bind fun _ => hend _ nofun
  case plain => exact (lexes_tagText c.next).bind fun _ => hend _ nofun

theorem reads_named {make : String → Token} (h : ∀ name, (make name).IsProper) (c : Cursor) :
    Reads (Tokenizer.named make c) := (lexes_anchorName c).bind fun _ => h _

theorem reads_quotedScalar (quote : Char) (c : Cursor) : Reads (Tokenizer.quotedScalar quote c) :=
  (lexes_quoted quote c).bind fun (text, _) => (nofun : (Token.scalar text false).IsProper)

namespace Tokenizer

/-- There are no faults among the tokens. -/
structure IsClean (t : Tokenizer) : Prop where
  tokens : ∀ token ∈ t.tokens, token.IsProper
  filled : ∀ entry ∈ t.filled, ∀ token ∈ entry.2, token.IsProper

/-- A step to a tokenizer without faults, or a fault of this kind. -/
def Proceeds (x : Except Error Tokenizer) : Prop := Ends IsClean Error.IsLexical x

theorem isClean_start (c : Cursor) : IsClean { cursor := c } := ⟨fun _ => nofun, fun _ => nofun⟩

variable {t : Tokenizer} (h : t.IsClean)

include h

theorem IsClean.more {t' : Tokenizer} {token : Token} (htokens : t'.tokens = token :: t.tokens)
    (hfilled : t'.filled = t.filled) (htoken : token.IsProper) : t'.IsClean := by
  refine ⟨?_, hfilled ▸ h.filled⟩
  rw [htokens]
  exact List.forall_mem_cons.mpr ⟨htoken, h.tokens⟩

theorem IsClean.unwind (column : Int) : (t.unwind column).IsClean := by
  have hfrom : ∀ indents t, IsClean t → (unwind.unwindFrom column indents t).IsClean := by
    intro indents
    induction indents with
    | nil => exact fun _ h => h
    | cons outer more ih =>
        intro t h
        rw [unwind.unwindFrom]
        split
        · have hmore : IsClean { t with indent := outer, indents := more } := ⟨h.tokens, h.filled⟩
          exact ih _ (hmore.more rfl rfl nofun)
        · exact h
  rw [Tokenizer.unwind]
  split
  · exact h
  · exact hfrom _ _ h

theorem IsClean.indentTo (column : Nat) : (t.indentTo column).2.IsClean := by
  rw [Tokenizer.indentTo]
  split
  · exact ⟨h.tokens, h.filled⟩
  · exact h

theorem IsClean.startBlock {token : Token} (htoken : token.IsProper) :
    (t.startBlock token).IsClean := by
  have hindent := h.indentTo t.cursor.column
  rw [Tokenizer.startBlock]
  generalize t.indentTo t.cursor.column = indented at hindent ⊢
  obtain ⟨starts, t'⟩ := indented
  cases starts with
  | true => exact hindent.more rfl rfl htoken
  | false => exact hindent

theorem IsClean.skipSpace : t.skipSpace.IsClean := by
  have hfrom : ∀ fuel t, IsClean t → (skipSpace.skipFrom fuel t).IsClean := by
    intro fuel
    induction fuel with
    | zero => exact fun _ h => h
    | succ fuel ih =>
        intro t h
        rw [skipSpace.skipFrom]
        split
        · exact ih _ ⟨h.tokens, h.filled⟩
        · exact ⟨h.tokens, h.filled⟩
  exact hfrom _ _ h

theorem proceeds_dropKey : Proceeds t.dropKey := by
  rw [dropKey]
  split
  · exact .ite ends_malformed ⟨h.tokens, h.filled⟩
  · exact h

theorem proceeds_dropStaleKeys : Proceeds t.dropStaleKeys := by
  rw [dropStaleKeys]
  exact .ite ends_malformed ⟨h.tokens, h.filled⟩

theorem proceeds_noteKey : Proceeds t.noteKey := by
  rw [noteKey]
  refine .ite ((proceeds_dropKey h).bind fun t h => ?_) h
  exact h.more rfl rfl nofun

theorem proceeds_finish : Proceeds t.finish :=
  (proceeds_dropKey (h.unwind _)).bind fun _ h => h.more rfl rfl nofun

theorem proceeds_takeDirective : Proceeds t.takeDirective :=
  (proceeds_dropKey (h.unwind _)).bind fun _ h =>
    (lexes_directiveAt _).bind fun _ => h.more rfl rfl nofun

theorem proceeds_takeMarker {token : Token} (htoken : token.IsProper) :
    Proceeds (t.takeMarker token) :=
  (proceeds_dropKey (h.unwind _)).bind fun _ h => h.more rfl rfl htoken

theorem proceeds_openFlow {token : Token} (htoken : token.IsProper) :
    Proceeds (t.openFlow token) :=
  (proceeds_noteKey h).bind fun _ h => h.more rfl rfl htoken

theorem proceeds_closeFlow {token : Token} (htoken : token.IsProper) :
    Proceeds (t.closeFlow token) := by
  rw [closeFlow]
  exact .ite ends_malformed <| (proceeds_dropKey h).bind fun _ h => h.more rfl rfl htoken

theorem proceeds_takeFlowEntry : Proceeds t.takeFlowEntry :=
  (proceeds_dropKey h).bind fun _ h => h.more rfl rfl nofun

theorem proceeds_takeBlockEntry : Proceeds t.takeBlockEntry := by
  have hstart : (t.startBlock .blockSequenceStart).IsClean := h.startBlock nofun
  rw [takeBlockEntry]
  exact .ite ends_malformed ((proceeds_dropKey hstart).bind fun _ h => h.more rfl rfl nofun)

theorem IsClean.startMapping :
    (if t.flowLevel = 0 then t.startBlock .blockMappingStart else t).IsClean := by
  split
  · exact h.startBlock nofun
  · exact h

theorem proceeds_takeKey : Proceeds t.takeKey := by
  rw [takeKey]
  exact .ite ends_malformed
    ((proceeds_dropKey h.startMapping).bind fun _ h => h.more rfl rfl nofun)

theorem IsClean.completeKey (place : KeyPlace) : (t.completeKey place).IsClean := by
  have hindented : (if t.flowLevel = 0 then t.indentTo place.column else (false, t)).2.IsClean := by
    split
    · exact h.indentTo _
    · exact h
  rw [Tokenizer.completeKey]
  generalize (if t.flowLevel = 0 then t.indentTo place.column else (false, t)) = indented at *
  obtain ⟨starts, t'⟩ := indented
  refine ⟨List.forall_mem_cons.mpr ⟨nofun, hindented.tokens⟩,
    List.forall_mem_cons.mpr ⟨?_, hindented.filled⟩⟩
  cases starts with
  | true => exact List.forall_mem_cons.mpr ⟨nofun, List.forall_mem_singleton.mpr nofun⟩
  | false => exact List.forall_mem_singleton.mpr nofun

theorem proceeds_takeValue : Proceeds t.takeValue := by
  rw [takeValue]
  split
  · exact h.completeKey _
  · exact .ite ends_malformed (Ends.pure_iff.mpr (h.startMapping.more rfl rfl nofun))

theorem proceeds_takeWord {read : Cursor → Except Error (Token × Cursor)}
    (hread : ∀ c, Reads (read c)) : Proceeds (t.takeWord read) :=
  (proceeds_noteKey h).bind fun _ h =>
    (hread _).bind fun _ htoken => h.more rfl rfl htoken

theorem proceeds_takePlain : Proceeds t.takePlain :=
  (proceeds_noteKey h).bind fun _ h => h.more rfl rfl nofun

theorem proceeds_takeBlockScalar (folded : Bool) : Proceeds (t.takeBlockScalar folded) :=
  (proceeds_dropKey h).bind fun _ h =>
    (lexes_block _ _ _).bind fun _ => h.more rfl rfl nofun

theorem proceeds_takeToken (ch : Char) : Proceeds (t.takeToken ch) := by
  have hmarker : (if ch = '-' then Token.documentStart else .documentEnd).IsProper := by
    split <;> exact nofun
  rw [takeToken]
  refine .ite (proceeds_takeDirective h) <| .ite (proceeds_takeMarker h hmarker) <|
    .ite (proceeds_openFlow h nofun) <| .ite (proceeds_openFlow h nofun) <|
    .ite (proceeds_closeFlow h nofun) <| .ite (proceeds_closeFlow h nofun) <|
    .ite (proceeds_takeFlowEntry h) <| .ite (proceeds_takeBlockEntry h) <|
    .ite (proceeds_takeKey h) <| .ite (proceeds_takeValue h) ?_
  exact .ite (proceeds_takeWord h (reads_named nofun)) <|
    .ite (proceeds_takeWord h (reads_named nofun)) <| .ite (proceeds_takeWord h reads_tagAt) <|
    .ite (proceeds_takeBlockScalar h _) <| .ite (proceeds_takeBlockScalar h _) <|
    .ite (proceeds_takeWord h (reads_quotedScalar ch)) <| .ite (proceeds_takePlain h) ends_malformed

theorem proceeds_step : Proceeds t.step := by
  rw [step]
  refine (proceeds_dropStaleKeys h.skipSpace).bind fun t h => ?_
  dsimp only
  have hunwind := h.unwind t.cursor.column
  split
  · exact proceeds_finish hunwind
  · exact (proceeds_takeToken hunwind _).bind fun _ h => proceeds_dropStaleKeys h

theorem IsClean.settled {tokens : List Token} (htokens : ∀ token ∈ tokens, token.IsProper) :
    ∀ token ∈ tokenList.settled t tokens, token.IsProper := by
  intro token htoken
  obtain ⟨token', htoken', hfilled⟩ := List.mem_flatMap.mp htoken
  split at hfilled
  case h_1 n =>
    cases hlookup : t.filled.lookup n with
    | none => simp [hlookup] at hfilled
    | some tokens =>
        rw [hlookup] at hfilled
        obtain ⟨before, after, hsplit, -⟩ := List.lookup_eq_some_iff.mp hlookup
        exact h.filled (n, tokens) (by simp [hsplit]) token hfilled
  case h_2 => exact List.mem_singleton.mp hfilled ▸ htokens token' htoken'

theorem IsClean.knownTokens : ∀ token ∈ t.knownTokens, token.IsProper :=
  h.settled fun token htoken =>
    h.tokens token (List.mem_reverse.mp ((List.takeWhile_subset _) htoken))

theorem IsClean.run (fuel : Nat) : ∀ e, .fault e ∈ run fuel t → e.IsLexical := by
  have hstop : ∀ {t : Tokenizer}, t.IsClean → ∀ {e e' : Error}, e'.IsLexical →
      .fault e ∈ t.knownTokens ++ [.fault e'] → e.IsLexical := by
    intro t h e e' he' hmem
    rcases List.mem_append.mp hmem with hknown | hlast
    · exact absurd rfl (h.knownTokens _ hknown e)
    · rw [Token.fault.inj (List.mem_singleton.mp hlast)]
      exact he'
  induction fuel generalizing t with
  | zero => exact fun _ => hstop h (.inl rfl)
  | succ fuel ih =>
      intro e hmem
      have hstep := proceeds_step h
      rw [Tokenizer.run] at hmem
      cases hcases : t.step with
      | error e' =>
          rw [hcases] at hmem hstep
          exact hstop h hstep hmem
      | ok t' =>
          rw [hcases] at hmem hstep
          dsimp only at hmem
          split at hmem
          · exact absurd rfl (hstep.settled (fun token htoken =>
              hstep.tokens token (List.mem_reverse.mp htoken)) _ hmem e)
          · exact ih hstep e hmem

end Tokenizer

/-- A fault among the tokens of a text is one of form, or an escape that stands for no character. -/
theorem isLexical_of_mem_tokenize {cs : List Char} {e : Error} (h : .fault e ∈ tokenize cs) :
    e.IsLexical := by
  rw [tokenize] at h
  split at h
  · rw [Token.fault.inj (List.mem_singleton.mp h)]
    exact .inl rfl
  · exact (Tokenizer.isClean_start _).run _ e h

end Formwork.Yaml
