import Formwork.Proofs.Outcome
import Formwork.Yaml.Node

/-!
What the nodes of a YAML document have from its tokens: the texts of the scalars. The tokens are put
together or there is a fault, of form or among the tokens.
-/

namespace Formwork.Yaml

variable {α β : Type}

/-- The text of a scalar among some tokens, or of a node where nothing stands. -/
def IsScalarOf (tokens : List Token) (cs : List Char) : Prop :=
  cs = [] ∨ ∃ plain, .scalar cs plain ∈ tokens

/-- A fault of form, or one among some tokens. -/
def Error.IsFaultOf (tokens : List Token) (e : Error) : Prop := e = .malformed ∨ .fault e ∈ tokens

/-! ### Texts of the scalars of a graph -/

namespace Graph

/-- The texts of the scalars of a graph are as they have to be. -/
def Holds (P : List Char → Prop) (g : Graph) : Prop := ∀ tag cs, .scalar tag cs ∈ g.nodes → P cs

variable {P : List Char → Prop} {g : Graph} {node : Node}

theorem holds_empty : Holds P {} := fun _ _ h => absurd h (by simp)

section

variable (h : g.Holds P)

include h

theorem Holds.set (id : NodeId) (hnode : ∀ tag cs, node = .scalar tag cs → P cs) :
    (g.set id node).Holds P := by
  intro tag cs hmem
  rcases Array.mem_or_eq_of_mem_setIfInBounds hmem with hold | hnew
  · exact h tag cs hold
  · exact hnode tag cs hnew.symm

theorem Holds.add (hnode : ∀ tag cs, node = .scalar tag cs → P cs) : (g.add node).2.Holds P := by
  intro tag cs hmem
  rcases Array.mem_push.mp hmem with hold | hnew
  · exact h tag cs hold
  · exact hnode tag cs hnew.symm

theorem Holds.complete (id : NodeId) (hnode : ∀ tag cs, node = .scalar tag cs → P cs) :
    (g.complete id node).Holds P := h.set id hnode

theorem Holds.text (hempty : P []) {id : NodeId} {tag : Tag} {cs : List Char}
    (hnode : g.node id = .scalar tag cs) : P cs := by
  rw [Graph.node, Array.getD_eq_getD_getElem?] at hnode
  cases hget : g.nodes[id]? with
  | none =>
      rw [hget] at hnode
      cases hnode
      exact hempty
  | some node =>
      rw [hget] at hnode
      exact h tag cs (hnode ▸ Array.mem_of_getElem? hget)

end

end Graph

/-! ### Putting tokens together -/

namespace Composing

variable {tokens : List Token} {s : Composing}

/-- All that is left to be read are some of the tokens, and the scalars are among them. -/
structure IsWithin (tokens : List Token) (s : Composing) : Prop where
  left : s.tokens ⊆ tokens
  scalars : s.graph.Holds (IsScalarOf tokens)

/-- A part is read, or there is a fault, of form or among the tokens. -/
def Composes (tokens : List Token) (x : Except Error (α × Composing)) : Prop :=
  Ends (fun read => read.2.IsWithin tokens) (Error.IsFaultOf tokens) x

theorem composes_malformed : Composes tokens (.error .malformed : Except Error (α × Composing)) :=
  .inl rfl

theorem ends_tagName (s : Composing) (tag : Option (Option String × String)) :
    Ends (fun _ => True) (Error.IsFaultOf tokens) (s.tagName tag) := by
  rw [tagName.eq_def]
  repeat' split
  all_goals first
    | trivial
    | exact .inl rfl

section

variable (h : s.IsWithin tokens)

include h

theorem IsWithin.mem_of_next {token : Token} (hnext : s.next = token)
    (htoken : token ≠ .streamEnd) :
    token ∈ tokens := by
  rw [next] at hnext
  cases hhead : s.tokens.head? with
  | none => exact absurd (by simpa [hhead] using hnext.symm) htoken
  | some first =>
      rw [hhead] at hnext
      exact h.left (hnext ▸ List.mem_of_head? hhead)

theorem IsWithin.drop : s.drop.IsWithin tokens :=
  ⟨fun _ htoken => h.left ((List.tail_sublist _).subset htoken), h.scalars⟩

theorem ends_refuse {P : α → Prop} : Ends P (Error.IsFaultOf tokens) s.refuse := by
  rw [refuse]
  split
  · exact .inr (h.mem_of_next ‹_› nofun)
  · exact .inl rfl

theorem composes_readMarks : Composes tokens s.readMarks := by
  rw [readMarks]
  split
  · dsimp only
    split
    · exact h.drop.drop
    · exact h.drop
  · dsimp only
    split
    · exact h.drop.drop
    · exact .inr (h.drop.mem_of_next ‹_› nofun)
    · exact h.drop
  · exact h

theorem ends_skipComma (first : Bool) :
    Ends (IsWithin tokens) (Error.IsFaultOf tokens) (skipComma first s) := by
  rw [skipComma]
  exact .ite h (.ite h.drop (ends_refuse h))

theorem composes_add (anchor : Option String) {node : Node}
    (hnode : ∀ tag cs, node = .scalar tag cs → IsScalarOf tokens cs) :
    Composes tokens (s.add anchor node) := by
  have hadd : (s.graph.add node).2.Holds (IsScalarOf tokens) := h.scalars.add hnode
  rw [add]
  dsimp only
  split
  · exact ⟨h.left, hadd⟩
  · split
    · exact composes_malformed
    · exact ⟨h.left, hadd⟩

theorem composes_addScalar (anchor : Option String) (tag : Tag) {text : List Char}
    (htext : IsScalarOf tokens text) : Composes tokens (s.addScalar anchor tag text) := by
  have hnode : ∀ tag' cs, Node.scalar tag text = .scalar tag' cs → IsScalarOf tokens cs := by
    rintro tag' cs ⟨⟩
    exact htext
  exact (composes_add h anchor hnode).bind fun read hread =>
    ⟨hread.left, hread.scalars.complete _ hnode⟩

theorem IsWithin.addEmpty : s.addEmpty.2.IsWithin tokens := by
  have hnode : ∀ tag cs, Node.empty = .scalar tag cs → IsScalarOf tokens cs := by
    rintro tag cs ⟨⟩
    exact .inl rfl
  exact ⟨h.left, (h.scalars.add hnode).complete _ hnode⟩

theorem IsWithin.complete (id : NodeId) {node : Node} (hnode : ∀ tag cs, node ≠ .scalar tag cs) :
    (s.complete id node).2.IsWithin tokens :=
  ⟨h.left, h.scalars.complete _ fun tag cs heq => absurd heq (hnode tag cs)⟩

end

/-- What is to be read in as many steps is read, or there is a fault. -/
structure Level (tokens : List Token) (fuel : Nat) : Prop where
  node : ∀ position s, IsWithin tokens s → Composes tokens (readNode position fuel s)
  content : ∀ position anchor name s, IsWithin tokens s →
    Composes tokens (readContent position anchor name fuel s)
  blockItems : ∀ s, IsWithin tokens s → Composes tokens (readBlockItems fuel s)
  indentless : ∀ s, IsWithin tokens s → Composes tokens (readIndentless fuel s)
  blockEntries : ∀ s, IsWithin tokens s → Composes tokens (readBlockEntries fuel s)
  blockValue : ∀ key s, IsWithin tokens s → Composes tokens (readBlockValue key fuel s)
  flowPair : ∀ closing s, IsWithin tokens s → Composes tokens (readFlowPair closing fuel s)
  flowItems : ∀ first s, IsWithin tokens s → Composes tokens (readFlowItems first fuel s)
  flowEntries : ∀ first s, IsWithin tokens s → Composes tokens (readFlowEntries first fuel s)

section

variable {read : Composing → Except Error (List β × Composing)}
  (hread : ∀ s, IsWithin tokens s → Composes tokens (read s)) (anchor : Option String) (tag : Tag)
  (h : s.IsWithin tokens)

include hread h

theorem composes_collection {node : Tag → List β → Node}
    (hnode : ∀ tag parts tag' cs, node tag parts ≠ .scalar tag' cs) :
    Composes tokens (do
      let (id, s) ← s.add anchor (node tag [])
      let (parts, s) ← read s
      return s.complete id (node tag parts)) := by
  refine (composes_add h anchor fun _ _ heq => absurd heq (hnode _ _ _ _)).bind fun (id, s) h => ?_
  exact (hread s h).bind fun (parts, s) h => h.complete id (hnode tag parts)

end

theorem Node.sequence_ne_scalar (tag : Tag) (items : List NodeId) (tag' : Tag) (cs : List Char) :
    Node.sequence tag items ≠ .scalar tag' cs := nofun

theorem Node.mapping_ne_scalar (tag : Tag) (entries : List Entry) (tag' : Tag) (cs : List Char) :
    Node.mapping tag entries ≠ .scalar tag' cs := nofun

section

variable {fuel : Nat} (ih : Level tokens fuel)

include ih

theorem Level.node_succ (position : Position) (h : s.IsWithin tokens) :
    Composes tokens (readNode position (fuel + 1) s) := by
  rw [readNode]
  split
  · split
    · exact ⟨h.drop.left, h.drop.scalars⟩
    · exact composes_malformed
  · refine (composes_readMarks h).bind fun (marks, s) h => ?_
    exact (ends_tagName s _).bind fun name _ => ih.content _ _ _ _ h

theorem Level.content_succ (position : Position) (anchor name : Option String)
    (h : s.IsWithin tokens) : Composes tokens (readContent position anchor name (fuel + 1) s) := by
  rw [readContent.eq_def]
  dsimp only
  split
  · exact composes_collection ih.indentless anchor _ h Node.sequence_ne_scalar
  · exact composes_addScalar h.drop _ _ (.inr ⟨_, h.mem_of_next ‹_› nofun⟩)
  · exact composes_collection (ih.flowItems true) anchor _ h.drop Node.sequence_ne_scalar
  · exact composes_collection (ih.flowEntries true) anchor _ h.drop Node.mapping_ne_scalar
  · exact composes_collection ih.blockItems anchor _ h.drop Node.sequence_ne_scalar
  · exact composes_collection ih.blockItems anchor _ h.drop Node.sequence_ne_scalar
  · exact composes_collection ih.blockEntries anchor _ h.drop Node.mapping_ne_scalar
  · exact composes_collection ih.blockEntries anchor _ h.drop Node.mapping_ne_scalar
  · exact .inr (h.mem_of_next ‹_› nofun)
  · exact .ite (composes_addScalar h _ _ (.inl rfl)) composes_malformed

section

variable {Q : β → Prop} {f : NodeId × Composing → Except Error β}
  (hf : ∀ read, IsWithin tokens read.2 → Ends Q (Error.IsFaultOf tokens) (f read))

include hf

theorem Level.nodeUnless {position : Position} {ends : Token → Bool} (h : s.IsWithin tokens) :
    Ends Q (Error.IsFaultOf tokens)
      (if ends s.next then pure s.addEmpty >>= f else readNode position fuel s >>= f) :=
  .ite (hf _ h.addEmpty) ((ih.node _ _ h).bind hf)

/-- What goes on with the value behind its mark, or with the node where nothing stands. -/
theorem Level.valueUnless {position : Position} {ends : Token → Bool} (h : s.IsWithin tokens) :
    Ends Q (Error.IsFaultOf tokens)
      (if s.next ≠ .value then pure s.addEmpty >>= f
      else if ends s.drop.next then pure s.drop.addEmpty >>= f
      else readNode position fuel s.drop >>= f) :=
  .ite (hf _ h.addEmpty) (ih.nodeUnless hf h.drop)

end

theorem Level.blockItems_succ (h : s.IsWithin tokens) :
    Composes tokens (readBlockItems (fuel + 1) s) := by
  rw [readBlockItems]
  split
  · refine ih.nodeUnless (fun (item, s) h => ?_) h.drop
    exact (ih.blockItems s h).bind fun _ h => h
  · exact h.drop
  · exact ends_refuse h

theorem Level.indentless_succ (h : s.IsWithin tokens) :
    Composes tokens (readIndentless (fuel + 1) s) := by
  rw [readIndentless]
  split
  · refine ih.nodeUnless (fun (item, s) h => ?_) h.drop
    exact (ih.indentless s h).bind fun _ h => h
  · exact h

theorem Level.blockEntries_succ (h : s.IsWithin tokens) :
    Composes tokens (readBlockEntries (fuel + 1) s) := by
  rw [readBlockEntries]
  split
  · refine ih.nodeUnless (fun (key, s) h => ?_) h.drop
    exact ih.blockValue key s h
  · exact h.drop
  · exact ends_refuse h

theorem Level.blockValue_succ (key : NodeId) (h : s.IsWithin tokens) :
    Composes tokens (readBlockValue key (fuel + 1) s) := by
  rw [readBlockValue]
  refine ih.valueUnless (fun (value, s) h => ?_) h
  exact (ih.blockEntries s h).bind fun _ h => h

theorem Level.flowPair_succ (closing : Token) (h : s.IsWithin tokens) :
    Composes tokens (readFlowPair closing (fuel + 1) s) := by
  rw [readFlowPair]
  refine ih.nodeUnless (fun (key, s) h => ?_) h
  refine ih.valueUnless (fun (value, s) h => ?_) h
  exact h

theorem Level.flowItems_succ (first : Bool) (h : s.IsWithin tokens) :
    Composes tokens (readFlowItems first (fuel + 1) s) := by
  rw [readFlowItems]
  refine .ite h.drop ((ends_skipComma h first).bind fun s h => .ite h.drop (.ite ?pair ?item))
  case pair =>
    have hnode := Node.mapping_ne_scalar .map
    refine (composes_add h.drop none fun _ _ heq => absurd heq (hnode _ _ _)).bind ?_
    rintro ⟨id, s⟩ h
    refine (ih.flowPair _ s h).bind ?_
    rintro ⟨entry, s⟩ h
    exact (ih.flowItems false _ (h.complete id (hnode _))).bind fun _ h => h
  case item =>
    refine (ih.node _ _ h).bind ?_
    rintro ⟨item, s⟩ h
    exact (ih.flowItems false s h).bind fun _ h => h

theorem Level.flowEntries_succ (first : Bool) (h : s.IsWithin tokens) :
    Composes tokens (readFlowEntries first (fuel + 1) s) := by
  rw [readFlowEntries]
  refine .ite h.drop ((ends_skipComma h first).bind fun s h => .ite h.drop (.ite ?pair ?key))
  case pair =>
    refine (ih.flowPair _ _ h.drop).bind ?_
    rintro ⟨entry, s⟩ h
    exact (ih.flowEntries false s h).bind fun _ h => h
  case key =>
    refine (ih.node _ _ h).bind ?_
    rintro ⟨key, s⟩ h
    exact (ih.flowEntries false _ h.addEmpty).bind fun _ h => h

end

theorem level_zero : Level tokens 0 where
  node _ _ _ := composes_malformed
  content _ _ _ _ _ := composes_malformed
  blockItems _ _ := composes_malformed
  indentless _ _ := composes_malformed
  blockEntries _ _ := composes_malformed
  blockValue _ _ _ := composes_malformed
  flowPair _ _ _ := composes_malformed
  flowItems _ _ _ := composes_malformed
  flowEntries _ _ _ := composes_malformed

theorem level (tokens : List Token) (fuel : Nat) : Level tokens fuel := by
  induction fuel with
  | zero => exact level_zero
  | succ fuel ih =>
      exact {
        node := fun position _ h => ih.node_succ position h
        content := fun position anchor name _ h => ih.content_succ position anchor name h
        blockItems := fun _ h => ih.blockItems_succ h
        indentless := fun _ h => ih.indentless_succ h
        blockEntries := fun _ h => ih.blockEntries_succ h
        blockValue := fun key _ h => ih.blockValue_succ key h
        flowPair := fun closing _ h => ih.flowPair_succ closing h
        flowItems := fun first _ h => ih.flowItems_succ first h
        flowEntries := fun first _ h => ih.flowEntries_succ first h }

theorem ends_readDirectives (handles : List (String × String)) (versioned : Bool)
    {left : List Token} (h : left ⊆ tokens) :
    Ends (IsWithin tokens) (Error.IsFaultOf tokens) (readDirectives handles versioned left) := by
  fun_induction readDirectives handles versioned left
  case case1 | case3 => exact .inl rfl
  case case2 ih | case4 ih | case5 ih => exact ih (List.subset_of_cons_subset h)
  case case6 => exact ⟨h, Graph.holds_empty⟩

end Composing

/-- A graph whose scalars are among some tokens, if there is a graph. -/
def FoundIn (tokens : List Token) (found : Option (NodeId × Graph)) : Prop :=
  ∀ root graph, found = some (root, graph) → graph.Holds (IsScalarOf tokens)

/-- The tokens of a document give a graph whose scalars are among them, or there is a fault, of form
or among the tokens. -/
theorem ends_ofTokens? (tokens : List Token) :
    Ends (FoundIn tokens) (Error.IsFaultOf tokens) (Graph.ofTokens? tokens) := by
  have hend : ∀ root (s : Composing), s.IsWithin tokens →
      Ends (FoundIn tokens) (Error.IsFaultOf tokens)
        (if (s.tokens.dropWhile (· == .documentEnd)).head? = some .streamEnd then
          return some (root, s.graph)
        else do
          let rest := s.tokens.dropWhile (· == .documentEnd)
          (← Composing.readDirectives [] false rest).refuse) := by
    intro root s h
    refine .ite (fun _ _ heq => ?found) ?more
    case found =>
      obtain ⟨-, rfl⟩ := Prod.mk.inj (Option.some.inj heq)
      exact h.scalars
    case more =>
      have hrest : s.tokens.dropWhile (· == .documentEnd) ⊆ tokens :=
        List.Subset.trans (List.dropWhile_sublist _).subset h.left
      exact (Composing.ends_readDirectives _ _ hrest).bind fun s h => Composing.ends_refuse h
  have hnode := fun s => (Composing.level tokens (4 * tokens.length + 4)).node .block s
  rw [Graph.ofTokens?]
  refine .ite nofun (.ite ?directives ?plain)
  case directives =>
    refine (Composing.ends_readDirectives _ _ (List.Subset.refl _)).bind fun s h => ?_
    refine .ite ?_ (.ite ?_ ?_)
    · exact (Composing.ends_refuse h).bind fun read hread => hend _ _ hread
    · exact hend _ _ h.drop.addEmpty
    · exact (hnode _ h.drop).bind fun (root, s) h => hend root s h
  case plain =>
    exact (hnode _ ⟨List.Subset.refl _, Graph.holds_empty⟩).bind fun (root, s) h => hend root s h

end Formwork.Yaml
