import Formwork.Yaml.Graph

/-!
The nodes of a document, put together from its tokens. A fault counts only when the tokens in
front of it have been understood.
-/

namespace Formwork.Yaml

/-- What has been read of a document, and what follows: the tokens, the handles of tags, the
nodes, and those of them that have names. -/
structure Composing where
  tokens : List Token
  handles : List (String × String) := []
  anchors : List (String × NodeId) := []
  graph : Graph := {}

/-- Where a node stands: inside a flow collection, in a block, or as the key or value of a block,
where a sequence needs no indentation. -/
inductive Position | flow | block | blockValue
  deriving DecidableEq, Repr

structure Marks where
  anchor : Option String := none
  tag : Option (Option String × String) := none

def endsBlockEntry : Token → Bool
  | .blockEntry | .blockEnd => true
  | _ => false

def endsIndentlessEntry : Token → Bool
  | .blockEntry | .key | .value | .blockEnd => true
  | _ => false

def endsBlockKey : Token → Bool
  | .key | .value | .blockEnd => true
  | _ => false

def endsFlowKey (closing : Token) (token : Token) : Bool :=
  token == .value || token == .flowEntry || token == closing

def endsFlowValue (closing : Token) (token : Token) : Bool :=
  token == .flowEntry || token == closing

def endsDocument : Token → Bool
  | .directive _ | .documentStart | .documentEnd | .streamEnd => true
  | _ => false

def collectionTag (standard : Tag) (name : Option String) : Tag :=
  match name with
  | none | some "!" => standard
  | some name => .ofName name

def scalarTag (name : Option String) (text : List Char) (plain : Bool) : Tag :=
  match name with
  | none => if plain then Plain.tag text else .str
  | some "!" => Plain.tag text
  | some name => .ofName name

namespace Composing

def standardHandles : List (String × String) := [("!", "!"), ("!!", Tag.standardStart)]

def drop (s : Composing) : Composing := { s with tokens := s.tokens.tail }

def next (s : Composing) : Token := s.tokens.head?.getD .streamEnd

def refuse {α : Type} (s : Composing) : Except Error α :=
  match s.next with
  | .fault e => .error e
  | _ => .error .malformed

/-- The marks in front of a node, in either order. -/
def readMarks (s : Composing) : Except Error (Marks × Composing) :=
  match s.next with
  | .anchor name =>
    let s := s.drop
    match s.next with
    | .tag handle suffix => .ok (⟨some name, some (handle, suffix)⟩, s.drop)
    | _ => .ok (⟨some name, none⟩, s)
  | .tag handle suffix =>
    let s := s.drop
    match s.next with
    | .anchor name => .ok (⟨some name, some (handle, suffix)⟩, s.drop)
    | .fault e => .error e
    | _ => .ok (⟨none, some (handle, suffix)⟩, s)
  | _ => .ok (⟨none, none⟩, s)

/-- The name of a tag. A single exclamation mark leaves the kind of the node to its text. -/
def tagName (s : Composing) : Option (Option String × String) → Except Error (Option String)
  | none => .ok none
  | some (none, suffix) => .ok (some suffix)
  | some (some handle, suffix) =>
    match s.handles.lookup handle with
    | some start => .ok (some (start ++ suffix))
    | none => .error .malformed

def skipComma (first : Bool) (s : Composing) : Except Error Composing :=
  if first then .ok s
  else if s.next = .flowEntry then .ok s.drop
  else s.refuse

/-- Adds a node, under a name if it has one. A name is used once, and from here on. -/
def add (anchor : Option String) (node : Node) (s : Composing) :
    Except Error (NodeId × Composing) :=
  let (id, graph) := s.graph.add node
  match anchor with
  | none => .ok (id, { s with graph })
  | some name =>
    match s.anchors.lookup name with
    | some _ => .error .malformed
    | none => .ok (id, { s with graph, anchors := (name, id) :: s.anchors })

def addScalar (anchor : Option String) (tag : Tag) (text : List Char) (s : Composing) :
    Except Error (NodeId × Composing) := do
  let (id, s) ← s.add anchor (.scalar tag text)
  return (id, { s with graph := s.graph.complete id (.scalar tag text) })

def addEmpty (s : Composing) : NodeId × Composing :=
  let (id, graph) := s.graph.add .empty
  (id, { s with graph := graph.complete id .empty })

def complete (id : NodeId) (node : Node) (s : Composing) : NodeId × Composing :=
  (id, { s with graph := s.graph.complete id node })

mutual

/-- The node that comes next. -/
def readNode (position : Position) : (fuel : Nat) → Composing → Except Error (NodeId × Composing)
  | 0, _ => .error .malformed
  | fuel + 1, s =>
    match s.next with
    | .alias name =>
      match s.anchors.lookup name with
      | some id => .ok (id, { s.drop with graph := s.graph.refer id })
      | none => .error .malformed
    | _ => do
      let (marks, s) ← s.readMarks
      let name ← s.tagName marks.tag
      readContent position marks.anchor name fuel s

/-- The content of a node behind its marks. -/
def readContent (position : Position) (anchor name : Option String) :
    (fuel : Nat) → Composing → Except Error (NodeId × Composing)
  | 0, _ => .error .malformed
  | fuel + 1, s =>
    let seqTag := collectionTag .seq name
    let mapTag := collectionTag .map name
    match s.next, position with
    | .blockEntry, .blockValue => do
      let (id, s) ← s.add anchor (.sequence seqTag [])
      let (items, s) ← readIndentless fuel s
      return s.complete id (.sequence seqTag items)
    | .scalar text plain, _ => s.drop.addScalar anchor (scalarTag name text plain) text
    | .flowSequenceStart, _ => do
      let (id, s) ← s.drop.add anchor (.sequence seqTag [])
      let (items, s) ← readFlowItems true fuel s
      return s.complete id (.sequence seqTag items)
    | .flowMappingStart, _ => do
      let (id, s) ← s.drop.add anchor (.mapping mapTag [])
      let (entries, s) ← readFlowEntries true fuel s
      return s.complete id (.mapping mapTag entries)
    | .blockSequenceStart, .block | .blockSequenceStart, .blockValue => do
      let (id, s) ← s.drop.add anchor (.sequence seqTag [])
      let (items, s) ← readBlockItems fuel s
      return s.complete id (.sequence seqTag items)
    | .blockMappingStart, .block | .blockMappingStart, .blockValue => do
      let (id, s) ← s.drop.add anchor (.mapping mapTag [])
      let (entries, s) ← readBlockEntries fuel s
      return s.complete id (.mapping mapTag entries)
    | .fault e, _ => .error e
    | _, _ =>
      if anchor.isSome ∨ name.isSome then s.addScalar anchor (scalarTag name [] true) []
      else .error .malformed

/-- The items of a block sequence. -/
def readBlockItems : (fuel : Nat) → Composing → Except Error (List NodeId × Composing)
  | 0, _ => .error .malformed
  | fuel + 1, s =>
    match s.next with
    | .blockEntry => do
      let s := s.drop
      let (item, s) ←
        if endsBlockEntry s.next then pure s.addEmpty else readNode .block fuel s
      let (items, s) ← readBlockItems fuel s
      return (item :: items, s)
    | .blockEnd => .ok ([], s.drop)
    | _ => s.refuse

def readIndentless : (fuel : Nat) → Composing → Except Error (List NodeId × Composing)
  | 0, _ => .error .malformed
  | fuel + 1, s =>
    match s.next with
    | .blockEntry => do
      let s := s.drop
      let (item, s) ←
        if endsIndentlessEntry s.next then pure s.addEmpty else readNode .block fuel s
      let (items, s) ← readIndentless fuel s
      return (item :: items, s)
    | _ => .ok ([], s)

def readBlockEntries : (fuel : Nat) → Composing → Except Error (List Entry × Composing)
  | 0, _ => .error .malformed
  | fuel + 1, s =>
    match s.next with
    | .key => do
      let s := s.drop
      let (key, s) ←
        if endsBlockKey s.next then pure s.addEmpty else readNode .blockValue fuel s
      readBlockValue key fuel s
    | .blockEnd => .ok ([], s.drop)
    | _ => s.refuse

def readBlockValue (key : NodeId) :
    (fuel : Nat) → Composing → Except Error (List Entry × Composing)
  | 0, _ => .error .malformed
  | fuel + 1, s => do
    let (value, s) ←
      if s.next ≠ .value then pure s.addEmpty
      else if endsBlockKey s.drop.next then pure s.drop.addEmpty
      else readNode .blockValue fuel s.drop
    let (entries, s) ← readBlockEntries fuel s
    return ((key, value) :: entries, s)

def readFlowPair (closing : Token) :
    (fuel : Nat) → Composing → Except Error (Entry × Composing)
  | 0, _ => .error .malformed
  | fuel + 1, s => do
    let (key, s) ←
      if endsFlowKey closing s.next then pure s.addEmpty else readNode .flow fuel s
    let (value, s) ←
      if s.next ≠ .value then pure s.addEmpty
      else if endsFlowValue closing s.drop.next then pure s.drop.addEmpty
      else readNode .flow fuel s.drop
    return ((key, value), s)

/-- The items of a flow sequence. An item with a colon is a mapping of a single entry. -/
def readFlowItems (first : Bool) :
    (fuel : Nat) → Composing → Except Error (List NodeId × Composing)
  | 0, _ => .error .malformed
  | fuel + 1, s => do
    if s.next = .flowSequenceEnd then return ([], s.drop)
    let s ← skipComma first s
    if s.next = .flowSequenceEnd then return ([], s.drop)
    let (item, s) ←
      if s.next = .key then do
        let (id, s) ← s.drop.add none (.mapping .map [])
        let (entry, s) ← readFlowPair .flowSequenceEnd fuel s
        pure (s.complete id (.mapping .map [entry]))
      else readNode .flow fuel s
    let (items, s) ← readFlowItems false fuel s
    return (item :: items, s)

/-- The entries of a flow mapping. An entry without a colon has no value. -/
def readFlowEntries (first : Bool) :
    (fuel : Nat) → Composing → Except Error (List Entry × Composing)
  | 0, _ => .error .malformed
  | fuel + 1, s => do
    if s.next = .flowMappingEnd then return ([], s.drop)
    let s ← skipComma first s
    if s.next = .flowMappingEnd then return ([], s.drop)
    let (entry, s) ←
      if s.next = .key then readFlowPair .flowMappingEnd fuel s.drop
      else do
        let (key, s) ← readNode .flow fuel s
        let (value, s) := s.addEmpty
        pure ((key, value), s)
    let (entries, s) ← readFlowEntries false fuel s
    return (entry :: entries, s)

end

/-- What the directives in front of a document say: the handles, and whether there is a version.
A version has to be one of the first major one, and nothing may be said twice. -/
def readDirectives : (handles : List (String × String)) → (versioned : Bool) → List Token →
    Except Error Composing
  | handles, versioned, .directive d :: rest =>
    match d with
    | .version major =>
      if versioned ∨ major ≠ 1 then .error .malformed else readDirectives handles true rest
    | .handle name start =>
      if (handles.lookup name).isSome then .error .malformed
      else readDirectives ((name, start) :: handles) versioned rest
    | .other => readDirectives handles versioned rest
  | handles, _, tokens => .ok { tokens, handles := handles ++ standardHandles }

end Composing

/-- The nodes of the document of some tokens, and its root, if there is a document. There may be
only one. -/
def Graph.ofTokens? (tokens : List Token) : Except Error (Option (NodeId × Graph)) := do
  let fuel := 4 * tokens.length + 4
  let first := (tokens.head?).getD .streamEnd
  if first = .streamEnd then return none
  let (root, s) ←
    if endsDocument first ∧ first ≠ .documentEnd then do
      let s ← Composing.readDirectives [] false tokens
      if s.next ≠ .documentStart then s.refuse
      else if endsDocument s.drop.next then pure s.drop.addEmpty
      else s.drop.readNode .block fuel
    else
      let s : Composing := { tokens, handles := Composing.standardHandles }
      s.readNode .block fuel
  let rest := s.tokens.dropWhile (· == .documentEnd)
  if rest.head? = some .streamEnd then return some (root, s.graph)
  else (← Composing.readDirectives [] false rest).refuse

end Formwork.Yaml
