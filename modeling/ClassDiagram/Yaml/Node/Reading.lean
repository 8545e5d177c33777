import ClassDiagram.Yaml.Node
import ClassDiagram.Yaml.Plain
import ClassDiagram.Yaml.Token

/-!
# Nodes from tokens

The graph of nodes that a list of tokens writes.  A collection gets its number before its parts are read, so
that an alias inside it can lead back to it.  A token that stands for a fault ends the reading with that
fault as soon as it is looked at, and not before; all else that goes wrong is malformed.
-/

set_option autoImplicit false

namespace ClassDiagram.Yaml

/-- The tag of a node in the text: none, the mark that asks for the type of a plain scalar, or a
name. -/
inductive GivenTag where
  | absent
  | plain
  | named (tag : Tag)
  deriving Repr, DecidableEq

/-- The handles of tags before any directive. -/
def standardHandles : List (String × String) := [("!", "!"), ("!!", standardNames)]

/-- The type of a collection, given or its own. -/
def collectionTag (own : Tag) : GivenTag → Tag
  | .named tag => tag
  | _ => own

/-- The type of a scalar: as given, or that of its text when it is plain or marked as such. -/
def scalarTag (text : String) (plain : Bool) : GivenTag → Tag
  | .named tag => tag
  | .plain => tagOfPlain text
  | .absent => if plain then tagOfPlain text else .str

/-- How deep collections may nest. -/
def deepestCollection : Nat := 488

/-- The reading of nodes: what is left of the tokens, the number of collections around the place, the nodes
so far, the nodes that have an anchor and the handles of tags. -/
structure Reading where
  rest : List Token
  depth : Nat
  graph : Graph
  anchors : List (String × NodeId)
  handles : List (String × String)

namespace Reading

/-- Whether the next token is one of the given ones. -/
def meets (s : Reading) (ts : List Token) : Bool :=
  match s.rest with
  | [] => false
  | t :: _ => ts.contains t

/-- The reading after the next token. -/
def next (s : Reading) : Reading := { s with rest := s.rest.tail }

/-- The fault of the next token, which has no place here. -/
def fault (s : Reading) : Fault :=
  match s.rest with
  | .broken fault :: _ => fault
  | _ => .malformed

/-- Adds a node. -/
def add (s : Reading) (n : Node) : NodeId × Reading :=
  let (id, graph) := s.graph.add n
  (id, { s with graph })

/-- Adds the node of an empty text. -/
def addEmpty (s : Reading) : NodeId × Reading := s.add .empty

/-- Lets an anchor mark a node. -/
def mark (s : Reading) (anchor : Option String) (id : NodeId) : Reading :=
  match anchor with
  | none => s
  | some name => { s with anchors := (name, id) :: s.anchors }

/-- Sets what a node holds. -/
def setContent (s : Reading) (id : NodeId) (content : Content) : Reading :=
  { s with graph := s.graph.setContent id content }

/-- Reads the parts of a collection, one level deeper. -/
def deeper (s : Reading) (read : Reading → Except Fault Reading) : Except Fault Reading :=
  if deepestCollection ≤ s.depth then throw .tooDeep
  else do
    let after ← read { s with depth := s.depth + 1 }
    return { after with depth := s.depth }

/-- The type that a tag in the text names; fails for an unknown handle. -/
def tagOf (s : Reading) (name : TagName) : Except Fault GivenTag := do
  let full ← match name.handle with
    | none => pure name.suffix
    | some handle => (wellFormed (s.handles.lookup handle)).map (· ++ name.suffix)
  return if full == "!" then .plain else .named (Tag.ofName full)

/-- The tag of a node, if it has one. -/
def givenTag (s : Reading) : Option TagName → Except Fault GivenTag
  | none => return .absent
  | some name => s.tagOf name

/-- The anchor and the tag of a node, in either order.  A fault right after the first of them comes before
one in the tag. -/
def properties (s : Reading) : Except Fault (Option String × GivenTag × Reading) := do
  let (anchor, tag, s) : Option String × Option TagName × Reading := match s.rest with
    | .anchor a :: .tag t :: rest => (some a, some t, { s with rest })
    | .tag t :: .anchor a :: rest => (some a, some t, { s with rest })
    | .anchor a :: rest => (some a, none, { s with rest })
    | .tag t :: rest => (none, some t, { s with rest })
    | _ => (none, none, s)
  if anchor.isNone || tag.isNone then
    if let .broken fault :: _ := s.rest then throw fault
  let tag ← s.givenTag tag
  return (anchor, tag, s)

/-- Refuses an anchor that marks a node already. -/
def checkAnchor (s : Reading) (anchor : Option String) : Except Fault Unit :=
  match anchor.bind fun name => s.anchors.lookup name with
  | none => return ()
  | some _ => throw .malformed

end Reading

mutual

/-- A node.  Block collections are read only where `block` holds, and items without indentation of
their own where `bare` does. -/
def readNode (block bare : Bool) : Nat → Reading → Except Fault (NodeId × Reading)
  | 0, _ => throw .malformed
  | fuel + 1, s =>
    match s.rest with
    | .alias name :: rest =>
      (wellFormed (s.anchors.lookup name)).map fun id => (id, { s with rest })
    | _ => do
      let (anchor, tag, s) ← s.properties
      let sequence (s : Reading) (items : NodeId → Reading → Except Fault Reading) :
          Except Fault (NodeId × Reading) := do
        s.checkAnchor anchor
        let (id, s) := s.add ⟨collectionTag .seq tag, .sequence []⟩
        let s ← (s.mark anchor id).deeper (items id)
        return (id, s)
      let mapping (s : Reading) (entries : NodeId → Reading → Except Fault Reading) :
          Except Fault (NodeId × Reading) := do
        s.checkAnchor anchor
        let (id, s) := s.add ⟨collectionTag .map tag, .mapping []⟩
        let s ← (s.mark anchor id).deeper (entries id)
        return (id, s)
      let scalar (s : Reading) (text : String) (plain : Bool) : Except Fault (NodeId × Reading) := do
        s.checkAnchor anchor
        let (id, s) := s.add ⟨scalarTag text plain tag, .scalar text⟩
        return (id, s.mark anchor id)
      match s.rest with
      | .scalar text plain :: rest => scalar { s with rest } text plain
      | .flowSequenceStart :: rest => sequence { s with rest } (flowItems true fuel [])
      | .flowMappingStart :: rest => mapping { s with rest } (flowEntries true fuel [])
      | t :: rest =>
        if bare && t == .blockEntry then sequence s (bareItems fuel [])
        else if block && t == .blockSequenceStart then sequence { s with rest } (blockItems fuel [])
        else if block && t == .blockMappingStart then mapping { s with rest } (blockEntries fuel [])
        else if let .broken fault := t then throw fault
        else if anchor.isSome || tag != .absent then scalar s "" true
        else throw .malformed
      | [] => throw .malformed
termination_by structural fuel => fuel

/-- A node, or an empty one where the next token is one of `ends`. -/
def readNodeUnless (block bare : Bool) (ends : List Token) :
    Nat → Reading → Except Fault (NodeId × Reading)
  | 0, _ => throw .malformed
  | fuel + 1, s => if s.meets ends then return s.addEmpty else readNode block bare fuel s
termination_by structural fuel => fuel

/-- The items of a block sequence up to its end. -/
def blockItems : Nat → List NodeId → NodeId → Reading → Except Fault Reading
  | 0, _, _, _ => throw .malformed
  | fuel + 1, read, id, s =>
    match s.rest with
    | .blockEntry :: rest => do
      let (item, s) ← readNodeUnless true false [.blockEntry, .blockEnd] fuel { s with rest }
      blockItems fuel (item :: read) id s
    | .blockEnd :: rest => return { s with rest }.setContent id (.sequence read.reverse)
    | _ => throw s.fault
termination_by structural fuel => fuel

/-- The items of a sequence that is the value of a mapping and indented like it. -/
def bareItems : Nat → List NodeId → NodeId → Reading → Except Fault Reading
  | 0, _, _, _ => throw .malformed
  | fuel + 1, read, id, s =>
    match s.rest with
    | .blockEntry :: rest => do
      let ends : List Token := [.blockEntry, .key, .value, .blockEnd]
      let (item, s) ← readNodeUnless true false ends fuel { s with rest }
      bareItems fuel (item :: read) id s
    | .broken fault :: _ => throw fault
    | _ => return s.setContent id (.sequence read.reverse)
termination_by structural fuel => fuel

/-- The entries of a block mapping up to its end. -/
def blockEntries : Nat → List (NodeId × NodeId) → NodeId → Reading → Except Fault Reading
  | 0, _, _, _ => throw .malformed
  | fuel + 1, read, id, s =>
    let ends : List Token := [.key, .value, .blockEnd]
    match s.rest with
    | .blockEnd :: rest => return { s with rest }.setContent id (.mapping read.reverse)
    | .key :: rest => do
      let (key, s) ← readNodeUnless true true ends fuel { s with rest }
      let (value, s) ← match s.rest with
        | .value :: rest => readNodeUnless true true ends fuel { s with rest }
        | .broken fault :: _ => throw fault
        | _ => pure s.addEmpty
      blockEntries fuel ((key, value) :: read) id s
    | _ => throw s.fault
termination_by structural fuel => fuel

/-- The items of a flow sequence up to its end.  A key in it begins a mapping of one entry. -/
def flowItems (first : Bool) : Nat → List NodeId → NodeId → Reading → Except Fault Reading
  | 0, _, _, _ => throw .malformed
  | fuel + 1, read, id, s => do
    if let .flowSequenceEnd :: rest := s.rest then
      return { s with rest }.setContent id (.sequence read.reverse)
    if !first && !s.meets [.flowEntry] then throw s.fault
    let s := if first then s else s.next
    match s.rest with
    | .flowSequenceEnd :: rest => return { s with rest }.setContent id (.sequence read.reverse)
    | .key :: rest =>
      let (entry, s) := { s with rest }.add ⟨.map, .mapping []⟩
      let (key, s) ← readNodeUnless false false [.value, .flowEntry, .flowSequenceEnd] fuel s
      let (value, s) ← match s.rest with
        | .value :: rest =>
          readNodeUnless false false [.flowEntry, .flowSequenceEnd] fuel { s with rest }
        | .broken fault :: _ => throw fault
        | _ => pure s.addEmpty
      flowItems false fuel (entry :: read) id (s.setContent entry (.mapping [(key, value)]))
    | _ =>
      let (item, s) ← readNode false false fuel s
      flowItems false fuel (item :: read) id s
termination_by structural fuel => fuel

/-- The entries of a flow mapping up to its end.  A node alone is a key without a value. -/
def flowEntries (first : Bool) :
    Nat → List (NodeId × NodeId) → NodeId → Reading → Except Fault Reading
  | 0, _, _, _ => throw .malformed
  | fuel + 1, read, id, s => do
    if let .flowMappingEnd :: rest := s.rest then
      return { s with rest }.setContent id (.mapping read.reverse)
    if !first && !s.meets [.flowEntry] then throw s.fault
    let s := if first then s else s.next
    match s.rest with
    | .flowMappingEnd :: rest => return { s with rest }.setContent id (.mapping read.reverse)
    | .key :: rest =>
      let ends : List Token := [.value, .flowEntry, .flowMappingEnd]
      let (key, s) ← readNodeUnless false false ends fuel { s with rest }
      let (value, s) ← match s.rest with
        | .value :: rest =>
          readNodeUnless false false [.flowEntry, .flowMappingEnd] fuel { s with rest }
        | .broken fault :: _ => throw fault
        | _ => pure s.addEmpty
      flowEntries false fuel ((key, value) :: read) id s
    | _ =>
      let (key, s) ← readNode false false fuel s
      let (value, s) := s.addEmpty
      flowEntries false fuel ((key, value) :: read) id s
termination_by structural fuel => fuel

end

/-- The handles that directives declare, over the standard ones, and the tokens after them.  A version may
be given once and must be of the first generation; no handle may be declared twice. -/
def readHandles : Bool → List (String × String) → List Token →
    Except Fault (List (String × String) × List Token)
  | seen, handles, .directive (.version major _) :: rest =>
    if seen || major != 1 then throw .malformed else readHandles true handles rest
  | seen, handles, .directive (.tag handle meaning) :: rest =>
    if (handles.lookup handle).isSome then throw .malformed
    else readHandles seen ((handle, meaning) :: handles) rest
  | seen, handles, .directive .other :: rest => readHandles seen handles rest
  | _, handles, rest => return (handles ++ standardHandles, rest)

/-- Whether a document is empty before these tokens. -/
def endsDocument : List Token → Bool
  | .documentStart :: _ | .documentEnd :: _ | .streamEnd :: _ | .directive _ :: _ => true
  | _ => false

/-- The root of the only document in a list of tokens: nothing for no tokens at all.  A document after
directives begins with its mark. -/
def readRoot (tokens : List Token) : Except Fault (Option NodeId × Reading) := do
  let fuel := 2 * tokens.length + 2
  let (handles, body) ← readHandles false [] tokens
  let s : Reading := ⟨body, 0, .empty, [], handles⟩
  match body with
  | .documentStart :: rest =>
    let s := { s with rest }
    let (root, s) ← if endsDocument rest then pure s.addEmpty else readNode true false fuel s
    return (some root, s)
  | _ =>
    if body.length < tokens.length then throw s.fault
    else if body == [.streamEnd] then return (none, s)
    else
      let (root, s) ← readNode true false fuel s
      return (some root, s)

/-- Makes sure that nothing but ends of documents follows a document.  Directives are read before anything
that follows is refused. -/
def checkEnd (s : Reading) : Except Fault Unit :=
  match s.rest.dropWhile (· == .documentEnd) with
  | [.streamEnd] => return ()
  | rest => do
    let (_, rest) ← readHandles false [] rest
    throw { s with rest }.fault

/-- The graph and the root of the only document in a list of tokens, if there is one. -/
def Graph.ofTokens (tokens : List Token) : Except Fault (Option NodeId × Graph) := do
  let (root, s) ← readRoot tokens
  if root.isSome then checkEnd s
  return (root, s.graph)

end ClassDiagram.Yaml
