/-
The document of a YAML text.

* `Composition`: the tokens that are still to be read, and the nodes read so far.
* `node`: the node that comes next, by the grammar of block and flow collections.
* `Document.ofTokens`: the one document of a text. A text without a document has the empty scalar.

Tokens are looked at one by one and only where the grammar asks for them, so that of a fault in the
grammar and a fault in the tokens behind it the first one counts.
-/
import RouteAtlas.Yaml.Graph
import RouteAtlas.Yaml.Token

namespace RouteAtlas.Yaml

/-- A place in the tokens of a document, with the nodes read so far. -/
structure Composition where
  rest : List Token
  /-- What is wrong with the text behind the tokens. -/
  fault : Option Fault
  /-- The handles of tags, with what they stand for. -/
  handles : List (String × String)
  graph : Graph := {}
  /-- The anchors met so far, also those of nodes that are still being read. -/
  anchors : List (String × Nat) := []

namespace Composition

/-- The next token. -/
def peek (p : Composition) : Except Fault Token :=
  match p.rest with
  | t :: _ => .ok t
  | [] => .error (p.fault.getD .malformed)

/-- One token further. -/
def skip (p : Composition) : Composition :=
  { p with rest := p.rest.tail }

/-! ### Adding nodes -/

/-- The number of a new node, which an anchor may be given to. -/
def add (p : Composition) (anchor : Option String) (node : Node) : Nat × Composition :=
  let i := p.graph.nodes.size
  (i, { p with
    graph := { p.graph with nodes := p.graph.nodes.push node }
    anchors := match anchor with
      | some name => (name, i) :: p.anchors
      | none => p.anchors })

/-- A node with all its parts. -/
def complete (p : Composition) (i : Nat) (content : Content) : Composition :=
  { p with graph := { (p.graph.setContent i content) with
      completed := p.graph.completed.push i } }

/-- A new scalar. -/
def addScalar (p : Composition) (anchor : Option String) (tag : Tag) (text : String) :
    Nat × Composition :=
  let (i, p) := p.add anchor ⟨tag, .scalar text⟩
  (i, p.complete i (.scalar text))

/-- The scalar that stands where nothing is written. -/
def addEmpty (p : Composition) : Nat × Composition :=
  p.addScalar none .null ""

end Composition

/-! ### Marks in front of a node -/

/-- The full name of a tag. -/
def Composition.tagName (p : Composition) (handle : Option String) (suffix : String) :
    Except Fault String :=
  match handle with
  | none => .ok suffix
  | some handle =>
    match p.handles.lookup handle with
    | some start => .ok (start ++ suffix)
    | none => .error .malformed

/-- The anchor and the tag in front of a node, in either order, and the place behind them. -/
def Composition.marks (p : Composition) :
    Except Fault (Option String × Option String × Composition) := do
  match ← p.peek with
  | .anchor name =>
    match ← p.skip.peek with
    | .tag handle suffix => .ok (some name, some (← p.tagName handle suffix), p.skip.skip)
    | _ => .ok (some name, none, p.skip)
  | .tag handle suffix =>
    match ← p.skip.peek with
    | .anchor name => .ok (some name, some (← p.tagName handle suffix), p.skip.skip)
    | _ => .ok (none, some (← p.tagName handle suffix), p.skip)
  | _ => .ok (none, none, p)

/-- The tag of a scalar. Without a name, plain scalars have the tag of their form and others are
texts; the name of a single exclamation mark makes any scalar count as plain. -/
def scalarTag (name : Option String) (isPlain : Bool) (text : String) : Tag :=
  match name with
  | none => if isPlain then .ofForm text else .str
  | some name => if name = "!" then .ofForm text else .ofName name

/-- The tag of a collection. -/
def collectionTag (usual : Tag) (name : Option String) : Tag :=
  match name with
  | none => usual
  | some name => if name = "!" then usual else .ofName name

/-! ### The grammar -/

/-- How deeply nodes may be nested. -/
def depthLimit : Nat := 490

mutual

/-- The node that comes next, by its number. In a block, block collections may follow; a sequence
that is the key or the value of a block mapping needs no indentation of its own. The first number
bounds the steps, the second is the number of levels that may still be opened. -/
def node (inBlock unindented : Bool) :
    Nat → Nat → Composition → Except Fault (Nat × Composition)
  | 0, _, _ => .error .malformed
  | _ + 1, 0, _ => .error .tooDeep
  | steps + 1, depth + 1, p => do
    match ← p.peek with
    | .alias name =>
      match p.anchors.lookup name with
      | some i => .ok (i, p.skip)
      | none => .error .malformed
    | _ =>
      let (anchor, name, p) ← p.marks
      let t ← p.peek
      if anchor.any fun name => (p.anchors.lookup name).isSome then .error .malformed
      else content inBlock unindented anchor name t steps depth p
termination_by structural steps => steps

/-- The content of a node behind its marks, in front of the token `t`. Marks without content stand
for the empty scalar. -/
def content (inBlock unindented : Bool) (anchor name : Option String) (t : Token) :
    Nat → Nat → Composition → Except Fault (Nat × Composition)
  | 0, _, _ => .error .malformed
  | steps + 1, depth, p =>
    match t, inBlock, unindented with
    | .scalar isPlain text, _, _ =>
      .ok (p.skip.addScalar anchor (scalarTag name isPlain text) text)
    | .flowSequenceStart, _, _ => do
      let (i, p) := p.skip.add anchor ⟨collectionTag .seq name, .sequence []⟩
      let (items, p) ← flowItems true steps depth p
      .ok (i, p.complete i (.sequence items))
    | .flowMappingStart, _, _ => do
      let (i, p) := p.skip.add anchor ⟨collectionTag .map name, .mapping []⟩
      let (entries, p) ← flowEntries true steps depth p
      .ok (i, p.complete i (.mapping entries))
    | .blockSequenceStart, true, _ => do
      let (i, p) := p.skip.add anchor ⟨collectionTag .seq name, .sequence []⟩
      let (items, p) ← blockItems steps depth p
      .ok (i, p.complete i (.sequence items))
    | .blockMappingStart, true, _ => do
      let (i, p) := p.skip.add anchor ⟨collectionTag .map name, .mapping []⟩
      let (entries, p) ← blockEntries steps depth p
      .ok (i, p.complete i (.mapping entries))
    | .blockEntry, _, true => do
      let (i, p) := p.add anchor ⟨collectionTag .seq name, .sequence []⟩
      let (items, p) ← unindentedItems steps depth p
      .ok (i, p.complete i (.sequence items))
    | _, _, _ =>
      if anchor.isSome || name.isSome then .ok (p.addScalar anchor (scalarTag name true "") "")
      else .error .malformed
termination_by structural steps => steps

/-- A node, or the empty scalar if a token comes next that cannot start one. -/
def nodeUnless (inBlock unindented : Bool) (stops : List Token) :
    Nat → Nat → Composition → Except Fault (Nat × Composition)
  | 0, _, _ => .error .malformed
  | steps + 1, depth, p => do
    if stops.contains (← p.peek) then .ok p.addEmpty
    else node inBlock unindented steps depth p
termination_by structural steps => steps

/-- The items of a block sequence, each behind a dash, up to its end. -/
def blockItems : Nat → Nat → Composition → Except Fault (List Nat × Composition)
  | 0, _, _ => .error .malformed
  | steps + 1, depth, p => do
    match ← p.peek with
    | .blockEntry =>
      let (item, p) ← nodeUnless true false [.blockEntry, .blockEnd] steps depth p.skip
      let (items, p) ← blockItems steps depth p
      .ok (item :: items, p)
    | .blockEnd => .ok ([], p.skip)
    | _ => .error .malformed
termination_by structural steps => steps

/-- The items of a sequence without indentation of its own, as long as dashes follow. -/
def unindentedItems : Nat → Nat → Composition → Except Fault (List Nat × Composition)
  | 0, _, _ => .error .malformed
  | steps + 1, depth, p => do
    match ← p.peek with
    | .blockEntry =>
      let (item, p) ←
        nodeUnless true false [.blockEntry, .key, .value, .blockEnd] steps depth p.skip
      let (items, p) ← unindentedItems steps depth p
      .ok (item :: items, p)
    | _ => .ok ([], p)
termination_by structural steps => steps

/-- The value of an entry, or the empty scalar if none is written. -/
def valueUnless (inBlock : Bool) (stops : List Token) :
    Nat → Nat → Composition → Except Fault (Nat × Composition)
  | 0, _, _ => .error .malformed
  | steps + 1, depth, p => do
    match ← p.peek with
    | .value => nodeUnless inBlock inBlock stops steps depth p.skip
    | _ => .ok p.addEmpty
termination_by structural steps => steps

/-- The entries of a block mapping up to its end. -/
def blockEntries : Nat → Nat → Composition → Except Fault (List (Nat × Nat) × Composition)
  | 0, _, _ => .error .malformed
  | steps + 1, depth, p => do
    match ← p.peek with
    | .key =>
      let (key, p) ← nodeUnless true true [.key, .value, .blockEnd] steps depth p.skip
      let (value, p) ← valueUnless true [.key, .value, .blockEnd] steps depth p
      let (entries, p) ← blockEntries steps depth p
      .ok ((key, value) :: entries, p)
    | .blockEnd => .ok ([], p.skip)
    | _ => .error .malformed
termination_by structural steps => steps

/-- The items of a flow sequence up to its bracket, with commas between them. -/
def flowItems (isFirst : Bool) :
    Nat → Nat → Composition → Except Fault (List Nat × Composition)
  | 0, _, _ => .error .malformed
  | steps + 1, depth, p => do
    match ← p.peek, isFirst with
    | .flowSequenceEnd, _ => .ok ([], p.skip)
    | _, true => flowItem steps depth p
    | .flowEntry, false => flowItem steps depth p.skip
    | _, false => .error .malformed
termination_by structural steps => steps

/-- An item of a flow sequence and the items behind it, or nothing at the bracket. A key makes an
item a mapping of one entry. -/
def flowItem : Nat → Nat → Composition → Except Fault (List Nat × Composition)
  | 0, _, _ => .error .malformed
  | steps + 1, depth, p => do
    match ← p.peek with
    | .flowSequenceEnd => .ok ([], p.skip)
    | .key =>
      let (item, p) := p.skip.add none ⟨.map, .mapping []⟩
      let (key, p) ←
        nodeUnless false false [.value, .flowEntry, .flowSequenceEnd] steps (depth - 1) p
      let (value, p) ← valueUnless false [.flowEntry, .flowSequenceEnd] steps (depth - 1) p
      let (items, p) ← flowItems false steps depth (p.complete item (.mapping [(key, value)]))
      .ok (item :: items, p)
    | _ =>
      let (item, p) ← node false false steps depth p
      let (items, p) ← flowItems false steps depth p
      .ok (item :: items, p)
termination_by structural steps => steps

/-- The entries of a flow mapping up to its brace, with commas between them. -/
def flowEntries (isFirst : Bool) :
    Nat → Nat → Composition → Except Fault (List (Nat × Nat) × Composition)
  | 0, _, _ => .error .malformed
  | steps + 1, depth, p => do
    match ← p.peek, isFirst with
    | .flowMappingEnd, _ => .ok ([], p.skip)
    | _, true => flowEntryAt steps depth p
    | .flowEntry, false => flowEntryAt steps depth p.skip
    | _, false => .error .malformed
termination_by structural steps => steps

/-- An entry of a flow mapping and the entries behind it, or nothing at the brace. A node that is no
key has the empty value. -/
def flowEntryAt : Nat → Nat → Composition → Except Fault (List (Nat × Nat) × Composition)
  | 0, _, _ => .error .malformed
  | steps + 1, depth, p => do
    match ← p.peek with
    | .flowMappingEnd => .ok ([], p.skip)
    | .key =>
      let (key, p) ←
        nodeUnless false false [.value, .flowEntry, .flowMappingEnd] steps depth p.skip
      let (value, p) ← valueUnless false [.flowEntry, .flowMappingEnd] steps depth p
      let (entries, p) ← flowEntries false steps depth p
      .ok ((key, value) :: entries, p)
    | _ =>
      let (key, p) ← node false false steps depth p
      let (value, p) := p.addEmpty
      let (entries, p) ← flowEntries false steps depth p
      .ok ((key, value) :: entries, p)
termination_by structural steps => steps

end

/-! ### Documents -/

/-- A document: its nodes, and the one that all others are parts of. -/
structure Document where
  graph : Graph
  root : Nat
  /-- Whether nodes have anchors, so that one may stand in several places. -/
  isShared : Bool

namespace Document

/-- The handles that need no declaration. -/
def defaultHandles : List (String × String) :=
  [("!", "!"), ("!!", standardTag)]

/-- The place behind the directives in front of a document, with the handles that they declare.
There is at most one version, of the first generation, and one declaration of a handle. -/
def directives (versioned : Bool) (declared : List (String × String)) :
    Nat → Composition → Except Fault Composition
  | 0, _ => .error .malformed
  | steps + 1, p => do
    match ← p.peek with
    | .directive name handle text =>
      if name = "YAML" then
        if versioned || numberOfDigits 10 text.toList != 1 then .error .malformed
        else directives true declared steps p.skip
      else if name = "TAG" then
        if (declared.lookup handle).isSome then .error .malformed
        else directives versioned ((handle, text) :: declared) steps p.skip
      else directives versioned declared steps p.skip
    | _ => .ok { p with handles := declared ++ defaultHandles }

/-- The end of the text behind a document; no further document may follow. -/
def finish (document : Document) : Nat → Composition → Except Fault Document
  | 0, _ => .error .malformed
  | steps + 1, p => do
    match ← p.peek with
    | .documentEnd => finish document steps p.skip
    | .streamEnd => .ok document
    | _ =>
      let _ ← directives false [] steps p
      .error .malformed

/-- The only document of a text, whose root has been read. -/
def only (steps : Nat) (read : Nat × Composition) : Except Fault Document :=
  let (root, p) := read
  finish ⟨p.graph, root, !p.anchors.isEmpty⟩ steps p

/-- The document of a text. Its start may be marked, with directives in front of the mark; a
marked document may be empty. -/
def ofTokens (stream : TokenStream) : Except Fault Document := do
  let steps := 4 * stream.tokens.length + 4
  let p : Composition :=
    { rest := stream.tokens, fault := stream.fault, handles := defaultHandles }
  match ← p.peek with
  | .streamEnd => only steps p.addEmpty
  | .directive .. | .documentStart =>
    let p ← directives false [] steps p
    match ← p.peek with
    | .documentStart =>
      match ← p.skip.peek with
      | .directive .. | .documentStart | .documentEnd | .streamEnd => only steps p.skip.addEmpty
      | _ => only steps (← node true false steps depthLimit p.skip)
    | _ => .error .malformed
  | _ => only steps (← node true false steps depthLimit p)

end Document

end RouteAtlas.Yaml
