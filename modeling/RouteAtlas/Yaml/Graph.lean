/-
The nodes of a document, by number.

* `Node`: a scalar, a sequence or a mapping with its tag; the parts of a collection are given by
  their numbers, so that a node may stand in several places, and inside itself.
* `Graph`: nodes, with the order in which they were completed.
* `Graph.scalarText`: the text of a node as a scalar. A mapping has the text that stands under its
  first value key.
* `Graph.merge`: a mapping takes in the entries of the mappings under its merge keys, in front of
  its own.
-/
import RouteAtlas.Yaml.Scalar

namespace RouteAtlas.Yaml

/-- What a node holds. -/
inductive Content
  | scalar (text : String)
  | sequence (items : List Nat)
  | mapping (entries : List (Nat × Nat))
  deriving DecidableEq, Repr, Inhabited

/-- A node of a document. -/
structure Node where
  tag : Tag
  content : Content
  deriving DecidableEq, Repr, Inhabited

/-- The nodes of a document. -/
structure Graph where
  nodes : Array Node := #[]
  /-- The numbers of the nodes, each behind those of its parts except where it is one of them. -/
  completed : Array Nat := #[]
  deriving Inhabited

namespace Graph

/-! ### Looking up and changing nodes -/

/-- The tag of a node. -/
def tag (g : Graph) (i : Nat) : Tag :=
  (g.nodes.getD i default).tag

/-- What a node holds. -/
def content (g : Graph) (i : Nat) : Content :=
  (g.nodes.getD i default).content

/-- The entries of a node that is a mapping. -/
def entries (g : Graph) (i : Nat) : List (Nat × Nat) :=
  match g.content i with
  | .mapping entries => entries
  | _ => []

/-- Whether a node is a mapping. -/
def isMapping (g : Graph) (i : Nat) : Bool :=
  match g.content i with
  | .mapping _ => true
  | _ => false

/-- The graph with another content of a node. -/
def setContent (g : Graph) (i : Nat) (content : Content) : Graph :=
  { g with nodes := g.nodes.modify i fun node => { node with content } }

/-- The graph with another tag of a node. -/
def setTag (g : Graph) (i : Nat) (tag : Tag) : Graph :=
  { g with nodes := g.nodes.modify i fun node => { node with tag } }

/-! ### Scalars -/

/-- The text of a node as a scalar. The first argument bounds the steps from mapping to mapping. -/
def scalarTextIn (g : Graph) : Nat → Nat → Except Fault String
  | 0, _ => .error .tooDeep
  | steps + 1, i =>
    match g.content i with
    | .scalar text => .ok text
    | .sequence _ => .error .malformed
    | .mapping entries =>
      match entries.find? fun entry => g.tag entry.1 == .value with
      | some (_, value) => g.scalarTextIn steps value
      | none => .error .malformed

/-- The text of a node as a scalar. More steps than there are nodes lead in a circle. -/
def scalarText (g : Graph) (i : Nat) : Except Fault String :=
  g.scalarTextIn (g.nodes.size + 1) i

/-! ### Merging -/

/-- The mappings that a merge key brings in: one, or a row of them. -/
def mergeSources (g : Graph) (i : Nat) : Except Fault (List Nat) :=
  match g.content i with
  | .mapping _ => .ok [i]
  | .sequence items => if items.all g.isMapping then .ok items else .error .malformed
  | .scalar _ => .error .malformed

/-- The graph in which the value keys of some entries are texts. -/
def settleKeys (g : Graph) (entries : List (Nat × Nat)) : Graph :=
  entries.foldl
    (fun g entry => if g.tag entry.1 == .value then g.setTag entry.1 .str else g) g

/-- The graph in which a mapping has taken in what stands under its merge keys. `merged` are the
entries taken in so far; of a row of mappings the entries of the last one come first. Each step
drops a merge key, so the number of these bounds the steps. -/
def mergeFrom : Nat → Nat → List (Nat × Nat) → Graph → Except Fault Graph
  | 0, _, _, _ => .error .tooDeep
  | steps + 1, i, merged, g =>
    let own := g.entries i
    match own.span fun entry => g.tag entry.1 != .merge with
    | (_, []) => .ok ((g.settleKeys own).setContent i (.mapping (merged ++ own)))
    | (before, (_, source) :: after) => do
      let g := g.setContent i (.mapping (before ++ after))
      let (g, brought) ← (← g.mergeSources source).foldlM
        (fun (g, brought) source => do
          let g ← mergeFrom steps source [] g
          pure (g, g.entries source ++ brought))
        (g, [])
      mergeFrom steps i (merged ++ brought) g

/-- The number of merge keys of all mappings. -/
def mergeCount (g : Graph) : Nat :=
  (g.nodes.toList.map fun node =>
    match node.content with
    | .mapping entries => entries.countP fun entry => g.tag entry.1 == .merge
    | _ => 0).foldr (· + ·) 0

/-- The graph in which a mapping has taken in what stands under its merge keys. -/
def merge (g : Graph) (i : Nat) : Except Fault Graph :=
  if (g.entries i).any fun entry => g.tag entry.1 == .merge then
    mergeFrom (g.mergeCount + 2) i [] g
  else .ok (g.settleKeys (g.entries i))

end Graph

end RouteAtlas.Yaml
