/-
What the nodes of a document become.

* `Shape`: a scalar, or a collection whose parts are given by the numbers of their nodes.
* `Shaping`: the shapes found so far, and the collections that are still to be shaped.
* `Shaping.visit`, `Shaping.shape`: a node is visited where it is first met. Scalars have their
  value at once; collections wait until all that were met before them are shaped. So of several
  faults the one that is nearest to the root counts, and of these the first.
* `Shaping.run`: the shapes of all nodes that a node leads to.
* `Shape.value`, `Shaping.values`: the values that the shapes stand for.
-/
import RouteAtlas.Value
import RouteAtlas.Yaml.Graph

namespace RouteAtlas.Yaml

/-- What a node becomes. -/
inductive Shape
  | scalar (value : Value)
  /-- A collection that is still to be shaped. -/
  | waiting
  | list (items : List Nat)
  | map (entries : List (Value × Nat))
  | set (members : List Value)
  /-- A row of pairs. -/
  | rows (pairs : List (Nat × Nat))
  deriving Inhabited

/-- The value that a shape stands for, by the values of the nodes. -/
def Shape.value (values : Nat → Value) : Shape → Value
  | scalar value => value
  | waiting => .repeated
  | list items => .list (items.map values)
  | map entries => .map (entries.map fun entry => (entry.1, values entry.2))
  | set members => .ofMembers members
  | rows pairs => .list (pairs.map fun pair => .tuple [values pair.1, values pair.2])

/-- The shapes of a graph, as far as they are found. -/
structure Shaping where
  graph : Graph
  /-- The shapes by the numbers of the nodes. -/
  shapes : Array (Option Shape)
  /-- The collections that were met and are still to be shaped, the last one first. -/
  pending : List Nat

namespace Shaping

/-- The start: no node has been met. -/
def start (g : Graph) : Shaping :=
  ⟨g, Array.replicate g.nodes.size none, []⟩

/-- The shape of a node, if it has been met. -/
def shape? (s : Shaping) (i : Nat) : Option Shape :=
  (s.shapes[i]?).join

/-- The shaping with the shape of a node. -/
def put (s : Shaping) (i : Nat) (shape : Shape) : Shaping :=
  { s with shapes := s.shapes.setIfInBounds i (some shape) }

/-- Whether a tag asks for a collection. -/
def isCollection : Tag → Bool
  | .seq | .map | .set | .omap | .pairs => true
  | _ => false

/-- A node is met. -/
def visit (s : Shaping) (i : Nat) : Except Fault Shaping :=
  if (s.shape? i).isSome then .ok s
  else if isCollection (s.graph.tag i) then
    .ok { s.put i .waiting with pending := i :: s.pending }
  else
    match s.graph.tag i with
    | .merge | .value | .other => .error .malformed
    | tag => do
      match s.graph.content i, tag with
      | .mapping _, .timestamp =>
        let _ ← s.graph.scalarText i
        .error .momentOfCollection
      | _, _ => .ok (s.put i (.scalar (← scalarValue tag (← s.graph.scalarText i))))

/-- The nodes of a row are met. -/
def visitAll (s : Shaping) (items : List Nat) : Except Fault Shaping :=
  items.foldlM visit s

/-- The value of a node as a key, which must be a scalar. -/
def keyOf (s : Shaping) (i : Nat) : Except Fault Value :=
  match s.shape? i with
  | some (.scalar value) => .ok value
  | _ => .error .malformed

/-- The entries of a mapping by their keys. The last entry of a key counts, in the place of the
first. -/
def enter (s : Shaping) (done : List (Value × Nat)) :
    List (Nat × Nat) → Except Fault (List (Value × Nat) × Shaping)
  | [] => .ok (done, s)
  | (key, value) :: rest => do
    let s ← s.visit key
    let found ← s.keyOf key
    let s ← s.visit value
    s.enter (Value.insert found value done) rest

/-- The entries of a mapping, with those that stand under its merge keys. -/
def entriesOf (s : Shaping) (i : Nat) : Except Fault (List (Value × Nat) × Shaping) := do
  if s.graph.isMapping i then
    let s := { s with graph := ← s.graph.merge i }
    s.enter [] (s.graph.entries i)
  else .error .malformed

/-- The items of a sequence. -/
def itemsOf (s : Shaping) (i : Nat) : Except Fault (List Nat) :=
  match s.graph.content i with
  | .sequence items => .ok items
  | _ => .error .malformed

/-- The pairs of a row of mappings of one entry each. -/
def pairsOf (s : Shaping) : List Nat → Except Fault (List (Nat × Nat) × Shaping)
  | [] => .ok ([], s)
  | i :: rest =>
    match s.graph.content i with
    | .mapping [(key, value)] => do
      let s ← (← s.visit key).visit value
      let (pairs, s) ← s.pairsOf rest
      .ok ((key, value) :: pairs, s)
    | _ => .error .malformed

/-- A collection gets its shape. -/
def shape (s : Shaping) (i : Nat) : Except Fault Shaping := do
  match s.graph.tag i with
  | .seq =>
    let items ← s.itemsOf i
    .ok ((← s.visitAll items).put i (.list items))
  | .map =>
    let (entries, s) ← s.entriesOf i
    .ok (s.put i (.map entries))
  | .set =>
    let (entries, s) ← s.entriesOf i
    .ok (s.put i (.set (entries.map (·.1))))
  | _ =>
    let (pairs, s) ← s.pairsOf (← s.itemsOf i)
    .ok (s.put i (.rows pairs))

/-- The collections of a row get their shapes, and then those that were met on the way. Each node
is shaped once, so twice the number of nodes bounds the steps. -/
def shapeAll : Nat → List Nat → Shaping → Except Fault Shaping
  | 0, _, s => .ok s
  | steps + 1, [], s =>
    if s.pending.isEmpty then .ok s
    else shapeAll steps s.pending.reverse { s with pending := [] }
  | steps + 1, i :: rest, s => do shapeAll steps rest (← s.shape i)

/-- The shapes of all nodes that a node leads to. -/
def run (g : Graph) (root : Nat) : Except Fault Shaping := do
  shapeAll (2 * g.nodes.size + 2) [] (← (start g).visit root)

/-! ### Values -/

/-- The values of the nodes, computed once from the values that their parts have so far. -/
def improve (s : Shaping) (values : Array Value) : Array Value :=
  s.graph.completed.foldl
    (fun values i =>
      match s.shape? i with
      | some shape => values.setIfInBounds i (shape.value fun j => values.getD j .repeated)
      | none => values)
    values

/-- The values of the nodes after some rounds. Without shared nodes one round reaches every value;
nodes that stand inside themselves are followed for as many levels as there are rounds. -/
def values (s : Shaping) : Nat → Array Value
  | 0 => Array.replicate s.graph.nodes.size .repeated
  | rounds + 1 => s.improve (s.values rounds)

end Shaping

end RouteAtlas.Yaml
