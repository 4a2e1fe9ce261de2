/-
Documents: operations by path and method, with the schemas that they refer to.

* `PathItem`: the operations of one path, by method.
* `Document`: title, servers, paths and registered schemas.
* `Document.add`, `Document.addAll`: operations under paths. Paths and methods keep the order in which they were
  first entered; a second operation for one method of a path stands in the place of the first.
* `Document.names_paths_add`, `Document.item_add`: an operation adds its path at the end if it is
  new, and changes the entry of its path only.
* `Document.tree`: a document as a value.
-/
import RouteAtlas.Document.Operation

namespace RouteAtlas

/-- The operations of one path, by method. -/
structure PathItem where
  path : String
  operations : Listing Operation := []

namespace PathItem

/-- The path with an operation under its method. -/
def add (item : PathItem) (op : Operation) : PathItem :=
  { item with operations := item.operations.put op.method op }

/-- A path with its operations as a value. -/
def tree (item : PathItem) : Value :=
  .record (item.operations.map fun entry => (entry.1, entry.2.tree))

end PathItem

/-- A server of an interface. -/
structure Server where
  url : String
  description : Option String := none
  deriving DecidableEq, Repr

/-- A server as a value; an empty description is left out. -/
def Server.tree (s : Server) : Value :=
  .record (("url", .text s.url)
    :: match s.description with
      | some description => if description = "" then [] else [("description", .text description)]
      | none => [])

/-- A server by its fields. -/
def Server.read (fields : List (Value × Value)) : Checked Server :=
  (fun url description => ⟨url, description⟩)
    <$> Value.required fields "url" Value.readText
    <*> Value.withDefault fields "description" (Value.readOptional Value.readText) none

/-- The description of an interface. -/
structure Document where
  /-- The version of the format. -/
  formatVersion : String := "3.1.0"
  title : String
  version : String := "0.0.1"
  servers : List Server := []
  paths : Listing PathItem := []
  /-- The schemas that references lead to, by name. -/
  components : Listing Schema := []

namespace Document

/-- The entry of a path, which is empty if there is none yet. -/
def item (d : Document) (path : String) : PathItem :=
  (d.paths.get? path).getD ⟨path, []⟩

/-- The document with an entry for a path. -/
def addPath (d : Document) (path : String) : Document :=
  { d with paths := d.paths.put path (d.item path) }

/-- The document with an operation under a path and its own method. -/
def add (d : Document) (path : String) (op : Operation) : Document :=
  { d with paths := d.paths.put path ((d.item path).add op) }

/-- The document with operations, each under its path and its own method. -/
def addAll (d : Document) (operations : List (String × Operation)) : Document :=
  operations.foldl (fun d entry => d.add entry.1 entry.2) d

/-- The document with one more server. -/
def addServer (d : Document) (server : Server) : Document :=
  { d with servers := d.servers ++ [server] }

/-- The operation of a method of a path. -/
def operation (d : Document) (path method : String) : Except Failure Operation :=
  match d.paths.get? path with
  | none => .error (.noEntry path)
  | some item =>
    match item.operations.get? method with
    | none => .error (.noEntry method)
    | some op => .ok op

/-- The document with the operation under a method of a path changed, in its place. -/
def alterOperation (d : Document) (path method : String) (change : Operation → Operation) :
    Document :=
  { d with paths := d.paths.alter path fun item =>
      { item with operations := item.operations.alter method change } }

/-- An operation adds its path at the end if it is new. -/
theorem names_paths_add (d : Document) (path : String) (op : Operation) :
    (d.add path op).paths.names =
      if path ∈ d.paths.names then d.paths.names else d.paths.names ++ [path] :=
  Listing.names_put _ _ _

/-- An operation changes the entry of its path only. -/
theorem item_add (d : Document) (path other : String) (op : Operation) :
    (d.add path op).item other = if path = other then (d.item path).add op else d.item other := by
  rw [item, add, Listing.get?_put]
  split
  · rfl
  · rfl

/-- A document as a value. Registered schemas are left out if there are none. -/
def tree (d : Document) : Value :=
  .record ([("openapi", .text d.formatVersion),
      ("info", .record [("title", .text d.title), ("version", .text d.version)]),
      ("servers", .list (d.servers.map (·.tree))),
      ("paths", .record (d.paths.map fun entry => (entry.1, entry.2.tree)))]
    ++ if d.components.isEmpty then []
      else [("components", .record [("schemas", .record (Schema.trees d.components))])])

end Document

end RouteAtlas
