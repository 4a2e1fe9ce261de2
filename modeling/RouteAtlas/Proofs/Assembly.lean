/-
How a document is made of the operations of a run.

A document is a listing of paths whose items are listings of operations by method. On both levels
an entry that is replaced keeps its first position and takes the last value; the invariant says this
for the whole row of operations that was entered so far.

* `PathItem.Lists`, `PathItem.Lists.add`: the invariant of one path, and one more operation.
* `Document.Lists`, `Document.Lists.add`: the invariant of a document, and one more operation.
* `Document.Lists.addAll`: the invariant of a whole row.
* `Generator.generate_assembles`: **a document has the operations of its run**, each path and each
  method where it first occurs, with the last operation.
-/
import RouteAtlas.Proofs.Run

namespace RouteAtlas

/-! ### The operations of one path -/

namespace PathItem

/-- **An item lists operations**: it is the item of their path and holds each under its own method,
the methods in the order in which they first occur and the last operation of each. -/
structure Lists (item : PathItem) (path : String) (ops : List Operation) : Prop where
  path_eq : item.path = path
  collects : item.operations.Collects (ops.map fun op => (op.method, op))

namespace Lists

variable {item : PathItem} {path : String} {ops : List Operation}

/-- The empty item lists nothing. -/
lemma nil (path : String) : Lists ⟨path, []⟩ path [] :=
  ⟨rfl, Listing.Collects.nil⟩

/-- **One more operation** is listed at the end. -/
lemma add (h : item.Lists path ops) (op : Operation) : (item.add op).Lists path (ops ++ [op]) := by
  refine ⟨h.path_eq, ?_⟩
  rw [List.map_append, List.map_singleton]
  exact h.collects.put op.method op

/-- The methods are the distinct methods of the operations, in the order in which they first
occur. -/
lemma names (h : item.Lists path ops) :
    item.operations.names = (ops.map (·.method)).eraseDups := by
  rw [h.collects.names, List.map_map]
  rfl

/-- Under a method stands its last operation. -/
lemma get? (h : item.Lists path ops) (method : String) :
    item.operations.get? method = (ops.filter (·.method = method)).getLast? := by
  rw [h.collects.get?, Listing.valuesOf_map]

end Lists

end PathItem

/-! ### The operations of a document -/

namespace Document

/-- **A document lists a row of operations**: its paths are the distinct paths of the row, in the
order in which they first occur, and the item of each lists the operations of its path. -/
structure Lists (d : Document) (rows : List (String × Operation)) : Prop where
  names : d.paths.names = (rows.map (·.1)).eraseDups
  item : ∀ path, (d.item path).Lists path (Listing.valuesOf rows path)

namespace Lists

variable {d : Document} {rows : List (String × Operation)}

/-- A document without paths lists nothing. -/
lemma nil (h : d.paths = []) : d.Lists [] := by
  refine ⟨by rw [h]; rfl, fun path => ?_⟩
  rw [Document.item, h]
  exact PathItem.Lists.nil path

/-- **One more operation** is listed at the end, and leaves the items of other paths alone. -/
lemma add (h : d.Lists rows) (path : String) (op : Operation) :
    (d.add path op).Lists (rows ++ [(path, op)]) := by
  constructor
  · rw [names_paths_add, List.map_append, List.map_singleton, eraseDups_concat, h.names]
  · intro other
    rw [item_add, Listing.valuesOf_concat]
    by_cases hother : path = other
    · subst hother
      rw [if_pos rfl, if_pos rfl]
      exact (h.item path).add op
    · rw [if_neg hother, if_neg hother]
      exact h.item other

/-- A row of operations is listed behind what was listed before. -/
lemma addAll {done : List (String × Operation)} (h : d.Lists done)
    (rows : List (String × Operation)) : (d.addAll rows).Lists (done ++ rows) := by
  induction rows generalizing d done with
  | nil =>
      rw [List.append_nil]
      exact h
  | cons row rest ih =>
      have hstep := ih (h.add row.1 row.2)
      rw [List.append_assoc] at hstep
      exact hstep

/-- Registered schemas do not count for what a document lists. -/
lemma withComponents (h : d.Lists rows) (components : Listing Schema) :
    Lists { d with components } rows :=
  ⟨h.names, h.item⟩

/-- A path of the document has its item. -/
lemma get?_of_mem {path : String} (h : path ∈ d.paths.names) :
    d.paths.get? path = some (d.item path) := by
  rw [Document.item]
  cases hget : d.paths.get? path with
  | none => exact absurd h (Listing.get?_eq_none_iff.mp hget)
  | some item => rfl

end Lists

end Document

namespace Generator

variable {g : Generator}

/-- The document of a run without a last change lists the rows of the run. -/
lemma exists_lists_of_generate (ht : g.transform = fun d => .ok (some d)) {routes : List Route}
    {out : Outcome} (h : g.generate routes = .ok out) :
    ∃ rows d, g.select routes = .ok (routes.filter g.keeps) ∧
      g.Run {} (routes.filter g.keeps) rows out.registry ∧ out.document = some d ∧
      d.Lists rows := by
  obtain ⟨rows, hselect, hrun, htransform⟩ := exists_run_of_generate h
  rw [ht] at htransform
  cases hdocument : out.document with
  | none => rw [hdocument] at htransform; cases htransform
  | some d =>
      rw [hdocument] at htransform
      cases htransform
      have hempty : g.settings.document.Lists [] := Document.Lists.nil rfl
      exact ⟨rows, _, hselect, hrun, rfl, (hempty.addAll rows).withComponents _⟩

/-- **A document has the operations of its run.** The selected class-based routes have one row each,
in their order, as the last change to operations leaves it. The paths of the document are the
distinct paths of the rows, and the methods of a path the distinct methods of its rows, both in the
order in which they first occur; under a path and a method stands the last of their rows, which has
this method. -/
theorem generate_assembles (ht : g.transform = fun d => .ok (some d)) {routes : List Route}
    {out : Outcome} (h : g.generate routes = .ok out) :
    ∃ rows d, g.select routes = .ok (routes.filter g.keeps) ∧
      g.Run {} (routes.filter g.keeps) rows out.registry ∧ out.document = some d ∧
      d.paths.names = (rows.map (·.1)).eraseDups ∧
      ∀ path ∈ d.paths.names, ∃ item, d.paths.get? path = some item ∧ item.path = path ∧
        item.operations.names =
          ((rows.filter (·.1 = path)).map fun row => row.2.method).eraseDups ∧
        ∀ method ∈ item.operations.names, ∃ op, item.operations.get? method = some op ∧
          op.method = method ∧
          (rows.filter fun row => row.1 = path ∧ row.2.method = method).getLast? =
            some (path, op) := by
  obtain ⟨rows, d, hselect, hrun, hdocument, hlists⟩ := exists_lists_of_generate ht h
  refine ⟨rows, d, hselect, hrun, hdocument, hlists.names, fun path hpath => ?_⟩
  have hitem := hlists.item path
  refine ⟨d.item path, Document.Lists.get?_of_mem hpath, hitem.path_eq, ?_, ?_⟩
  · rw [hitem.names, Listing.valuesOf, List.map_map]
    rfl
  · intro method hmethod
    have hrows := Listing.filter_pairs rows path (·.method = method)
    cases hget : (d.item path).operations.get? method with
    | none => exact absurd hmethod (Listing.get?_eq_none_iff.mp hget)
    | some op =>
        have hlast := hget
        rw [hitem.get?] at hlast
        have hop := List.mem_filter.mp (List.mem_of_getLast? hlast)
        refine ⟨op, rfl, of_decide_eq_true hop.2, ?_⟩
        simp only [Bool.decide_and, hrows, List.getLast?_map, hlast]
        rfl

/-- A generator for all routes whose last change makes every `patch` a `put`. -/
def patchless : Generator where
  filter := some fun _ => .ok true
  adjust op _ := .ok { op with method := if op.method = "patch" then "put" else op.method }

/-- A route to a method of a controller, with a summary. -/
def userRoute (httpMethod uri summary : String) : Route where
  methods := [httpMethod]
  uri := uri
  handler := some {
    classInfo := some { name := "App.UserController" }
    method := some "run"
    doc := some { summary } }

/-- Routes of which the third has no class, and the fourth has the path of the first with and its
method after the last change. -/
def collidingRoutes : List Route :=
  [userRoute "PUT" "api/users/{id}" "replace", userRoute "GET" "api/users" "list",
    { methods := [], uri := "api/status" }, userRoute "PATCH" "users/{id}" "change",
    userRoute "GET" "api/users/{id}" "show"]

/-- **Colliding routes**: the later operation of a method stands in the place of the earlier one. -/
theorem collidingRoutes_assembles :
    ∃ out d item op, patchless.generate collidingRoutes = .ok out ∧ out.document = some d ∧
      d.paths.names = ["/users/{id}", "/users"] ∧ d.paths.get? "/users/{id}" = some item ∧
      item.operations.names = ["put", "get"] ∧ item.operations.get? "put" = some op ∧
      op.summary = "change" := by
  obtain ⟨out, hout⟩ : ∃ out, patchless.generate collidingRoutes = .ok out := by
    have hok : (patchless.generate collidingRoutes).toOption.isSome = true := by decide +kernel
    cases hgenerate : patchless.generate collidingRoutes with
    | error failure => rw [hgenerate] at hok; cases hok
    | ok out => exact ⟨out, rfl⟩
  obtain ⟨rows, d, -, hrun, hdocument, hnames, hitems⟩ := generate_assembles rfl hout
  let shown (row : String × Operation) := (row.1, row.2.method, row.2.summary)
  have hrows : rows.map shown = [("/users/{id}", "put", "replace"), ("/users", "get", "list"),
      ("/users/{id}", "put", "change"), ("/users/{id}", "get", "show")] := by
    have hall : (patchless.resolveAll (collidingRoutes.filter patchless.keeps) {}).toOption.map
        (fun result => result.1.map shown) = some [("/users/{id}", "put", "replace"),
          ("/users", "get", "list"), ("/users/{id}", "put", "change"),
          ("/users/{id}", "get", "show")] := by decide +kernel
    rw [run_iff.mp hrun] at hall
    exact Option.some.inj hall
  have hpaths : rows.map (·.1) = ["/users/{id}", "/users", "/users/{id}", "/users/{id}"] := by
    have h := congrArg (List.map (·.1)) hrows
    rwa [List.map_map] at h
  have hkeys : d.paths.names = ["/users/{id}", "/users"] := by
    rw [hnames, hpaths]
    decide
  obtain ⟨item, hitem, -, hmethods, hops⟩ := hitems "/users/{id}" (by rw [hkeys]; decide)
  have hshown : item.operations.names = ["put", "get"] := by
    have hfilter : ((rows.map shown).filter (·.1 = "/users/{id}")).map (·.2.1) =
        (rows.filter (·.1 = "/users/{id}")).map fun row => row.2.method := by
      rw [List.filter_map, List.map_map]
      rfl
    rw [hmethods, ← hfilter, hrows]
    decide
  obtain ⟨op, hop, -, hlast⟩ := hops "put" (by rw [hshown]; decide)
  refine ⟨out, d, item, op, hout, hdocument, hkeys, hitem, hshown, hop, ?_⟩
  have hfilter : ((rows.map shown).filter fun row => row.1 = "/users/{id}" ∧ row.2.1 = "put") =
      (rows.filter fun row => row.1 = "/users/{id}" ∧ row.2.method = "put").map shown :=
    List.filter_map
  have hput := congrArg List.getLast? hfilter
  rw [List.getLast?_map, hlast, hrows] at hput
  have hsummary := congrArg (Option.map fun row => row.2.2) hput
  exact (Option.some.inj hsummary).symm

end Generator

end RouteAtlas
