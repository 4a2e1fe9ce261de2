/-
The order of the routes counts for the order of a document only.

Without responses of a host a route has the same row in every run, whatever was registered before
it. So the rows of a run are those that its routes have by themselves, and routes in another order
have the same rows in another order. A document that is made of them differs in the order of its
paths and of the methods of a path, if no two rows have one path and one method.

* `Document.Reorders`: two documents that differ in the order of their entries only;
  `Document.addAll_reorders`: rows in another order make up such documents.
* `Generator.alone`, `Generator.resolve_eq_alone`: **a route by itself**, and in a run.
* `Generator.Run.rows_eq`, `Generator.exists_run_iff`: the rows of a run, and when there is one.
* `Generator.exists_generate_iff`, `Generator.document_of_generate`: when there is a document, and
  which one it is.
* `Generator.generate_perm`: **routes in another order** fail alike or have documents that differ in
  their order only.
-/
import Mathlib.Data.List.Nodup
import Mathlib.Data.List.Perm.Basic
import RouteAtlas.Proofs.Assembly

namespace RouteAtlas

/-! ### Documents of rows in another order -/

namespace Document

/-- The path and the method of a row. -/
def keyOf (row : String × Operation) : String × String :=
  (row.1, row.2.method)

/-- The operations of a document, each with the path and the method under which it stands. -/
def entries (d : Document) : List (String × String × Operation) :=
  d.paths.flatMap fun entry => entry.2.operations.map fun op => (entry.1, op)

/-- **Two documents that differ in the order of their entries only.** They say the same apart from
the paths, have the same paths in any order and under each path the same operations by method in any
order, and so they have the same operations by path and method. -/
structure Reorders (d d' : Document) : Prop where
  formatVersion_eq : d'.formatVersion = d.formatVersion
  title_eq : d'.title = d.title
  version_eq : d'.version = d.version
  servers_eq : d'.servers = d.servers
  components_eq : d'.components = d.components
  names : d'.paths.names.Perm d.paths.names
  path_eq : ∀ path, (d'.item path).path = (d.item path).path
  operations : ∀ path, (d'.item path).operations.Perm (d.item path).operations
  entries : d'.entries.Perm d.entries

/-- Entered operations change the paths only. -/
lemma addAll_eq (d : Document) (rows : List (String × Operation)) :
    d.addAll rows = { d with paths := (d.addAll rows).paths } := by
  induction rows generalizing d with
  | nil => rfl
  | cons row rest ih => exact ih (d.add row.1 row.2)

/-- Of rows with distinct keys those of one path have distinct methods. -/
lemma nodup_methods {rows : List (String × Operation)} (hkeys : (rows.map keyOf).Nodup)
    (path : String) : ((Listing.valuesOf rows path).map (·.method)).Nodup := by
  have hpath : (rows.filter (·.1 = path)).map keyOf =
      ((Listing.valuesOf rows path).map (·.method)).map (Prod.mk path) := by
    rw [Listing.valuesOf, List.map_map, List.map_map]
    refine List.map_congr_left fun row hrow => ?_
    have hname : row.1 = path := by simpa using (List.mem_filter.mp hrow).2
    exact Prod.ext hname rfl
  refine List.Nodup.of_map (Prod.mk path) ?_
  rw [← hpath]
  exact hkeys.sublist (List.filter_sublist.map keyOf)

namespace Lists

variable {d d' : Document} {rows rows' : List (String × Operation)}

/-- The paths of a document are distinct. -/
lemma nodup_names (h : d.Lists rows) : d.paths.names.Nodup := by
  rw [h.names, ← (Listing.collects_ofPairs rows).names]
  exact Listing.nodup_names_ofPairs rows

/-- The operations of a document are those of the items of its paths. -/
lemma entries_eq (h : d.Lists rows) :
    d.entries = d.paths.names.flatMap fun path =>
      (d.item path).operations.map fun op => (path, op) := by
  rw [Document.entries, Listing.names, List.flatMap_map]
  refine List.flatMap_congr fun entry hentry => ?_
  rw [Document.item, Listing.get?_of_mem h.nodup_names hentry]
  rfl

/-- Operations with distinct methods make up the item of their path, in their order. -/
lemma operations_eq (h : d.Lists rows) (hkeys : (rows.map keyOf).Nodup) (path : String) :
    (d.item path).operations = (Listing.valuesOf rows path).map fun op => (op.method, op) := by
  refine (h.item path).collects.eq_of_nodup ?_
  rw [List.map_map]
  exact nodup_methods hkeys path

/-- Rows in another order have the same paths. -/
lemma names_perm (h : d.Lists rows) (h' : d'.Lists rows') (hperm : rows.Perm rows') :
    d'.paths.names.Perm d.paths.names := by
  refine (List.perm_ext_iff_of_nodup h'.nodup_names h.nodup_names).mpr fun path => ?_
  rw [h.names, h'.names, List.mem_eraseDups, List.mem_eraseDups, (hperm.map _).mem_iff]

/-- Rows with distinct keys in another order have the same operations under every path. -/
lemma operations_perm (h : d.Lists rows) (h' : d'.Lists rows') (hperm : rows.Perm rows')
    (hkeys : (rows.map keyOf).Nodup) (path : String) :
    (d'.item path).operations.Perm (d.item path).operations := by
  have hkeys' : (rows'.map keyOf).Nodup := (hperm.map keyOf).nodup_iff.mp hkeys
  rw [h.operations_eq hkeys, h'.operations_eq hkeys']
  exact ((hperm.symm.filter _).map _).map _

end Lists

/-- **Rows with distinct keys in another order** make up documents that differ in their order
only. -/
theorem addAll_reorders {d : Document} (hempty : d.paths = [])
    {rows rows' : List (String × Operation)} (hperm : rows.Perm rows')
    (hkeys : (rows.map keyOf).Nodup) :
    (d.addAll rows).Reorders (d.addAll rows') := by
  have h : (d.addAll rows).Lists rows := (Lists.nil hempty).addAll rows
  have h' : (d.addAll rows').Lists rows' := (Lists.nil hempty).addAll rows'
  have hnames := h.names_perm h' hperm
  have hoperations := h.operations_perm h' hperm hkeys
  refine ⟨?_, ?_, ?_, ?_, ?_, hnames, ?_, hoperations, ?_⟩
  · rw [addAll_eq d rows, addAll_eq d rows']
  · rw [addAll_eq d rows, addAll_eq d rows']
  · rw [addAll_eq d rows, addAll_eq d rows']
  · rw [addAll_eq d rows, addAll_eq d rows']
  · rw [addAll_eq d rows, addAll_eq d rows']
  · exact fun path => (h'.item path).path_eq.trans (h.item path).path_eq.symm
  · rw [h.entries_eq, h'.entries_eq]
    exact List.Perm.flatMap hnames fun path _ => (hoperations path).map _

end Document

namespace Generator

variable {g : Generator}

/-! ### Routes by themselves -/

/-- **A route by itself**, without other routes before it. -/
def alone (g : Generator) (r : Route) : Except Failure (Option (String × Operation)) :=
  (g.resolve r {}).1

/-- The row of a route by itself, if it has one. -/
def row? (g : Generator) (r : Route) : Option (String × Operation) :=
  match g.alone r with
  | .ok row? => row?
  | .error _ => none

/-- **Without responses of a host a route comes to the same in every run**, and no component is
registered for it. -/
lemma resolve_eq_alone (hresponses : g.responses = fun _ => .done []) (r : Route) (k : Registry) :
    (g.resolve r k).1 = g.alone r ∧ (g.resolve r k).2.components = k.components := by
  rw [alone, resolve, resolve]
  cases r.endpoint? with
  | none => exact ⟨rfl, rfl⟩
  | some e =>
      simp only [operation, hresponses, Consultation.run]
      cases e.route.method with
      | error failure => exact ⟨rfl, rfl⟩
      | ok method =>
          dsimp only
          cases g.outline e method with
          | error failure => exact ⟨rfl, rfl⟩
          | ok outline =>
              dsimp only
              cases g.adjust { outline with responses := [] } e <;> exact ⟨rfl, rfl⟩

/-- A route with an endpoint has a row, if it does not fail. -/
lemma exists_row_of_alone {r : Route} {e : Endpoint} (he : r.endpoint? = some e)
    {answer : Option (String × Operation)} (h : g.alone r = .ok answer) :
    ∃ row, answer = some row := by
  rw [alone, resolve, he] at h
  dsimp only at h
  split at h
  · next row k hrow => exact ⟨row, (Except.ok.inj h).symm⟩
  · cases h

/-- **The rows of a run are those of its routes by themselves**, and no component is registered. -/
lemma Run.rows_eq (hresponses : g.responses = fun _ => .done []) {k k' : Registry}
    {routes : List Route} {rows : List (String × Operation)} (h : g.Run k routes rows k') :
    rows = routes.filterMap g.row? ∧ k'.components = k.components := by
  induction h with
  | nil k => exact ⟨rfl, rfl⟩
  | @skip k k' r routes rows hclass _ ih =>
      have hnone : g.row? r = none := by
        rw [row?, alone, resolve_of_none (Route.endpoint?_eq_none_iff.mpr hclass)]
      rw [List.filterMap_cons_none hnone]
      exact ih
  | @step k k₁ k' r routes row rows hrow _ ih =>
      obtain ⟨halone, hcomponents⟩ := resolve_eq_alone hresponses r k
      rw [hrow] at halone hcomponents
      have hsome : g.row? r = some row := by rw [row?, ← halone]
      rw [List.filterMap_cons_some hsome]
      exact ⟨congrArg (row :: ·) ih.1, ih.2.trans hcomponents⟩

/-- **Routes have a run exactly if none of them fails by itself.** -/
lemma exists_run_iff (hresponses : g.responses = fun _ => .done []) (routes : List Route)
    (k : Registry) : (∃ rows k', g.Run k routes rows k') ↔
      ∀ r ∈ routes, ∃ answer, g.alone r = .ok answer := by
  induction routes generalizing k with
  | nil => exact ⟨fun _ => List.forall_mem_nil _, fun _ => ⟨[], k, Run.nil k⟩⟩
  | cons r rest ih =>
      rw [List.forall_mem_cons]
      cases he : r.endpoint? with
      | none =>
          have hclass := Route.endpoint?_eq_none_iff.mp he
          have halone : g.alone r = .ok none := by rw [alone, resolve_of_none he]
          rw [← ih k]
          constructor
          · rintro ⟨rows, k', h⟩
            cases h with
            | skip _ h => exact ⟨⟨none, halone⟩, rows, k', h⟩
            | step hrow _ => rw [resolve_of_none he] at hrow; cases hrow
          · rintro ⟨-, rows, k', h⟩
            exact ⟨rows, k', Run.skip hclass h⟩
      | some e =>
          have hresolve := (resolve_eq_alone hresponses r k).1
          constructor
          · rintro ⟨rows, k', h⟩
            obtain ⟨row, k₁, others, rfl, hrow, hrest⟩ :=
              h.of_cons (Route.isClassBased_of_endpoint? he)
            rw [hrow] at hresolve
            exact ⟨⟨some row, hresolve.symm⟩, (ih k₁).mp ⟨others, k', hrest⟩⟩
          · rintro ⟨⟨answer, halone⟩, hrest⟩
            obtain ⟨row, rfl⟩ := exists_row_of_alone he halone
            obtain ⟨others, k', h⟩ := (ih (g.resolve r k).2).mpr hrest
            exact ⟨row :: others, k', Run.step (Prod.ext (hresolve.trans halone) rfl) h⟩

/-! ### Documents of routes -/

/-- Routes are selected exactly if the filter answers on all that do not serve documentation. -/
lemma exists_select_iff (routes : List Route) : (∃ selected, g.select routes = .ok selected) ↔
    ∀ r ∈ routes, g.servesDocs r = false → ∃ isAdmitted, g.admits r = .ok isAdmitted := by
  induction routes with
  | nil => exact ⟨fun _ => List.forall_mem_nil _, fun _ => ⟨[], rfl⟩⟩
  | cons r rest ih =>
      rw [List.forall_mem_cons, ← ih]
      cases hdocs : g.servesDocs r with
      | true => simp [select_cons_of_servesDocs hdocs]
      | false =>
          cases hadmits : g.admits r with
          | error failure => simp [select_cons_of_error hdocs hadmits]
          | ok isAdmitted =>
              rw [select_cons_of_ok hdocs hadmits]
              cases g.select rest <;> simp [Except.map]

/-- **There is a document exactly if no route fails by itself**: the filter answers on every route
that does not serve documentation, and the routes that are kept do not fail. -/
lemma exists_generate_iff (hresponses : g.responses = fun _ => .done [])
    (ht : g.transform = fun d => .ok (some d)) (routes : List Route) :
    (∃ out, g.generate routes = .ok out) ↔
      (∀ r ∈ routes, g.servesDocs r = false → ∃ isAdmitted, g.admits r = .ok isAdmitted) ∧
        ∀ r ∈ routes, g.keeps r = true → ∃ answer, g.alone r = .ok answer := by
  have hkept : (∀ r ∈ routes, g.keeps r = true → ∃ answer, g.alone r = .ok answer) ↔
      ∃ rows k, g.Run {} (routes.filter g.keeps) rows k := by
    rw [exists_run_iff hresponses]
    simp only [List.mem_filter, and_imp]
  rw [hkept, ← exists_select_iff]
  constructor
  · rintro ⟨out, hout⟩
    obtain ⟨rows, hselect, hrun, -⟩ := exists_run_of_generate hout
    exact ⟨⟨_, hselect⟩, rows, _, hrun⟩
  · rintro ⟨⟨selected, hselect⟩, rows, k, hrun⟩
    cases eq_filter_of_select hselect
    simp only [generate, hselect, bind, Except.bind, run_iff.mp hrun, ht]
    exact ⟨_, rfl⟩

/-- **The document of routes** has the rows that the kept ones have by themselves. -/
lemma document_of_generate (hresponses : g.responses = fun _ => .done [])
    (ht : g.transform = fun d => .ok (some d)) {routes : List Route} {out : Outcome}
    (h : g.generate routes = .ok out) :
    out.document =
      some (g.settings.document.addAll ((routes.filter g.keeps).filterMap g.row?)) := by
  obtain ⟨rows, -, hrun, htransform⟩ := exists_run_of_generate h
  obtain ⟨rfl, hcomponents⟩ := hrun.rows_eq hresponses
  rw [ht, hcomponents, Document.addAll_eq] at htransform
  rw [← Except.ok.inj htransform, Document.addAll_eq]
  rfl

/-- The selected routes have distinct keys: no two rows of a run over them have one path and one
method. -/
def DistinctKeys (g : Generator) (routes : List Route) : Prop :=
  ∀ rows k, g.Run {} (routes.filter g.keeps) rows k → (rows.map Document.keyOf).Nodup

/-- **The order of the routes counts for the order of the document only.** Routes in another order
fail if and only if the routes do, be it by the filter, for a route without a method or by the last
change to operations. If neither fails and the selected routes have distinct keys, then the
documents differ in the order of their paths and of the methods of a path only. -/
theorem generate_perm (hresponses : g.responses = fun _ => .done [])
    (ht : g.transform = fun d => .ok (some d)) {routes routes' : List Route}
    (hperm : routes.Perm routes') :
    ((∃ failure, g.generate routes' = .error failure) ↔
        ∃ failure, g.generate routes = .error failure) ∧
      (g.DistinctKeys routes → ∀ out out', g.generate routes = .ok out →
        g.generate routes' = .ok out' → ∃ d d', out.document = some d ∧ out'.document = some d' ∧
          d.Reorders d') := by
  constructor
  · have hok : (∃ out, g.generate routes' = .ok out) ↔ ∃ out, g.generate routes = .ok out := by
      rw [exists_generate_iff hresponses ht, exists_generate_iff hresponses ht]
      simp only [hperm.mem_iff]
    have hfails : ∀ result : Except Failure Outcome,
        (∃ failure, result = .error failure) ↔ ¬ ∃ out, result = .ok out := by
      intro result
      cases result <;> simp
    rw [hfails, hfails, hok]
  · intro hkeys out out' hout hout'
    obtain ⟨rows, -, hrun, -⟩ := exists_run_of_generate hout
    have hnodup := hkeys rows _ hrun
    rw [(hrun.rows_eq hresponses).1] at hnodup
    exact ⟨_, _, document_of_generate hresponses ht hout, document_of_generate hresponses ht hout',
      Document.addAll_reorders rfl ((hperm.filter _).filterMap _) hnodup⟩

/-- Routes of which the first two have one path, and the third has no class. -/
def apartRoutes : List Route :=
  [userRoute "PATCH" "api/users/{id}" "change", userRoute "GET" "api/users/{id}" "show",
    { methods := [], uri := "api/status" }, userRoute "GET" "api/users" "list"]

/-- **Routes in reverse order** have the same document but for the order of its paths and of the
methods of a path. -/
theorem apartRoutes_reverse :
    ∃ out out' d d', patchless.generate apartRoutes = .ok out ∧
      patchless.generate apartRoutes.reverse = .ok out' ∧ out.document = some d ∧
      out'.document = some d' ∧ d.Reorders d' ∧
      d.paths.names = ["/users/{id}", "/users"] ∧ d'.paths.names = ["/users", "/users/{id}"] ∧
      (d.item "/users/{id}").operations.names = ["put", "get"] ∧
      (d'.item "/users/{id}").operations.names = ["get", "put"] := by
  let orders (out : Outcome) :=
    out.document.map fun d => (d.paths.names, (d.item "/users/{id}").operations.names)
  have horders : (patchless.generate apartRoutes).toOption.map orders =
      some (some (["/users/{id}", "/users"], ["put", "get"])) := by decide +kernel
  have horders' : (patchless.generate apartRoutes.reverse).toOption.map orders =
      some (some (["/users", "/users/{id}"], ["get", "put"])) := by decide +kernel
  have hkeys : patchless.DistinctKeys apartRoutes := by
    intro rows k hrun
    have hall : (patchless.resolveAll (apartRoutes.filter patchless.keeps) {}).toOption.map
        (fun result => result.1.map Document.keyOf) =
          some [("/users/{id}", "put"), ("/users/{id}", "get"), ("/users", "get")] := by
      decide +kernel
    rw [run_iff.mp hrun] at hall
    have hrows : rows.map Document.keyOf =
        [("/users/{id}", "put"), ("/users/{id}", "get"), ("/users", "get")] :=
      Option.some.inj hall
    rw [hrows]
    decide
  obtain ⟨-, hdocuments⟩ := generate_perm (g := patchless) rfl rfl
    (List.reverse_perm apartRoutes).symm
  cases hout : patchless.generate apartRoutes with
  | error failure => rw [hout] at horders; cases horders
  | ok out =>
      cases hout' : patchless.generate apartRoutes.reverse with
      | error failure => rw [hout'] at horders'; cases horders'
      | ok out' =>
          obtain ⟨d, d', hd, hd', hreorders⟩ := hdocuments hkeys out out' hout hout'
          simp only [hout, Except.toOption, Option.map_some, orders, hd, Option.some.injEq,
            Prod.mk.injEq] at horders
          simp only [hout', Except.toOption, Option.map_some, orders, hd', Option.some.injEq,
            Prod.mk.injEq] at horders'
          obtain ⟨hpaths, hmethods⟩ := horders
          obtain ⟨hpaths', hmethods'⟩ := horders'
          exact ⟨out, out', d, d', rfl, rfl, hd, hd', hreorders, hpaths, hpaths', hmethods,
            hmethods'⟩

end Generator

end RouteAtlas
