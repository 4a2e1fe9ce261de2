/-
The placeholders of a path and the parameters that are declared for it.

Four parts have to fit: the placeholders read from the path template of a route, the path in which
they are renamed, the names that the handler gives them, and the row of parameters in which a later
one of a name replaces an earlier one.

* `PathParameter.exists_alias`: every placeholder has a name, taken from the handler or its own.
* `PathParameters.isName_alias`: names stay names.
* `Generator.mem_names_start`, `Generator.nodup_names_start`: the parameters of a path have the
  names of its placeholders, each once.
* `Generator.resolve_path_agrees`: **path and parameters agree**.
-/
import Mathlib.Data.List.Nodup
import RouteAtlas.Proofs.Run
import RouteAtlas.Proofs.Template

namespace RouteAtlas

/-! ### The names of placeholders -/

/-- Every placeholder has a name: one that the handler declares, or one of the placeholders. -/
lemma PathParameter.exists_alias {placeholders : List String} {placeholder : String}
    (h : placeholder ∈ placeholders) (names : List String) :
    ∃ name, (aliasMap placeholders names).get? placeholder = some name ∧
      (name ∈ names ∨ name ∈ placeholders) := by
  rw [aliasMap]
  by_cases hlength : placeholders.length = names.length
  · rw [if_pos hlength]
    obtain ⟨name, hget, hname⟩ := Listing.exists_get?_zip hlength.le h
    exact ⟨name, hget, Or.inl hname⟩
  · rw [if_neg hlength]
    obtain ⟨name, hget, hname⟩ := Listing.exists_get?_zip le_rfl h
    exact ⟨name, hget, Or.inr hname⟩

namespace PathParameters

variable {r : Route} {requestTypes : List String}

/-- The placeholders of a route are those of its path, unless others are declared. -/
lemma mem_placeholders_iff
    (h : ∀ names, r.parameterNames = some names →
      ∀ name, name ∈ names ↔ name ∈ Template.names r.uri)
    (name : String) : name ∈ r.placeholders ↔ name ∈ Template.names r.uri := by
  rw [Route.placeholders]
  cases hdeclared : r.parameterNames with
  | none => rfl
  | some names => exact h names hdeclared name

/-- A placeholder is looked up successfully. -/
lemma get?_aliases {placeholder : String} (h : placeholder ∈ r.placeholders) :
    (ofRoute r requestTypes).aliases.get? placeholder =
      some (Template.aliasOf (ofRoute r requestTypes).aliases placeholder) := by
  obtain ⟨name, hget, -⟩ := PathParameter.exists_alias h
    ((PathParameter.signature requestTypes r.handlerParameters).map (·.name))
  have hget' : (ofRoute r requestTypes).aliases.get? placeholder = some name := hget
  rw [Template.aliasOf, hget', Option.getD_some]

/-- The name of a placeholder is a name, if those of the handler and of the placeholders are. -/
lemma isName_alias {placeholder : String} (h : placeholder ∈ r.placeholders)
    (hplaceholders : ∀ name ∈ r.placeholders, Template.IsName name.toList)
    (hsignature : ∀ p ∈ PathParameter.signature requestTypes r.handlerParameters,
      Template.IsName p.name.toList) :
    Template.IsName (Template.aliasOf (ofRoute r requestTypes).aliases placeholder).toList := by
  obtain ⟨name, hget, hname⟩ := PathParameter.exists_alias h
    ((PathParameter.signature requestTypes r.handlerParameters).map (·.name))
  have hget' : (ofRoute r requestTypes).aliases.get? placeholder = some name := hget
  rw [Template.aliasOf, hget', Option.getD_some]
  rcases hname with hdeclared | hown
  · obtain ⟨p, hp, rfl⟩ := List.mem_map.mp hdeclared
    exact hsignature p hp
  · exact hplaceholders name hown

end PathParameters

/-! ### The parameters of a path -/

namespace Generator

variable (g : Generator) (e : Endpoint) (method : String)

/-- The keys of the parameters of a path are those of its placeholders, each once. -/
lemma keys_start :
    (g.start e method).parameters.map Parameter.key =
      (e.route.placeholders.map fun placeholder =>
        (Template.aliasOf (PathParameters.ofRoute e.route g.settings.requestTypes).aliases
          placeholder, Location.path)).eraseDups := by
  have hnone : ([] : List Parameter).map Parameter.key = [].eraseDups := rfl
  have hkeys := Parameter.keys_enterAll hnone
    (PathParameters.ofRoute e.route g.settings.requestTypes).parameters
  rw [List.nil_append] at hkeys
  refine hkeys.trans (congrArg List.eraseDups ?_)
  rw [PathParameters.ofRoute, List.map_map]
  rfl

/-- **The parameters of a path have the names of its placeholders.** -/
lemma mem_names_start {name : String} :
    name ∈ (g.start e method).parameters.map (·.name) ↔
      ∃ placeholder ∈ e.route.placeholders,
        Template.aliasOf (PathParameters.ofRoute e.route g.settings.requestTypes).aliases
          placeholder = name := by
  have hkey : name ∈ (g.start e method).parameters.map (·.name) ↔
      (name, Location.path) ∈ (g.start e method).parameters.map Parameter.key := by
    constructor
    · intro h
      obtain ⟨p, hp, rfl⟩ := List.mem_map.mp h
      refine List.mem_map.mpr ⟨p, hp, ?_⟩
      rw [Parameter.key, location_of_mem_start g e method hp]
    · intro h
      obtain ⟨p, hp, hpkey⟩ := List.mem_map.mp h
      exact List.mem_map.mpr ⟨p, hp, congrArg Prod.fst hpkey⟩
  rw [hkey, keys_start, List.mem_eraseDups, List.mem_map]
  simp only [Prod.mk.injEq, and_true]

/-- **No two parameters of a path have one name.** -/
lemma nodup_names_start : ((g.start e method).parameters.map (·.name)).Nodup := by
  have hkeys := nodup_keys_start g e method
  have hmap : (g.start e method).parameters.map Parameter.key =
      ((g.start e method).parameters.map (·.name)).map fun name => (name, Location.path) := by
    rw [List.map_map]
    refine List.map_congr_left fun p hp => ?_
    rw [Parameter.key, location_of_mem_start g e method hp]
    rfl
  rw [hmap] at hkeys
  exact hkeys.of_map _

/-- A parameter of a path is required. -/
lemma required_of_mem_start {p : Parameter} (h : p ∈ (g.start e method).parameters) :
    p.required = true := by
  rcases Parameter.mem_enterAll h with hnil | hpath
  · cases hnil
  · obtain ⟨placeholder, -, rfl⟩ := List.mem_map.mp hpath
    rfl

variable {g}

/-- **Path and parameters agree.** The placeholders of the path of a class-based route are those of
its template, in order, each under the name that stands for it; they are the names of the parameters
in the path, each declared once and required. -/
theorem resolve_path_agrees {k k' : Registry} {r : Route} {path : String} {op : Operation}
    (hadjust : g.adjust = fun op _ => .ok op)
    (hshared : '\x7b' ∉ g.settings.sharedPath.toList)
    (hdeclared : ∀ names, r.parameterNames = some names →
      ∀ name, name ∈ names ↔ name ∈ Template.names r.uri)
    (hsignature : ∀ p ∈ PathParameter.signature g.settings.requestTypes r.handlerParameters,
      Template.IsName p.name.toList)
    (h : g.resolve r k = (.ok (some (path, op)), k')) :
    (Template.names path).map some =
        (Template.names r.uri).map
          (PathParameters.ofRoute r g.settings.requestTypes).aliases.get? ∧
      (∀ name, name ∈ Template.names path ↔
        name ∈ (Parameter.located .path op.parameters).map (·.name)) ∧
      (∀ name ∈ Template.names path,
        ((Parameter.located .path op.parameters).map (·.name)).count name = 1) ∧
      ∀ p ∈ Parameter.located .path op.parameters, p.required = true := by
  obtain ⟨e, method, outline, responses, he, -, houtline, -, hpath, hop⟩ := exists_of_resolve h
  have hroute := Route.route_of_endpoint? he
  subst hroute
  -- rules and responses leave the parameters of the path alone
  have hlocated : Parameter.located .path op.parameters = (g.start e method).parameters := by
    obtain ⟨description, -, rfl⟩ := (outline_eq_ok_iff g e method).mp houtline
    rw [hadjust] at hop
    cases hop
    exact g.located_path_sketch e method description
  have hplaceholders := PathParameters.mem_placeholders_iff hdeclared
  have hnames : Template.names path =
      (Template.names e.route.uri).map
        (Template.aliasOf (PathParameters.ofRoute e.route g.settings.requestTypes).aliases) := by
    rw [show path = g.path e from hpath, Generator.path]
    refine Template.names_normalize hshared fun name hname => ?_
    refine PathParameters.isName_alias ((hplaceholders name).mpr hname) ?_ hsignature
    exact fun other hother => Template.isName_of_mem_names ((hplaceholders other).mp hother)
  have hagree : ∀ name, name ∈ Template.names path ↔
      name ∈ (Parameter.located .path op.parameters).map (·.name) := by
    intro name
    rw [hlocated, mem_names_start, hnames, List.mem_map]
    simp only [hplaceholders]
  refine ⟨?_, hagree, ?_, ?_⟩
  · rw [hnames, List.map_map]
    refine List.map_congr_left fun name hname => ?_
    exact (PathParameters.get?_aliases ((hplaceholders name).mpr hname)).symm
  · intro name hname
    have hmem := (hagree name).mp hname
    rw [hlocated] at hmem ⊢
    exact List.count_eq_one_of_mem (nodup_names_start g e method) hmem
  · intro p hp
    rw [hlocated] at hp
    exact required_of_mem_start g e method hp

/-- A route whose handler declares the names of its placeholders in the other order, with an
optional and a repeated placeholder. -/
def crossedRoute : Route where
  methods := ["GET"]
  uri := "api/users/{user}/posts/{post?}/of/{user}"
  parameterNames := some ["user", "post"]
  handler := some {
    classInfo := some { name := "App.PostController" }
    method := some "show"
    parameters := [{ name := "request", typeName := some "Request" },
      { name := "post", position := 1 }, { name := "user", position := 2 }] }

/-- **Crossed names**: path and parameters agree where the handler declares the names of the
placeholders in the other order. -/
theorem crossedRoute_path_agrees :
    ∃ path op k', ({} : Generator).resolve crossedRoute {} = (.ok (some (path, op)), k') ∧
      Template.names path = ["post", "user", "post"] ∧
      (∀ name, name ∈ ["post", "user", "post"] ↔
        name ∈ (Parameter.located .path op.parameters).map (·.name)) ∧
      (∀ name ∈ ["post", "user", "post"],
        ((Parameter.located .path op.parameters).map (·.name)).count name = 1) ∧
      ∀ p ∈ Parameter.located .path op.parameters, p.required = true := by
  obtain ⟨path, op, k', h⟩ : ∃ path op k',
      ({} : Generator).resolve crossedRoute {} = (.ok (some (path, op)), k') :=
    ⟨_, _, _, resolve_unhooked (g := {}) ⟨rfl, rfl, rfl⟩ crossedRoute {}⟩
  have hnames : Template.names crossedRoute.uri = ["user", "post", "user"] := by decide +kernel
  have hdeclared : ∀ names, crossedRoute.parameterNames = some names →
      ∀ name, name ∈ names ↔ name ∈ Template.names crossedRoute.uri := by
    intro names hn name
    cases hn
    rw [hnames]
    simp
    tauto
  have hrow : PathParameter.signature ({} : Generator).settings.requestTypes
      crossedRoute.handlerParameters =
        [{ name := "post", position := 1 }, { name := "user", position := 2 }] := by
    rw [PathParameter.signature, List.mergeSort_of_pairwise (by decide)]
    decide +kernel
  have hsignature : ∀ p ∈ PathParameter.signature ({} : Generator).settings.requestTypes
      crossedRoute.handlerParameters, Template.IsName p.name.toList := by
    rw [hrow]
    intro p hp
    simp only [List.mem_cons, List.not_mem_nil, or_false] at hp
    rcases hp with rfl | rfl <;> exact Template.IsName.of_isAlphanum (by decide) (by decide)
  obtain ⟨hpath, hagree⟩ := resolve_path_agrees rfl (by decide) hdeclared hsignature h
  have haliases : (PathParameters.ofRoute crossedRoute
      ({} : Generator).settings.requestTypes).aliases = [("user", "post"), ("post", "user")] := by
    rw [PathParameters.ofRoute, hrow]
    decide +kernel
  have hpath' : Template.names path = ["post", "user", "post"] := by
    rw [hnames, haliases] at hpath
    exact (List.map_inj_right fun _ _ => Option.some.inj).mp hpath
  rw [hpath'] at hagree
  exact ⟨path, op, k', h, hpath', hagree⟩

end Generator

end RouteAtlas
