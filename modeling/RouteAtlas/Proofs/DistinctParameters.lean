/-
The parameters of an operation are told apart by name and place.

A parameter whose key is taken replaces the one that has the key, so keys that are distinct stay so.
The parameters of the path are written into an empty row, the fields of the rules into this row, and
what the host adds last into that one.

* `Parameter.Sameness.Grows`: a row grows out of another by rows that are written into it;
  `Parameter.Sameness.Grows.nodup_keys`: distinct keys stay distinct however a row grows.
* `Generator.nodup_keys_sketch`: the parameters of an endpoint are distinct before the host adds
  some.
* `Generator.resolve_distinct`: **parameters stay distinct, and replacement hits the right slot**.
-/
import RouteAtlas.Proofs.Run

namespace RouteAtlas

namespace Parameter.Sameness

variable (s : Sameness)

/-- **A row grows out of another** by rows of parameters, which are written into it one by one. -/
inductive Grows : List Parameter → List Parameter → Prop
  | refl (row : List Parameter) : Grows row row
  | add {old next last : List Parameter} (new : List Parameter) :
      s.overwriteAll old new = .ok next → Grows next last → Grows old last

/-- **Distinct keys stay distinct** however a row grows. -/
lemma Grows.nodup_keys {s : Sameness} {old last : List Parameter} (h : s.Grows old last)
    (hold : (old.map key).Nodup) : (last.map key).Nodup := by
  induction h with
  | refl _ => exact hold
  | add new hadd _ ih =>
      rw [s.overwriteAll_eq] at hadd
      cases hadd
      exact ih (nodup_keys_enterAll hold new)

end Parameter.Sameness

namespace Generator

variable (g : Generator) (e : Endpoint) (method : String)

/-- **The parameters of an endpoint are distinct**, whatever its path, its handler and its rules
are. -/
lemma nodup_keys_sketch (description : String) :
    ((g.sketch e method description).parameters.map Parameter.key).Nodup := by
  rw [sketch]
  cases g.isQueryMethod method with
  | true => exact Parameter.nodup_keys_enterAll (nodup_keys_start g e method) _
  | false => exact nodup_keys_start g e method

/-- **Parameters stay distinct, and replacement hits the right slot.** If the keys of an operation
are distinct and a row is written into it, where the slot of a parameter is found by equality, then
the old keys stay where they are, the new ones follow in the order in which they first occur, and
under each key stands the last parameter of the row that has it, or else the old one. So the
parameters of every operation that a route leads to are distinct, if the host changes them in no
other way than by adding some. -/
theorem resolve_distinct (s : Parameter.Sameness) :
    (∀ (op : Operation) (new : List Parameter), (op.parameters.map Parameter.key).Nodup →
      s.overwriteAll op.parameters new = .ok (op.addParameters new).parameters ∧
      ((op.addParameters new).parameters.map Parameter.key).Nodup ∧
      (op.addParameters new).parameters.map Parameter.key =
        op.parameters.map Parameter.key ++
          ((new.map Parameter.key).filter (· ∉ op.parameters.map Parameter.key)).eraseDups ∧
      ∀ name l, Parameter.find? name l (op.addParameters new).parameters =
        ((new.filter (·.key = (name, l))).getLast?).or (Parameter.find? name l op.parameters)) ∧
    ∀ g : Generator, (∀ op e op', g.adjust op e = .ok op' → s.Grows op.parameters op'.parameters) →
      ∀ r k path op k', g.resolve r k = (.ok (some (path, op)), k') →
        (op.parameters.map Parameter.key).Nodup := by
  constructor
  · intro op new hop
    exact ⟨s.overwriteAll_eq op.parameters new, Parameter.nodup_keys_enterAll hop new,
      Parameter.keys_enterAll_of_nodup hop new, Parameter.find?_enterAll op.parameters new⟩
  · intro g hadjust r k path op k' h
    obtain ⟨e, method, outline, responses, -, -, houtline, -, -, hop⟩ := exists_of_resolve h
    obtain ⟨description, -, rfl⟩ := (outline_eq_ok_iff g e method).mp houtline
    exact (hadjust _ e op hop).nodup_keys (nodup_keys_sketch g e method description)

/-- A parameter of a query with a description. -/
def described (name description : String) : Parameter :=
  { name, location := .query, description }

/-- A generator whose host adds parameters to every operation, some of them twice. -/
def adding : Generator where
  extractors := Extractor.standard fun _ _ => .ok .null
  adjust op _ := .ok
    ((op.addParameters [described "page" "first", described "page" "second"]).addParameters
      [described "id" "added"])

/-- A route with a placeholder that occurs twice and a rule for a field of this name. -/
def repeatedRoute : Route where
  methods := ["GET"]
  uri := "api/{id}/{id?}"
  handler := some {
    classInfo := some { name := "App.UserController" }
    method := some "show"
    validateCall := some { rules := .literal [("id", .text "integer"), ("q", .text "string")] } }

/-- **Repeated names**: what is written twice stands once, in the slot of its key and as it was
written last, and the parameters of a route with a repeated placeholder, with a rule for it and with
what the host adds are distinct. -/
theorem repeatedRoute_distinct :
    (∃ row, Parameter.Sameness.structural.overwriteAll [described "q" "old", described "id" "kept"]
        [described "page" "first", described "q" "new", described "page" "last"] = .ok row ∧
      row.map Parameter.key = [("q", .query), ("id", .query), ("page", .query)] ∧
      row.map (·.description) = ["new", "kept", "last"]) ∧
      ∃ path op k', adding.resolve repeatedRoute {} = (.ok (some (path, op)), k') ∧
        (op.parameters.map Parameter.key).Nodup ∧
        op.parameters.map Parameter.key =
          [("id", .path), ("id", .query), ("q", .query), ("page", .query)] := by
  obtain ⟨hrow, hresolve⟩ := resolve_distinct Parameter.Sameness.structural
  constructor
  · obtain ⟨hwritten, -, hkeys, -⟩ := hrow
      { method := "get", parameters := [described "q" "old", described "id" "kept"] }
      [described "page" "first", described "q" "new", described "page" "last"] (by decide)
    exact ⟨_, hwritten, hkeys.trans (by decide), by decide⟩
  · have hadjust : ∀ op e op', adding.adjust op e = .ok op' →
        Parameter.Sameness.structural.Grows op.parameters op'.parameters := by
      intro op e op' h
      cases h
      exact .add _ (Parameter.Sameness.overwriteAll_eq _ _ _)
        (.add _ (Parameter.Sameness.overwriteAll_eq _ _ _) (.refl _))
    have hkeys : (adding.resolve repeatedRoute {}).1.toOption.join.map
        (fun row => row.2.parameters.map Parameter.key) =
          some [("id", .path), ("id", .query), ("q", .query), ("page", .query)] := by
      decide +kernel
    cases h : adding.resolve repeatedRoute {} with
    | mk answer k' =>
        rw [h] at hkeys
        obtain failure | _ | ⟨path, op⟩ := answer
        · cases hkeys
        · cases hkeys
        · exact ⟨path, op, k', rfl, hresolve adding hadjust _ _ _ _ _ h, Option.some.inj hkeys⟩

end Generator

end RouteAtlas
