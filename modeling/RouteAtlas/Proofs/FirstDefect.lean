/-
The first route of a manifest that has a defect.

The routes of a manifest are read one by one, each on its own.  All of them are read, or none: the
first one that has a defect is reported with its place and its defects, and what stands behind it is
not looked at.

* `Manifest.FirstDefect`: the first item of a row that is no route.
* `Manifest.routesFrom_eq_error_iff`: a row of routes fails exactly at its first defect.
* `Manifest.Lists`, `Manifest.LacksRoutes`, `Manifest.IsOther`: the three kinds of values.
* `Manifest.ofValue_firstDefect`: **routes are read all or none**, and the first defect is reported.
-/
import Mathlib.Data.List.Forall2
import RouteAtlas.Manifest
import RouteAtlas.Proofs.RoundTrip

namespace RouteAtlas.Manifest

variable {item : Value} {items : List Value} {index k : Nat} {first : Defect} {more : List Defect}

/-! ### Rows of routes -/

/-- **The first item of a row that is no route**: its place and its defects. -/
structure FirstDefect (items : List Value) (k : Nat) (first : Defect) (more : List Defect) : Prop where
  here : ∃ item, items[k]? = some item ∧ Route.read item = .rejected first more
  before : ∀ j item, j < k → items[j]? = some item → ∃ r, Route.read item = .accepted r

/-- A row starts with its first defect, or with a route behind which its first defect is. -/
lemma firstDefect_cons_iff : FirstDefect (item :: items) k first more ↔
    (k = 0 ∧ Route.read item = .rejected first more) ∨
      ∃ j r, k = j + 1 ∧ Route.read item = .accepted r ∧ FirstDefect items j first more := by
  constructor
  · rintro ⟨⟨found, hhere, hread⟩, hbefore⟩
    cases k with
    | zero =>
        cases hhere
        exact Or.inl ⟨rfl, hread⟩
    | succ j =>
        obtain ⟨r, hr⟩ := hbefore 0 item (Nat.succ_pos j) rfl
        refine Or.inr ⟨j, r, rfl, hr, ⟨found, hhere, hread⟩, fun i other hi hother => ?_⟩
        exact hbefore (i + 1) other (Nat.succ_lt_succ hi) hother
  · rintro (⟨rfl, hread⟩ | ⟨j, r, rfl, hr, ⟨found, hhere, hread⟩, hbefore⟩)
    · exact ⟨⟨item, rfl, hread⟩, fun i _ hi _ => absurd hi (Nat.not_lt_zero i)⟩
    · refine ⟨⟨found, hhere, hread⟩, fun i other hi hother => ?_⟩
      cases i with
      | zero =>
          cases hother
          exact ⟨r, hr⟩
      | succ i => exact hbefore i other (Nat.lt_of_succ_lt_succ hi) hother

/-- **A row of routes fails exactly at its first defect.** -/
lemma routesFrom_eq_error_iff {failure : ManifestFailure} :
    routesFrom index items = .error failure ↔
      ∃ k first more, FirstDefect items k first more ∧
        failure = .invalidRoute (index + k) first more := by
  induction items generalizing index with
  | nil =>
      constructor
      · rintro ⟨⟩
      · rintro ⟨k, first, more, ⟨⟨item, hitem, -⟩, -⟩, -⟩
        cases hitem
  | cons item rest ih =>
      rw [routesFrom]
      cases hitem : Route.read item with
      | rejected first more =>
          constructor
          · rintro ⟨⟩
            exact ⟨0, first, more, firstDefect_cons_iff.mpr (Or.inl ⟨rfl, hitem⟩), rfl⟩
          · rintro ⟨k, first', more', hfirst, rfl⟩
            rcases firstDefect_cons_iff.mp hfirst with ⟨rfl, hread⟩ | ⟨j, r, -, hread, -⟩
            · cases hitem.symm.trans hread
              rfl
            · cases hitem.symm.trans hread
      | accepted r =>
          have hrest : (routesFrom (index + 1) rest).map (r :: ·) = .error failure ↔
              routesFrom (index + 1) rest = .error failure := by
            cases routesFrom (index + 1) rest with
            | error other => exact Iff.rfl
            | ok routes => constructor <;> rintro ⟨⟩
          refine hrest.trans (ih.trans ?_)
          constructor
          · rintro ⟨j, first, more, hfirst, rfl⟩
            refine ⟨j + 1, first, more, firstDefect_cons_iff.mpr (Or.inr ⟨j, r, rfl, hitem, hfirst⟩), ?_⟩
            rw [Nat.add_assoc, Nat.add_comm 1 j]
          · rintro ⟨k, first, more, hfirst, rfl⟩
            rcases firstDefect_cons_iff.mp hfirst with ⟨rfl, hread⟩ | ⟨j, r', rfl, hread, hfirst'⟩
            · cases hitem.symm.trans hread
            · exact ⟨j, first, more, hfirst', by rw [Nat.add_assoc, Nat.add_comm 1 j]⟩

/-- A row of routes is read exactly if each of its items is a route. -/
lemma exists_routesFrom_iff :
    (∃ routes, routesFrom index items = .ok routes) ↔
      ∀ item ∈ items, ∃ r, Route.read item = .accepted r := by
  simp only [routesFrom_eq_ok_iff]
  induction items with
  | nil => exact ⟨fun _ _ => nofun, fun _ => ⟨[], .nil⟩⟩
  | cons item rest ih =>
      rw [List.forall_mem_cons, ← ih]
      constructor
      · rintro ⟨_, hitems⟩
        obtain ⟨r, routes, hr, hrest, -⟩ := List.forall₂_cons_left_iff.mp hitems
        exact ⟨⟨r, hr⟩, routes, hrest⟩
      · rintro ⟨⟨r, hr⟩, routes, hrest⟩
        exact ⟨r :: routes, .cons hr hrest⟩

/-! ### The three kinds of values -/

/-- **A value that lists items as routes**: a list of them, or a mapping with the list under the name
for routes. -/
inductive Lists (items : List Value) : Value → Prop
  | bare : Lists items (.list items)
  | named {entries : List (Value × Value)} :
      Value.field? "routes" entries = some (.list items) → Lists items (.map entries)

/-- A mapping without the name for routes. -/
inductive LacksRoutes : Value → Prop
  | map {entries : List (Value × Value)} :
      Value.field? "routes" entries = none → LacksRoutes (.map entries)

/-- Any other value: neither a list nor a mapping that has a list under the name for routes or
nothing at all. -/
def IsOther (value : Value) : Prop :=
  (∀ items, ¬Lists items value) ∧ ¬LacksRoutes value

/-- The routes of a value that lists items are read from the row of items. -/
lemma Lists.ofValue_eq {value : Value} (h : Lists items value) :
    ofValue value = routesFrom 0 items := by
  cases h with
  | bare => rfl
  | named hfield => rw [ofValue, routeList, hfield, Option.getD_some]

/-- A mapping without the name for routes has none. -/
lemma LacksRoutes.ofValue_eq {value : Value} (h : LacksRoutes value) : ofValue value = .ok [] := by
  cases h with
  | map hfield =>
      rw [ofValue, routeList, hfield, Option.getD_none]
      rfl

/-- Any other value is no manifest. -/
lemma IsOther.ofValue_eq {value : Value} (h : IsOther value) :
    ofValue value = .error (.notList (routeList value).typeName) := by
  obtain ⟨hlists, hlacks⟩ := h
  rw [ofValue]
  split
  · next items heq =>
    cases value with
    | list items' => exact absurd .bare (hlists items')
    | map entries =>
        cases hfield : Value.field? "routes" entries with
        | none => exact absurd (.map hfield) hlacks
        | some found =>
            rw [routeList, hfield, Option.getD_some] at heq
            exact absurd (.named (heq ▸ hfield)) (hlists items)
    | _ => cases heq
  · rfl

/-- **Routes are read all or none, and the first defect is reported.** From a value that lists items
as routes, bare or under the name for routes, routes are read exactly if each item by itself is a
route, and then there is one for each item, in their order, which is what the item is read as by
itself. Else the failure names the place of the first item that is no route and has the defects of
this item, whatever stands behind it. Both forms of a list give the same. A mapping without the name
for routes has no routes, and any other value is refused for what it is. -/
theorem ofValue_firstDefect :
    (∀ items value, Lists items value →
      ((∃ routes, ofValue value = .ok routes) ↔
        ∀ item ∈ items, ∃ r, Route.read item = .accepted r) ∧
      (∀ routes, ofValue value = .ok routes ↔
        List.Forall₂ (fun item r => Route.read item = .accepted r) items routes) ∧
      (∀ failure, ofValue value = .error failure ↔
        ∃ k first more, FirstDefect items k first more ∧ failure = .invalidRoute k first more ∧
          failure.message = s!"Invalid route at index {k}") ∧
      ∀ value', Lists items value' → ofValue value' = ofValue value) ∧
    (∀ value, LacksRoutes value → ofValue value = .ok []) ∧
    ∀ value, IsOther value →
      ofValue value = .error (.notList (routeList value).typeName) := by
  refine ⟨fun items value hlists => ?_, fun _ => LacksRoutes.ofValue_eq, fun _ => IsOther.ofValue_eq⟩
  rw [hlists.ofValue_eq]
  refine ⟨exists_routesFrom_iff, fun _ => routesFrom_eq_ok_iff, fun failure => ?_,
    fun _ hlists' => hlists'.ofValue_eq⟩
  rw [routesFrom_eq_error_iff]
  simp only [Nat.zero_add]
  constructor
  · rintro ⟨k, first, more, hfirst, rfl⟩
    exact ⟨k, first, more, hfirst, rfl, rfl⟩
  · rintro ⟨k, first, more, hfirst, rfl, -⟩
    exact ⟨k, first, more, hfirst, rfl⟩

/-- A row with a route, an item with two defects, an item that is no record, and one more route. -/
def spoiledRow : List Value :=
  [.record [("methods", .texts ["GET"]), ("uri", .text "api/users")],
    .record [("methods", .text "GET"), ("handler", .record [("class_info", .record [])])],
    .int 7,
    .record [("methods", .texts []), ("uri", .text "")]]

/-- **A row with defects**: the place and the defects of the second item are reported for both forms
of the list; without the rest of the row its first route is read; and a mapping without routes, and
one with something else in their place. -/
theorem spoiledRow_firstDefect :
    ofValue (.record [("version", .int 2), ("routes", .list spoiledRow)]) =
        .error (.invalidRoute 1 ⟨[.field "methods"], .notList⟩ [⟨[.field "uri"], .missing⟩,
          ⟨[.field "handler", .field "class_info", .field "name"], .missing⟩]) ∧
      ofValue (.list spoiledRow) =
        ofValue (.record [("version", .int 2), ("routes", .list spoiledRow)]) ∧
      (∃ routes, ofValue (.list (spoiledRow.take 1)) = .ok routes) ∧
      ofValue (.record [("version", .int 2)]) = .ok [] ∧
      ofValue (.record [("routes", .null)]) = .error (.notList "NoneType") := by
  obtain ⟨hlists, hlacks, hother⟩ := ofValue_firstDefect
  have hnamed : Lists spoiledRow (.record [("version", .int 2), ("routes", .list spoiledRow)]) :=
    .named rfl
  obtain ⟨-, -, herror, hsame⟩ := hlists _ _ hnamed
  obtain ⟨hread, -⟩ := hlists (spoiledRow.take 1) _ .bare
  refine ⟨(herror _).mpr ⟨1, _, _, ⟨⟨_, rfl, ?_⟩, ?_⟩, rfl, rfl⟩, hsame _ .bare,
    hread.mpr ?_, hlacks _ (.map rfl), hother _ ⟨?_, ?_⟩⟩
  · with_unfolding_all rfl
  · rintro j item hj hitem
    obtain rfl := Nat.lt_one_iff.mp hj
    cases hitem
    exact ⟨_, by with_unfolding_all rfl⟩
  · intro item hitem
    rw [List.mem_singleton.mp hitem]
    exact ⟨_, by with_unfolding_all rfl⟩
  · rintro items (_ | hfield)
    cases hfield
  · rintro ⟨hfield⟩
    cases hfield

end RouteAtlas.Manifest
