/-
Listings: entries by name, in the order in which the names were first entered.

* `Listing.put`: an entry under a name. It replaces the entry that the name has, in its place, and
  goes to the end if the name is new.
* `Listing.get?`, `Listing.has`, `Listing.names`: the views of a listing.
* `Listing.get?_put`, `Listing.has_iff_mem_names`: looking up after an entry.
* `Listing.names_put`, `Listing.nodup_names_put`: an entry adds its name only if it is new, so the
  names of a listing that was built by entries are distinct.
* `Listing.ofPairs_of_nodup`: a row of pairs with distinct names is its own listing.
-/
namespace RouteAtlas

/-- Entries by name, in the order in which the names were first entered. -/
abbrev Listing (α : Type) := List (String × α)

namespace Listing

variable {α β : Type}

/-- The entry of a name. -/
def get? (entries : Listing α) (name : String) : Option α :=
  match entries with
  | [] => none
  | entry :: rest => if entry.1 = name then some entry.2 else get? rest name

/-- Whether a name has an entry. -/
def has (entries : Listing α) (name : String) : Bool :=
  entries.any fun entry => entry.1 == name

/-- The names, in the order of first entry. -/
def names (entries : Listing α) : List String :=
  entries.map (·.1)

/-- An entry under a name: in the place of the one that the name has, else at the end. -/
def put (entries : Listing α) (name : String) (value : α) : Listing α :=
  match entries with
  | [] => [(name, value)]
  | entry :: rest =>
    if entry.1 = name then (name, value) :: rest else entry :: put rest name value

/-- The listing of a row of pairs: a later pair replaces an earlier one of its name. -/
def ofPairs (pairs : List (String × α)) : Listing α :=
  pairs.foldl (fun entries pair => entries.put pair.1 pair.2) []

/-- The listing without the entry of a name. -/
def erase (entries : Listing α) (name : String) : Listing α :=
  entries.filter fun entry => entry.1 != name

/-- The entry of a name, changed by a function, in its place. -/
def alter (entries : Listing α) (name : String) (change : α → α) : Listing α :=
  entries.map fun entry => if entry.1 = name then (entry.1, change entry.2) else entry

/-! ### Looking up -/

/-- A name has an entry exactly if it is among the names. -/
theorem has_iff_mem_names {entries : Listing α} {name : String} :
    entries.has name = true ↔ name ∈ entries.names := by
  simp [has, names, List.any_eq_true]

/-- A name without an entry is not among the names, and conversely. -/
theorem get?_eq_none_iff {entries : Listing α} {name : String} :
    entries.get? name = none ↔ name ∉ entries.names := by
  induction entries with
  | nil => simp [get?, names]
  | cons entry rest ih =>
    rw [get?]
    split
    · next h => simp [names, h]
    · next h =>
      rw [ih]
      simp [names, Ne.symm h]

/-- After an entry, its name has the new value and every other name has what it had. -/
theorem get?_put (entries : Listing α) (name other : String) (value : α) :
    (entries.put name value).get? other =
      if name = other then some value else entries.get? other := by
  induction entries with
  | nil => simp [put, get?]
  | cons entry rest ih =>
    rw [put]
    split
    · next h =>
      subst h
      by_cases ho : entry.1 = other <;> simp [get?, ho]
    · next h =>
      rw [get?, get?, ih]
      by_cases ho : entry.1 = other
      · have hno : name ≠ other := fun hn => h (ho.trans hn.symm)
        simp [ho, hno]
      · simp [ho]

/-! ### Order and uniqueness -/

/-- An entry adds its name at the end if it is new, and else changes no name. -/
theorem names_put (entries : Listing α) (name : String) (value : α) :
    (entries.put name value).names =
      if name ∈ entries.names then entries.names else entries.names ++ [name] := by
  induction entries with
  | nil => simp [put, names]
  | cons entry rest ih =>
    rw [put]
    split
    · next h => simp [names, h]
    · next h =>
      have hne : name ≠ entry.1 := Ne.symm h
      simp only [names, List.map_cons, List.mem_cons, hne, false_or] at ih ⊢
      rw [ih]
      split
      · next hm => simp [hm]
      · next hm => simp [hm]

/-- Entries keep the names distinct. -/
theorem nodup_names_put {entries : Listing α} (h : entries.names.Nodup) (name : String)
    (value : α) : (entries.put name value).names.Nodup := by
  rw [names_put]
  split
  · exact h
  · next hn =>
    rw [List.nodup_append]
    refine ⟨h, by simp, ?_⟩
    intro a ha b hb
    rw [List.mem_singleton] at hb
    exact fun hab => hn (hb ▸ hab ▸ ha)

/-- The names of the listing of a row of pairs are distinct. -/
theorem nodup_names_ofPairs (pairs : List (String × α)) : (ofPairs pairs).names.Nodup := by
  have step : ∀ (entries : Listing α), entries.names.Nodup →
      (pairs.foldl (fun entries pair => entries.put pair.1 pair.2) entries).names.Nodup := by
    induction pairs with
    | nil => exact fun _ h => h
    | cons pair pairs ih => exact fun entries h => ih _ (nodup_names_put h _ _)
  exact step [] (by simp [names])

/-- A new name goes to the end. -/
theorem put_of_not_mem {entries : Listing α} {name : String} (value : α)
    (h : name ∉ entries.names) : entries.put name value = entries ++ [(name, value)] := by
  induction entries with
  | nil => rfl
  | cons entry rest ih =>
    simp only [names, List.map_cons, List.mem_cons, not_or] at h
    rw [put, if_neg (Ne.symm h.1), ih h.2, List.cons_append]

/-- A row of pairs with distinct names is its own listing. -/
theorem ofPairs_of_nodup {pairs : Listing α} (h : pairs.names.Nodup) : ofPairs pairs = pairs := by
  suffices H : ∀ (rest done : Listing α), (done ++ rest).names.Nodup →
      rest.foldl (fun entries pair => entries.put pair.1 pair.2) done = done ++ rest from
    H pairs [] h
  intro rest
  induction rest with
  | nil => intro done _; simp
  | cons pair rest ih =>
    intro done hnodup
    have hnew : pair.1 ∉ names done := by
      simp only [names, List.map_append, List.map_cons] at hnodup
      intro hmem
      exact (List.nodup_append.1 hnodup).2.2 _ hmem _ List.mem_cons_self rfl
    rw [List.foldl_cons, put_of_not_mem pair.2 hnew, ih (done ++ [(pair.1, pair.2)])]
    · simp
    · simpa using hnodup

end Listing

end RouteAtlas
