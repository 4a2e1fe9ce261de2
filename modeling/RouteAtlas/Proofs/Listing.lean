/-
What a listing holds after a row of entries.

* `eraseDups_concat`: the first occurrences in a row grow by the last item of the row, unless it
  occurred before; `nodup_eraseDups`, `eraseDups_of_nodup`: they are distinct, and in a row without
  repetition they are the row.
* `Listing.Collects`: the names of a listing are the distinct names of a row of pairs, in the order
  in which they first occur, and each name has the value of its last pair.
* `Listing.Collects.put`: one more entry collects one more pair.
* `Listing.collects_ofPairs`: the listing of a row of pairs collects the row.
* `LastAt`: the last item of a row with a property, and its place.
* `Listing.get?_ofPairs_key_iff`, `Listing.get?_ofPairs_zip`: the listing of a row leads to the last
  item that has a name, and that of two rows to the item in the last place of a name.
* `Listing.get?_append`: the first of two listings has the first word.
* `Listing.eq_of_names`, `Listing.Collects.unique`: listings of distinct names are told apart by
  their names and entries, so a row of pairs is collected by one listing.
-/
import Mathlib.Data.List.Basic
import Mathlib.Data.List.Induction
import RouteAtlas.Listing

namespace RouteAtlas

/-- The first occurrences in a row, after one more item. -/
lemma eraseDups_concat {α : Type} [BEq α] [LawfulBEq α] (l : List α) (a : α) :
    (l ++ [a]).eraseDups = if a ∈ l.eraseDups then l.eraseDups else l.eraseDups ++ [a] := by
  rw [List.eraseDups_append]
  by_cases h : a ∈ l
  · have hnone : [a].removeAll l = [] := by simp [List.removeAll, h]
    rw [if_pos (List.mem_eraseDups.mpr h), hnone, List.eraseDups_nil, List.append_nil]
  · have hall : [a].removeAll l = [a] := by simp [List.removeAll, h]
    rw [if_neg (mt List.mem_eraseDups.mp h), hall]
    simp [List.eraseDups_cons]

/-- The first occurrences in a row without repetition. -/
lemma eraseDups_of_nodup {α : Type} [BEq α] [LawfulBEq α] {l : List α} (h : l.Nodup) :
    l.eraseDups = l := by
  induction l with
  | nil => rfl
  | cons a rest ih =>
      obtain ⟨ha, hrest⟩ := List.nodup_cons.mp h
      have hfilter : rest.filter (fun b => !b == a) = rest := by
        refine List.filter_eq_self.mpr fun b hb => ?_
        have hne : b ≠ a := fun hba => ha (hba ▸ hb)
        simp [hne]
      rw [List.eraseDups_cons, hfilter, ih hrest]

/-- First occurrences are distinct. -/
lemma nodup_eraseDups {α : Type} [BEq α] [LawfulBEq α] (l : List α) : l.eraseDups.Nodup := by
  induction l using List.reverseRecOn with
  | nil => exact List.nodup_nil
  | append_singleton l a ih =>
      rw [eraseDups_concat]
      split
      · exact ih
      · next hnew =>
        refine List.nodup_append.mpr ⟨ih, by simp, fun b hb c hc hbc => hnew ?_⟩
        rwa [← List.mem_singleton.mp hc, ← hbc]

/-! ### The last item with a property -/

/-- **The last item of a row with a property**, and its place. -/
structure LastAt {α : Type} (p : α → Prop) (l : List α) (i : Nat) (a : α) : Prop where
  here : l[i]? = some a
  holds : p a
  after : ∀ j b, i < j → l[j]? = some b → ¬p b

/-- A row has at most one last item with a property. -/
lemma LastAt.unique {α : Type} {p : α → Prop} {l : List α} {i j : Nat} {a b : α}
    (h : LastAt p l i a) (h' : LastAt p l j b) : i = j ∧ a = b := by
  rcases Nat.lt_trichotomy i j with hlt | rfl | hlt
  · exact absurd h'.holds (h.after j b hlt h'.here)
  · exact ⟨rfl, Option.some.inj (h.here.symm.trans h'.here)⟩
  · exact absurd h.holds (h'.after i a hlt h.here)

/-- The last one of those that have a property is the last item with it. -/
lemma getLast?_filter_eq_some_iff {α : Type} {p : α → Bool} {l : List α} {a : α} :
    (l.filter p).getLast? = some a ↔ ∃ i, LastAt (p · = true) l i a := by
  rw [List.getLast?_filter, List.find?_eq_some_iff_append]
  constructor
  · rintro ⟨ha, after, before, hreverse, hafter⟩
    have hl : l = before.reverse ++ a :: after.reverse := by
      rw [← List.reverse_reverse l, hreverse]
      simp
    subst hl
    refine ⟨before.reverse.length, by simp, ha, fun j b hj hb => ?_⟩
    obtain ⟨k, rfl⟩ := Nat.exists_eq_add_of_lt hj
    rw [Nat.add_assoc, List.getElem?_append_right (Nat.le_add_right _ _), Nat.add_sub_cancel_left,
      List.getElem?_cons_succ] at hb
    have hmem : b ∈ after := List.mem_reverse.mp (List.mem_of_getElem? hb)
    simpa using hafter b hmem
  · rintro ⟨i, hhere, ha, hafter⟩
    obtain ⟨hi, rfl⟩ := List.getElem?_eq_some_iff.mp hhere
    have hl : l = l.take i ++ l[i] :: l.drop (i + 1) := by
      rw [List.getElem_cons_drop, List.take_append_drop]
    refine ⟨ha, (l.drop (i + 1)).reverse, (l.take i).reverse, ?_, fun b hb => ?_⟩
    · calc l.reverse
          = (l.take i ++ l[i] :: l.drop (i + 1)).reverse := congrArg List.reverse hl
        _ = (l.drop (i + 1)).reverse ++ l[i] :: (l.take i).reverse := by simp
    · obtain ⟨k, hk⟩ := List.mem_iff_getElem?.mp (List.mem_reverse.mp hb)
      rw [List.getElem?_drop] at hk
      simpa using hafter (i + 1 + k) b (by omega) hk

namespace Listing

/-! ### Rows of pairs -/

variable {α : Type}

/-- The values that a row of pairs gives to a name, in order. -/
def valuesOf (pairs : List (String × α)) (name : String) : List α :=
  (pairs.filter (·.1 = name)).map (·.2)

/-- One more pair gives one more value to its name, and none to others. -/
lemma valuesOf_concat (pairs : List (String × α)) (name other : String) (value : α) :
    valuesOf (pairs ++ [(name, value)]) other =
      if name = other then valuesOf pairs other ++ [value] else valuesOf pairs other := by
  by_cases h : name = other <;> simp [valuesOf, List.filter_append, h]

/-- Of a row whose names are a function of the values. -/
lemma valuesOf_map (key : α → String) (values : List α) (name : String) :
    valuesOf (values.map fun value => (key value, value)) name =
      values.filter (key · = name) := by
  rw [valuesOf, List.filter_map, List.map_map]
  exact List.map_id _

/-- A value of a name comes from a pair. -/
lemma mem_valuesOf {pairs : List (String × α)} {name : String} {value : α} :
    value ∈ valuesOf pairs name ↔ (name, value) ∈ pairs := by
  constructor
  · intro h
    obtain ⟨⟨n, v⟩, hpair, rfl⟩ := List.mem_map.mp h
    obtain ⟨hmem, hname⟩ := List.mem_filter.mp hpair
    have hn : n = name := by simpa using hname
    exact hn ▸ hmem
  · intro h
    exact List.mem_map.mpr ⟨(name, value), List.mem_filter.mpr ⟨h, by simp⟩, rfl⟩

/-- The pairs of a name whose values have a property. -/
lemma filter_pairs (pairs : List (String × α)) (name : String) (p : α → Bool) :
    (pairs.filter fun pair => decide (pair.1 = name) && p pair.2) =
      ((valuesOf pairs name).filter p).map fun value => (name, value) := by
  induction pairs with
  | nil => rfl
  | cons pair rest ih =>
      simp only [valuesOf, List.filter_cons] at ih ⊢
      by_cases hname : pair.1 = name
      · subst hname
        cases hp : p pair.2 <;> simp [hp, ih]
      · simp [hname, ih]

/-- **A listing collects a row of pairs**: its names are the distinct names of the row, in the
order in which they first occur, and each name has the value of its last pair. -/
structure Collects (entries : Listing α) (pairs : List (String × α)) : Prop where
  names : entries.names = (pairs.map (·.1)).eraseDups
  get? : ∀ name, entries.get? name = (valuesOf pairs name).getLast?

namespace Collects

variable {entries : Listing α} {pairs : List (String × α)}

/-- The empty listing collects the empty row. -/
lemma nil : Collects ([] : Listing α) [] :=
  ⟨rfl, fun _ => rfl⟩

/-- **One more entry collects one more pair.** -/
lemma put (h : entries.Collects pairs) (name : String) (value : α) :
    (entries.put name value).Collects (pairs ++ [(name, value)]) := by
  constructor
  · rw [names_put, List.map_append, List.map_singleton, eraseDups_concat, h.names]
  · intro other
    rw [get?_put, valuesOf_concat]
    by_cases ho : name = other
    · rw [if_pos ho, if_pos ho, List.getLast?_concat]
    · rw [if_neg ho, if_neg ho, h.get?]

/-- A name of the row has one of its values. -/
lemma exists_get? (h : entries.Collects pairs) {name : String} (hn : name ∈ pairs.map (·.1)) :
    ∃ value, entries.get? name = some value ∧ (name, value) ∈ pairs := by
  obtain ⟨⟨n, v⟩, hpair, rfl⟩ := List.mem_map.mp hn
  have hv : v ∈ valuesOf pairs n := mem_valuesOf.mpr hpair
  have hne : valuesOf pairs n ≠ [] := List.ne_nil_of_mem hv
  refine ⟨(valuesOf pairs n).getLast hne, ?_, ?_⟩
  · rw [h.get?, List.getLast?_eq_getLast_of_ne_nil hne]
  · exact mem_valuesOf.mp (List.getLast_mem hne)

end Collects

/-- **The listing of a row of pairs collects the row.** -/
theorem collects_ofPairs (pairs : List (String × α)) : (ofPairs pairs).Collects pairs := by
  have run : ∀ (rest done : List (String × α)) (entries : Listing α), entries.Collects done →
      (rest.foldl (fun entries pair => entries.put pair.1 pair.2) entries).Collects
        (done ++ rest) := by
    intro rest
    induction rest with
    | nil =>
        intro done entries h
        rw [List.append_nil]
        exact h
    | cons pair rest ih =>
        intro done entries h
        have hstep := ih (done ++ [pair]) (entries.put pair.1 pair.2) (h.put pair.1 pair.2)
        rw [List.append_assoc] at hstep
        exact hstep
  exact run pairs [] [] Collects.nil

/-- In the listing of two rows side by side every name of the first has a value of the second. -/
lemma exists_get?_zip {names : List String} {values : List α}
    (hlength : names.length ≤ values.length) {name : String} (h : name ∈ names) :
    ∃ value, (ofPairs (names.zip values)).get? name = some value ∧ value ∈ values := by
  have hmem : name ∈ (names.zip values).map (·.1) := by
    rw [show (names.zip values).map (·.1) = names from List.map_fst_zip hlength]
    exact h
  obtain ⟨value, hget, hpair⟩ := (collects_ofPairs (names.zip values)).exists_get? hmem
  exact ⟨value, hget, (List.of_mem_zip hpair).2⟩

/-- A name leads to the last value that a row of pairs gives to it. -/
lemma get?_ofPairs_iff {pairs : List (String × α)} {name : String} {value : α} :
    (ofPairs pairs).get? name = some value ↔ ∃ i, LastAt (·.1 = name) pairs i (name, value) := by
  rw [(collects_ofPairs pairs).get?, valuesOf, List.getLast?_map, Option.map_eq_some_iff]
  simp only [getLast?_filter_eq_some_iff, decide_eq_true_eq]
  constructor
  · rintro ⟨⟨other, _⟩, ⟨i, hlast⟩, rfl⟩
    have hname : other = name := hlast.holds
    subst hname
    exact ⟨i, hlast⟩
  · rintro ⟨i, hlast⟩
    exact ⟨_, ⟨i, hlast⟩, rfl⟩

/-- Of values that are listed by their keys, a name leads to the last one that has it as its key. -/
lemma get?_ofPairs_key_iff {key : α → String} {values : List α} {name : String} {value : α} :
    (ofPairs (values.map fun value => (key value, value))).get? name = some value ↔
      ∃ i, LastAt (key · = name) values i value := by
  rw [(collects_ofPairs _).get?, valuesOf_map, getLast?_filter_eq_some_iff]
  simp only [decide_eq_true_eq]

/-- **In the listing of two rows side by side** a name leads to the value in the last place of the
name. -/
lemma get?_ofPairs_zip {names : List String} {values : List α}
    (hlength : names.length = values.length) {name : String} (h : name ∈ names) :
    ∃ i value, LastAt (· = name) names i name ∧ values[i]? = some value ∧
      (ofPairs (names.zip values)).get? name = some value := by
  obtain ⟨value, hget, -⟩ := exists_get?_zip (Nat.le_of_eq hlength) h
  obtain ⟨i, hlast⟩ := get?_ofPairs_iff.mp hget
  obtain ⟨hname, hvalue⟩ := List.getElem?_zip_eq_some.mp hlast.here
  refine ⟨i, value, ⟨hname, rfl, ?_⟩, hvalue, hget⟩
  rintro j other hj hother rfl
  obtain ⟨hbound, -⟩ := List.getElem?_eq_some_iff.mp hother
  obtain ⟨value', hvalue'⟩ : ∃ value', values[j]? = some value' :=
    ⟨_, List.getElem?_eq_getElem (hlength ▸ hbound)⟩
  have hpair : (names.zip values)[j]? = some (other, value') :=
    List.getElem?_zip_eq_some.mpr ⟨hother, hvalue'⟩
  exact hlast.after j _ hj hpair rfl

/-- An entry of two listings side by side is one of the first, or else one of the second. -/
lemma get?_append (first second : Listing α) (name : String) :
    get? (first ++ second) name = (get? first name).or (get? second name) := by
  induction first with
  | nil => rfl
  | cons entry rest ih =>
      rw [List.cons_append, get?, get?, ih]
      split <;> rfl

/-! ### Listings of distinct names -/

variable {entries entries' : Listing α}

/-- An entry of a listing without repeated names is what its name leads to. -/
lemma get?_of_mem (hnodup : entries.names.Nodup) {entry : String × α} (h : entry ∈ entries) :
    entries.get? entry.1 = some entry.2 := by
  induction entries with
  | nil => cases h
  | cons first rest ih =>
      obtain ⟨hfirst, hrest⟩ := List.nodup_cons.mp hnodup
      rcases List.mem_cons.mp h with rfl | h
      · rw [get?, if_pos rfl]
      · have hne : first.1 ≠ entry.1 := fun heq =>
          hfirst (List.mem_map.mpr ⟨entry, h, heq.symm⟩)
        rw [get?, if_neg hne, ih hrest h]

/-- What a name leads to is an entry of it. -/
lemma mem_of_get? {name : String} {value : α} (h : entries.get? name = some value) :
    (name, value) ∈ entries := by
  induction entries with
  | nil => cases h
  | cons entry rest ih =>
      rw [get?] at h
      split at h
      · next hname =>
        cases h
        rw [← hname]
        exact List.mem_cons_self
      · exact List.mem_cons_of_mem _ (ih h)

/-- The names of a listing without repeated names lead to its entries. -/
lemma map_get?_names (hnodup : entries.names.Nodup) :
    entries.names.map (fun name => (name, entries.get? name)) =
      entries.map fun entry => (entry.1, some entry.2) := by
  rw [names, List.map_map]
  exact List.map_congr_left fun entry hentry =>
    congrArg (Prod.mk entry.1) (get?_of_mem hnodup hentry)

/-- Listings with the same names in the same order and the same entry under each are the same. -/
lemma eq_of_names (hnodup : entries.names.Nodup) (hnames : entries'.names = entries.names)
    (hget : ∀ name, entries'.get? name = entries.get? name) : entries' = entries := by
  have hinjective : Function.Injective fun entry : String × α => (entry.1, some entry.2) := by
    rintro ⟨name, value⟩ ⟨name', value'⟩ h
    cases h
    rfl
  refine hinjective.list_map ?_
  rw [← map_get?_names hnodup, ← map_get?_names (hnames ▸ hnodup), hnames]
  simp only [hget]

namespace Collects

variable {pairs : List (String × α)}

/-- The names of a listing that collects a row are distinct. -/
lemma nodup_names (h : entries.Collects pairs) : entries.names.Nodup := by
  rw [h.names, ← (collects_ofPairs pairs).names]
  exact nodup_names_ofPairs pairs

/-- **A row of pairs is collected by one listing.** -/
lemma unique (h : entries.Collects pairs) (h' : entries'.Collects pairs) : entries' = entries :=
  eq_of_names h.nodup_names (h'.names.trans h.names.symm) fun name =>
    (h'.get? name).trans (h.get? name).symm

/-- A row with distinct names is collected by itself. -/
lemma eq_of_nodup (h : entries.Collects pairs) (hnodup : (pairs.map (·.1)).Nodup) :
    entries = pairs := by
  have hself := collects_ofPairs pairs
  rw [ofPairs_of_nodup hnodup] at hself
  exact hself.unique h

end Collects

end Listing

end RouteAtlas
