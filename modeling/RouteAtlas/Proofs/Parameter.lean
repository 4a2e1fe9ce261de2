/-
Rows of parameters under replacement in place.

* `Parameter.keys_enterAll`: the keys of a row into which another was entered are the distinct keys
  of both rows, in the order in which they first occur; `Parameter.keys_enterAll_of_nodup`: distinct
  old keys stay where they are, and the new ones follow.
* `Parameter.find?_enterAll`: a key has the last parameter that was entered under it, else the old
  one.
* `Parameter.enterAll_append`: parameters with new keys are entered behind the old ones.
* `Parameter.listing_enterAll`: parameters of one place are entered as a listing enters them under
  their names.
* `Parameter.located_enterAll`: parameters of other places leave those of a place as they are.
* `Parameter.mem_enterAll`: every parameter comes from one of the two rows.
* `Parameter.Sameness`: an equality by which the slot of a parameter is looked for.
* `Parameter.Sameness.overwrite`: replacement in two steps, the second of which may fail: the first
  parameter with the key is found, and then the first slot whose parameter equals it.
* `Parameter.Sameness.overwriteAll_eq`: **replacement never fails**, and the slot that is found is
  the one in which `enter` replaces.
-/
import Mathlib.Data.List.Basic
import RouteAtlas.Document.Parameter
import RouteAtlas.Proofs.Listing

namespace RouteAtlas.Parameter

/-! ### Keys and places -/

/-- The parameters of a place, in order. -/
def located (l : Location) (parameters : List Parameter) : List Parameter :=
  parameters.filter (·.location = l)

/-- The keys of a row into which another was entered are the distinct keys of both rows, in the
order in which they first occur. -/
lemma keys_enterAll {old : List Parameter} {done : List (String × Location)}
    (h : old.map key = done.eraseDups) (new : List Parameter) :
    (enterAll old new).map key = (done ++ new.map key).eraseDups := by
  induction new generalizing old done with
  | nil => rw [List.map_nil, List.append_nil, ← h]; rfl
  | cons p new ih =>
      have hstep : (p.enter old).map key = (done ++ [p.key]).eraseDups := by
        rw [keys_enter, eraseDups_concat, h]
      rw [enterAll, List.foldl_cons, ← enterAll, ih hstep, List.map_cons, List.append_assoc,
        List.singleton_append]

/-- **Old keys stay where they are, and new ones follow** in the order in which they first occur. -/
lemma keys_enterAll_of_nodup {old : List Parameter} (h : (old.map key).Nodup)
    (new : List Parameter) :
    (enterAll old new).map key =
      old.map key ++ ((new.map key).filter (· ∉ old.map key)).eraseDups := by
  have hnew : (new.map key).removeAll (old.map key) =
      (new.map key).filter (· ∉ old.map key) := by
    simp only [List.removeAll, List.elem_eq_contains, List.contains_eq_mem, decide_not]
  rw [keys_enterAll (eraseDups_of_nodup h).symm, List.eraseDups_append, eraseDups_of_nodup h, hnew]

/-- After a parameter was entered, its key has it, and every other key has what it had. -/
lemma find?_enter (p : Parameter) (parameters : List Parameter) (name : String) (l : Location) :
    find? name l (p.enter parameters) =
      if p.key = (name, l) then some p else find? name l parameters := by
  simp only [find?]
  induction parameters with
  | nil =>
      rw [enter, List.find?_cons, List.find?_nil]
      by_cases hp : p.key = (name, l) <;> simp [hp]
  | cons q rest ih =>
      rw [enter]
      by_cases hq : q.key = p.key
      · rw [if_pos hq, List.find?_cons, List.find?_cons, hq]
        by_cases hp : p.key = (name, l) <;> simp [hp]
      · rw [if_neg hq, List.find?_cons, List.find?_cons, ih]
        by_cases hname : q.key = (name, l)
        · have hp : p.key ≠ (name, l) := fun hp => hq (hname.trans hp.symm)
          simp [hname, hp]
        · simp [hname]

/-- **A key has the last parameter that was entered under it**, or else the old one. -/
lemma find?_enterAll (old new : List Parameter) (name : String) (l : Location) :
    find? name l (enterAll old new) =
      ((new.filter (·.key = (name, l))).getLast?).or (find? name l old) := by
  induction new generalizing old with
  | nil => rfl
  | cons p new ih =>
      have hstep : find? name l (enterAll old (p :: new)) =
          ((new.filter (·.key = (name, l))).getLast?).or (find? name l (p.enter old)) := ih _
      rw [hstep, find?_enter, List.filter_cons]
      by_cases hp : p.key = (name, l)
      · simp only [hp, if_true, decide_true, List.getLast?_cons]
        cases (new.filter (·.key = (name, l))).getLast? <;> rfl
      · simp only [hp, if_false, decide_false, Bool.false_eq_true]

/-- Every parameter comes from the row or is the entered one. -/
lemma mem_enter {p q : Parameter} {parameters : List Parameter} (h : q ∈ p.enter parameters) :
    q = p ∨ q ∈ parameters := by
  induction parameters with
  | nil => exact Or.inl (List.mem_singleton.mp h)
  | cons first rest ih =>
      rw [enter] at h
      split at h
      · rcases List.mem_cons.mp h with rfl | hrest
        · exact Or.inl rfl
        · exact Or.inr (List.mem_cons_of_mem _ hrest)
      · rcases List.mem_cons.mp h with rfl | hrest
        · exact Or.inr List.mem_cons_self
        · exact (ih hrest).imp_right (List.mem_cons_of_mem _)

/-- Every parameter comes from one of the two rows. -/
lemma mem_enterAll {q : Parameter} {old new : List Parameter} (h : q ∈ enterAll old new) :
    q ∈ old ∨ q ∈ new := by
  induction new generalizing old with
  | nil => exact Or.inl h
  | cons p new ih =>
      have hsplit : q ∈ p.enter old ∨ q ∈ new := ih h
      rcases hsplit with hold | hnew
      · rcases mem_enter hold with rfl | hold
        · exact Or.inr List.mem_cons_self
        · exact Or.inl hold
      · exact Or.inr (List.mem_cons_of_mem _ hnew)

/-- A parameter whose key is new to a row is entered behind the row. -/
lemma enter_append {p : Parameter} {old : List Parameter} (h : p.key ∉ old.map key)
    (rest : List Parameter) : p.enter (old ++ rest) = old ++ p.enter rest := by
  induction old with
  | nil => rfl
  | cons q old ih =>
      rw [List.map_cons, List.mem_cons, not_or] at h
      rw [List.cons_append, enter, if_neg (Ne.symm h.1), ih h.2, List.cons_append]

/-- **Parameters whose keys are new to a row are entered behind the row.** -/
lemma enterAll_append {old new : List Parameter} (hnew : ∀ p ∈ new, p.key ∉ old.map key)
    (rest : List Parameter) : enterAll (old ++ rest) new = old ++ enterAll rest new := by
  induction new generalizing rest with
  | nil => rfl
  | cons p new ih =>
      calc enterAll (old ++ rest) (p :: new)
          = enterAll (old ++ p.enter rest) new := by
            rw [← enter_append (hnew p List.mem_cons_self)]
            rfl
        _ = old ++ enterAll rest (p :: new) := ih (fun q hq => hnew q (List.mem_cons_of_mem _ hq)) _

/-- A parameter of a row of one place is entered as a listing enters it under its name. -/
lemma listing_enter {α : Type} (f : Parameter → α) {l : Location} {p : Parameter}
    (hp : p.location = l) {parameters : List Parameter} (h : ∀ q ∈ parameters, q.location = l) :
    (p.enter parameters).map (fun q => (q.name, f q)) =
      Listing.put (parameters.map fun q => (q.name, f q)) p.name (f p) := by
  induction parameters with
  | nil => rfl
  | cons q rest ih =>
      have hkey : q.key = p.key ↔ q.name = p.name := by
        simp [key, hp, h q List.mem_cons_self]
      rw [enter, List.map_cons, Listing.put]
      by_cases hname : q.name = p.name
      · rw [if_pos (hkey.mpr hname), if_pos hname, List.map_cons]
      · rw [if_neg (mt hkey.mp hname), if_neg hname, List.map_cons,
          ih fun other hother => h other (List.mem_cons_of_mem _ hother)]

/-- **Parameters of one place are entered as a listing enters them under their names.** -/
lemma listing_enterAll {α : Type} (f : Parameter → α) {l : Location} {new : List Parameter}
    (hnew : ∀ p ∈ new, p.location = l) :
    (enterAll [] new).map (fun p => (p.name, f p)) =
      Listing.ofPairs (new.map fun p => (p.name, f p)) := by
  have hrow : ∀ old : List Parameter, (∀ q ∈ old, q.location = l) →
      (enterAll old new).map (fun p => (p.name, f p)) =
        (new.map fun p => (p.name, f p)).foldl (fun entries pair => Listing.put entries pair.1 pair.2)
          (old.map fun p => (p.name, f p)) := by
    induction new with
    | nil => exact fun _ _ => rfl
    | cons p new ih =>
        intro old hold
        have hp := hnew p List.mem_cons_self
        have hnext : ∀ q ∈ p.enter old, q.location = l := by
          intro q hq
          rcases mem_enter hq with rfl | hq
          · exact hp
          · exact hold q hq
        rw [List.map_cons, List.foldl_cons, ← listing_enter f hp hold]
        exact ih (fun q hq => hnew q (List.mem_cons_of_mem _ hq)) _ hnext
  exact hrow [] (List.forall_mem_nil _)

/-- A parameter of another place leaves those of a place as they are. -/
lemma located_enter {l : Location} {p : Parameter} (hp : p.location ≠ l)
    (parameters : List Parameter) : located l (p.enter parameters) = located l parameters := by
  induction parameters with
  | nil => simp [enter, located, hp]
  | cons q rest ih =>
      rw [enter]
      split
      · next hkey =>
        have hq : q.location ≠ l := by
          rw [show q.location = p.location from congrArg Prod.snd hkey]
          exact hp
        simp [located, hp, hq]
      · simp only [located, List.filter_cons] at ih ⊢
        rw [ih]

/-- **Parameters of other places leave those of a place as they are.** -/
lemma located_enterAll {l : Location} {new : List Parameter} (h : ∀ p ∈ new, p.location ≠ l)
    (old : List Parameter) : located l (enterAll old new) = located l old := by
  induction new generalizing old with
  | nil => rfl
  | cons p new ih =>
      calc located l (enterAll (p.enter old) new)
          = located l (p.enter old) := ih (fun q hq => h q (List.mem_cons_of_mem _ hq)) _
        _ = located l old := located_enter (h p List.mem_cons_self) old

/-- The parameter that is found under a key has it. -/
lemma key_of_find? {name : String} {l : Location} {parameters : List Parameter} {p : Parameter}
    (h : find? name l parameters = some p) : p.key = (name, l) := by
  rw [find?] at h
  simpa using List.find?_some h

/-! ### Replacement by equality -/

/-- An equality of parameters by which a slot is looked for. Every parameter equals itself, and
parameters that are equal have the same key; nothing else is asked of it, so it may take numbers of
one size for equal or not. -/
structure Sameness where
  same : Parameter → Parameter → Bool
  same_self : ∀ p, same p p = true
  key_eq : ∀ {p q}, same p q = true → p.key = q.key

namespace Sameness

/-- The equality that takes nothing but a parameter for itself. -/
noncomputable def structural : Sameness where
  same p q := @decide (p = q) (Classical.propDecidable _)
  same_self p := by simp
  key_eq h := congrArg key (@of_decide_eq_true _ (Classical.propDecidable _) h)

variable (s : Sameness)

/-- A parameter written over the first one that equals the one found under its key. It fails if
none equals it. -/
def overwrite (p : Parameter) (parameters : List Parameter) : Except Failure (List Parameter) :=
  match find? p.name p.location parameters with
  | none => .ok (parameters ++ [p])
  | some old =>
    match parameters.findIdx? (s.same · old) with
    | some i => .ok (parameters.set i p)
    | none => .error (.raised "ValueError" "the parameter is not in the list")

/-- The parameters of a second row, each written into the first. -/
def overwriteAll (old new : List Parameter) : Except Failure (List Parameter) :=
  new.foldlM (fun parameters p => s.overwrite p parameters) old

/-- A parameter of another key is passed by: what was found under the key does not equal it. -/
lemma overwrite_cons {p q : Parameter} (h : q.key ≠ p.key) (rest : List Parameter) :
    s.overwrite p (q :: rest) = (s.overwrite p rest).map (q :: ·) := by
  have hfind : find? p.name p.location (q :: rest) = find? p.name p.location rest :=
    List.find?_cons_of_neg (by simpa [key] using h)
  rw [overwrite, overwrite, hfind]
  cases hold : find? p.name p.location rest with
  | none => rfl
  | some old =>
      have hkey : old.key = p.key := key_of_find? hold
      have hsame : s.same q old = false := by
        cases hq : s.same q old with
        | false => rfl
        | true => exact absurd ((s.key_eq hq).trans hkey) h
      simp only [List.findIdx?_cons, hsame, Bool.false_eq_true, if_false]
      cases rest.findIdx? (s.same · old) <;> rfl

/-- **Replacement never fails**, and happens in the slot of the first parameter with the key. -/
lemma overwrite_eq (p : Parameter) (parameters : List Parameter) :
    s.overwrite p parameters = .ok (p.enter parameters) := by
  induction parameters with
  | nil => rfl
  | cons q rest ih =>
      by_cases h : q.key = p.key
      · have hfind : find? p.name p.location (q :: rest) = some q :=
          List.find?_cons_of_pos (by simpa [key] using h)
        rw [overwrite, hfind, enter, if_pos h]
        simp only [List.findIdx?_cons, s.same_self, if_true]
        rfl
      · rw [s.overwrite_cons h, ih, enter, if_neg h]
        rfl

/-- Replacement row by row never fails. -/
theorem overwriteAll_eq (old new : List Parameter) :
    s.overwriteAll old new = .ok (enterAll old new) := by
  induction new generalizing old with
  | nil => rfl
  | cons p new ih =>
      rw [overwriteAll, List.foldlM_cons, s.overwrite_eq]
      exact ih (p.enter old)

end Sameness

end RouteAtlas.Parameter
