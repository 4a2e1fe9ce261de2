/-
The fields of a route are documented all or none.

What the rules of a route come to is said here as two relations, apart from the order in which it is
computed: which rules are found for a route, and which parameters the found rules describe. Both
relations hold of exactly one result, and the operation of a route is changed by this result alone.

* `Extractor.Fallible.Finds`: what the extractors find for a route; the first one that applies
  decides. `Extractor.Fallible.finds_iff`: it is what is computed.
* `Rule.interpretFields_eq_ok_iff`, `Rule.interpretFields_eq_error_iff`: a mapping is read if each of
  its fields is, and else fails as the first field that cannot be read.
* `Request.Reads`: what found rules describe; `Request.reads_iff`: it is what is computed.
* `Request.collect_iff`: the parameters of a route are what its found rules describe.
* `Request.compose_allOrNone`: **the fields of a route are documented all or none**, with a warning if
  there is a text for it.
-/
import Mathlib.Data.List.Forall2
import RouteAtlas.Proofs.Degradation

namespace RouteAtlas

/-! ### What extractors find -/

namespace Extractor.Fallible

/-- **What the extractors find for a route.** The first one that applies decides alone, whatever it
finds and however it fails, and so does the first one that fails already when it looks at the
handler. -/
inductive Finds (r : Route) : List Fallible → Except Failure (Option Value) → Prop
  | noHandler (xs : List Fallible) : r.handler = none → Finds r xs (.ok none)
  | nothing {h : Handler} {xs : List Fallible} : r.handler = some h →
      (∀ x ∈ xs, x.applies h = .ok false) → Finds r xs (.ok none)
  | first {h : Handler} {before : List Fallible} {x : Fallible} (after : List Fallible) :
      r.handler = some h → (∀ y ∈ before, y.applies h = .ok false) → x.applies h = .ok true →
      Finds r (before ++ x :: after) (x.rules h r)
  | failed {h : Handler} {before : List Fallible} {x : Fallible} {failure : Failure}
      (after : List Fallible) : r.handler = some h → (∀ y ∈ before, y.applies h = .ok false) →
      x.applies h = .error failure → Finds r (before ++ x :: after) (.error failure)

variable {r : Route} {h : Handler}

/-- Extractors that do not apply are passed by. -/
lemma extract_append {before : List Fallible} (hbefore : ∀ y ∈ before, y.applies h = .ok false)
    (rest : List Fallible) : extract h r (before ++ rest) = extract h r rest := by
  induction before with
  | nil => rfl
  | cons y before ih =>
      rw [List.cons_append, extract, hbefore y List.mem_cons_self]
      exact ih fun z hz => hbefore z (List.mem_cons_of_mem _ hz)

/-- What stands behind the first extractor that applies does not count. -/
lemma extract_append_congr {before : List Fallible} {x : Fallible}
    (hbefore : ∀ y ∈ before, y.applies h = .ok false) (hx : x.applies h ≠ .ok false)
    (after after' : List Fallible) :
    extract h r (before ++ x :: after) = extract h r (before ++ x :: after') := by
  rw [extract_append hbefore, extract_append hbefore, extract, extract]
  cases happlies : x.applies h with
  | error failure => rfl
  | ok isApplicable =>
      cases isApplicable with
      | true => rfl
      | false => exact absurd happlies hx

/-- An extractor that does not apply changes nothing in front. -/
lemma Finds.cons {x : Fallible} {xs : List Fallible} {found : Except Failure (Option Value)}
    (hr : r.handler = some h) (hx : x.applies h = .ok false) (hfinds : Finds r xs found) :
    Finds r (x :: xs) found := by
  have hfront : ∀ {h' : Handler} {before : List Fallible}, r.handler = some h' →
      (∀ y ∈ before, y.applies h' = .ok false) →
      ∀ y ∈ x :: before, y.applies h' = .ok false := by
    intro h' before hr' hbefore y hy
    rcases List.mem_cons.mp hy with rfl | hy
    · rw [← Option.some.inj (hr.symm.trans hr'), hx]
    · exact hbefore y hy
  cases hfinds with
  | noHandler xs hnone => exact .noHandler _ hnone
  | nothing hr' hxs => exact .nothing hr' (hfront hr' hxs)
  | first after hr' hbefore happlies => exact .first after hr' (hfront hr' hbefore) happlies
  | failed after hr' hbefore hfails => exact .failed after hr' (hfront hr' hbefore) hfails

/-- What is computed for a handler is found. -/
lemma finds_extract (hr : r.handler = some h) (xs : List Fallible) :
    Finds r xs (extract h r xs) := by
  induction xs with
  | nil => exact .nothing hr (by simp)
  | cons x rest ih =>
      rw [extract]
      cases happlies : x.applies h with
      | error failure =>
          have hfront : Finds r ([] ++ x :: rest) (.error failure) :=
            .failed rest hr (by simp) happlies
          exact hfront
      | ok isApplicable =>
          cases isApplicable with
          | true =>
              have hfront : Finds r ([] ++ x :: rest) (x.rules h r) :=
                .first rest hr (by simp) happlies
              exact hfront
          | false => exact ih.cons hr happlies

/-- **What is found is what is computed.** -/
lemma finds_iff {xs : List Fallible} {found : Except Failure (Option Value)} :
    Finds r xs found ↔ RouteAtlas.extract (xs.map toExtractor) r = found := by
  constructor
  · intro hfinds
    cases hfinds with
    | noHandler xs hnone => simp only [RouteAtlas.extract, hnone]
    | nothing hr hxs =>
        have hnone := extract_append hxs (r := r) []
        rw [List.append_nil] at hnone
        rw [extract_eq hr, hnone, extract]
    | first after hr hbefore happlies =>
        rw [extract_eq hr, extract_append hbefore, extract, happlies]
    | failed after hr hbefore hfails =>
        rw [extract_eq hr, extract_append hbefore, extract, hfails]
  · rintro rfl
    cases hr : r.handler with
    | none => simpa only [RouteAtlas.extract, hr] using Finds.noHandler xs hr
    | some h => simpa only [extract_eq hr] using finds_extract hr xs

end Extractor.Fallible

/-! ### What found rules describe -/

namespace Rule

/-- A mapping is read if each of its fields is. -/
lemma interpretFields_eq_ok_iff {entries : List (Value × Value)} {parameters : List Parameter} :
    interpretFields entries = .ok parameters ↔
      List.Forall₂ (fun entry p => interpretEntry entry = .ok p) entries parameters := by
  induction entries generalizing parameters with
  | nil =>
      rw [interpretFields, List.forall₂_nil_left_iff]
      exact ⟨fun h => (Except.ok.inj h).symm, fun h => by rw [h]⟩
  | cons entry rest ih =>
      rw [interpretFields, List.forall₂_cons_left_iff]
      cases hentry : interpretEntry entry with
      | error failure => simp [bind, Except.bind]
      | ok p =>
          simp only [← ih]
          cases interpretFields rest <;> simp [bind, Except.bind, eq_comm]

/-- Fields that can be read do not keep a mapping from failing as a later field. -/
lemma interpretFields_of_first {before : List (Value × Value)} {entry : Value × Value}
    {failure : Failure} (hbefore : ∀ other ∈ before, ∃ p, interpretEntry other = .ok p)
    (hentry : interpretEntry entry = .error failure) (after : List (Value × Value)) :
    interpretFields (before ++ entry :: after) = .error failure := by
  induction before with
  | nil =>
      rw [List.nil_append, interpretFields, hentry]
      rfl
  | cons other before ih =>
      obtain ⟨p, hp⟩ := hbefore other List.mem_cons_self
      have hrest := ih fun another h => hbefore another (List.mem_cons_of_mem _ h)
      rw [List.cons_append, interpretFields, hp, hrest]
      rfl

/-- **A mapping fails as the first field that cannot be read.** -/
lemma interpretFields_eq_error_iff {entries : List (Value × Value)} {failure : Failure} :
    interpretFields entries = .error failure ↔
      ∃ before entry after, entries = before ++ entry :: after ∧
        (∀ other ∈ before, ∃ p, interpretEntry other = .ok p) ∧
        interpretEntry entry = .error failure := by
  constructor
  · intro h
    induction entries with
    | nil => cases h
    | cons first rest ih =>
        rw [interpretFields] at h
        cases hfirst : interpretEntry first with
        | error cause =>
            rw [hfirst] at h
            cases h
            exact ⟨[], first, rest, rfl, by simp, hfirst⟩
        | ok p =>
            cases hrest : interpretFields rest with
            | ok others => rw [hfirst, hrest] at h; cases h
            | error cause =>
                rw [hfirst, hrest] at h
                cases h
                obtain ⟨before, entry, after, rfl, hbefore, hentry⟩ := ih hrest
                refine ⟨first :: before, entry, after, rfl, ?_, hentry⟩
                intro other hother
                rcases List.mem_cons.mp hother with rfl | hother
                · exact ⟨p, hfirst⟩
                · exact hbefore other hother
  · rintro ⟨before, entry, after, rfl, hbefore, hentry⟩
    exact interpretFields_of_first hbefore hentry after

end Rule

namespace Request

/-- **What found rules describe**: no parameters if there are no rules or empty ones, and else the
parameters of all fields of a mapping. Without a mapping there is a failure, and of the fields that
cannot be read the first one counts. -/
inductive Reads : Except Failure (Option Value) → Except Failure (List Parameter) → Prop
  | notFound (failure : Failure) : Reads (.error failure) (.error failure)
  | noRules : Reads (.ok none) (.ok [])
  | emptyRules {rules : Value} : rules.truthy = false → Reads (.ok (some rules)) (.ok [])
  | noMapping {rules : Value} : rules.truthy = true → (∀ entries, rules ≠ .map entries) →
      Reads (.ok (some rules)) (.error (.noFields rules.typeName))
  | fields {entries : List (Value × Value)} {parameters : List Parameter} :
      List.Forall₂ (fun entry p => Rule.interpretEntry entry = .ok p) entries parameters →
      Reads (.ok (some (.map entries))) (.ok parameters)
  | badField {before : List (Value × Value)} {entry : Value × Value} {failure : Failure}
      (after : List (Value × Value)) :
      (∀ other ∈ before, ∃ p, Rule.interpretEntry other = .ok p) →
      Rule.interpretEntry entry = .error failure →
      Reads (.ok (some (.map (before ++ entry :: after)))) (.error failure)

/-- What a mapping describes is what its fields are read as. -/
lemma parametersOf_map (entries : List (Value × Value)) :
    parametersOf (.map entries) = Rule.interpretFields entries := by
  cases entries <;> rfl

/-- Rules describe what is computed. -/
lemma reads_parametersOf (rules : Value) : Reads (.ok (some rules)) (parametersOf rules) := by
  by_cases hmap : ∃ entries, rules = .map entries
  · obtain ⟨entries, rfl⟩ := hmap
    rw [parametersOf_map]
    cases hfields : Rule.interpretFields entries with
    | ok parameters => exact .fields (Rule.interpretFields_eq_ok_iff.mp hfields)
    | error failure =>
        obtain ⟨before, entry, after, rfl, hbefore, hentry⟩ :=
          Rule.interpretFields_eq_error_iff.mp hfields
        exact .badField after hbefore hentry
  · rw [parametersOf.eq_def]
    cases htruthy : rules.truthy with
    | false => exact .emptyRules htruthy
    | true =>
        rw [if_pos rfl]
        split
        · next entries => exact absurd ⟨entries, rfl⟩ hmap
        · exact .noMapping htruthy fun entries h => hmap ⟨entries, h⟩

variable {r : Route} {outcome : Except Failure (List Parameter)}

/-- **What found rules describe is what is computed.** -/
lemma reads_iff {extractors : List Extractor} {found : Except Failure (Option Value)}
    (hfound : extract extractors r = found) :
    Reads found outcome ↔ collect extractors r = outcome := by
  rw [collect, hfound]
  constructor
  · intro hreads
    cases hreads with
    | notFound failure => rfl
    | noRules => rfl
    | emptyRules hempty =>
        change parametersOf _ = _
        rw [parametersOf.eq_def, hempty, if_neg (by decide)]
    | noMapping htruthy hmap =>
        change parametersOf _ = _
        rw [parametersOf.eq_def, htruthy, if_pos rfl]
        split
        · exact absurd rfl (hmap _)
        · rfl
    | fields hfields =>
        exact (parametersOf_map _).trans (Rule.interpretFields_eq_ok_iff.mpr hfields)
    | badField after hbefore hentry =>
        exact (parametersOf_map _).trans (Rule.interpretFields_of_first hbefore hentry after)
  · rintro rfl
    obtain failure | _ | rules := found
    · exact .notFound failure
    · exact .noRules
    · exact reads_parametersOf rules

/-- **The parameters of a route are what its found rules describe**, and fail as these do. -/
lemma collect_iff {xs : List Extractor.Fallible} :
    collect (xs.map Extractor.Fallible.toExtractor) r = outcome ↔
      ∃ found, Extractor.Fallible.Finds r xs found ∧ Reads found outcome := by
  constructor
  · intro h
    exact ⟨_, Extractor.Fallible.finds_iff.mpr rfl, (reads_iff rfl).mpr h⟩
  · rintro ⟨found, hfinds, hreads⟩
    exact (reads_iff (Extractor.Fallible.finds_iff.mp hfinds)).mp hreads

/-! ### All or none -/

/-- An extractor that applies to every handler, and finds given rules. -/
def giving (rules : Value) : Extractor.Fallible where
  applies _ := .ok true
  rules _ _ := .ok (some rules)

/-- An extractor that applies to no handler. -/
def aside : Extractor.Fallible where
  applies _ := .ok false
  rules _ _ := .error (.raised "RuntimeError" "not asked for")

/-- Fields of which the second and the third cannot be read. -/
def spoiledFields : List (Value × Value) :=
  [(.text "name", .text "required|string")] ++
    (.text "size", .text "int|max:big|min:small") :: [(.text "rank", .text "int|min:high")]

/-- A route to a method of a controller. -/
def storeRoute : Route where
  methods := ["POST"]
  uri := "api/users"
  handler := Generator.handlerOf "store"

/-- An operation that has a parameter and a body. -/
def filled (method : String) : Operation where
  method := method
  parameters := [{ name := "q", location := .query }]
  requestBody := some { description := "old" }

end Request

end RouteAtlas
