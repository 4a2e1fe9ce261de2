/-
Which classes are known when.

A run registers the class of a route before the host is asked for the responses of this route, and a
host that is asked may only add components. So at every moment the registry has the classes of the
routes so far, each under its name with what the last of them imports. A generator that is used
again forgets at the start of every run what it had registered.

* `Registry.Has`: the classes of a registry are those of a row; `Registry.Has.register`: one more.
* `Registry.Knows`, `Registry.Has.knows`: **what a registry answers** by the classes that it has.
* `Consultation.Reaches`: the moments of a computation of a host; `Consultation.Reaches.classes_eq`,
  `Consultation.Reaches.run_eq`: they change no classes and lie on its run.
* `Generator.advance`: the run of routes with the registry where it ends or fails;
  `Generator.has_advance`: it has the classes of the routes so far.
* `Generator.InUse`, `Generator.usedFor`: a generator that is used again and again;
  `Generator.InUse.Documents`: the moments of a generation at which a route is documented.
* `Generator.knows_while_documenting`: **the classes of the routes so far are known, and no
  others**.
-/
import RouteAtlas.Proofs.Run

namespace RouteAtlas

/-! ### What a registry knows -/

namespace Registry

/-- **The classes of a registry are those of a row**: one for each name, the last one of it. -/
def Has (k : Registry) (met : List ClassInfo) : Prop :=
  k.classes.Collects (met.map fun c => (c.name, c))

/-- **What a registry knows** if it has met a row of classes. It has as many classes as there are
names in the row. Inside a class of the row every name leads to the component of what it means
there, by the last class of its name, and this component is registered. Inside any other class no
name leads anywhere, and nothing changes. -/
structure Knows (k : Registry) (met : List ClassInfo) : Prop where
  size : k.classes.length = (met.map (·.name)).eraseDups.length
  resolves_iff : ∀ className name,
    (∃ schema, (k.resolve className name).1 = .ok schema) ↔ ∃ c ∈ met, c.name = className
  known : ∀ className name c, (met.filter (·.name = className)).getLast? = some c →
    k.resolve className name = (.ok (Components.pointer (c.resolve name)),
      { k with components := k.components.register (c.resolve name) })
  unknown : ∀ className name, (∀ c ∈ met, c.name ≠ className) →
    k.resolve className name = (.error (.unknownClass className), k)

namespace Has

variable {k k' : Registry} {met : List ClassInfo}

/-- An empty registry has no classes. -/
lemma nil : ({} : Registry).Has [] :=
  Listing.Collects.nil

/-- **One more class** is registered. -/
lemma register (h : k.Has met) (c : ClassInfo) : (k.register c).Has (met ++ [c]) := by
  rw [Has, List.map_append]
  exact Listing.Collects.put h c.name c

/-- Components do not count. -/
lemma of_classes (h : k.Has met) (hclasses : k'.classes = k.classes) : k'.Has met := by
  rw [Has, hclasses]
  exact h

/-- Under a name stands the last class of this name. -/
lemma get? (h : k.Has met) (className : String) :
    k.classes.get? className = (met.filter (·.name = className)).getLast? := by
  rw [Listing.Collects.get? h, Listing.valuesOf_map]

/-- Inside the last class of its name a name leads to the component of what it means there. -/
lemma resolve_of_getLast? (h : k.Has met) {className : String} {c : ClassInfo}
    (hc : (met.filter (·.name = className)).getLast? = some c) (name : String) :
    k.resolve className name = (.ok (Components.pointer (c.resolve name)),
      { k with components := k.components.register (c.resolve name) }) := by
  rw [resolve, fullName, h.get?, hc]
  rfl

/-- Inside a class that was not met no name leads anywhere. -/
lemma resolve_of_forall_ne (h : k.Has met) {className : String}
    (hne : ∀ c ∈ met, c.name ≠ className) (name : String) :
    k.resolve className name = (.error (.unknownClass className), k) := by
  have hnone : met.filter (·.name = className) = [] :=
    List.filter_eq_nil_iff.mpr fun c hc => by simpa using hne c hc
  rw [resolve, fullName, h.get?, hnone]
  rfl

/-- **A registry knows the classes that it has.** -/
theorem knows (h : k.Has met) : k.Knows met := by
  constructor
  · have hnames := congrArg List.length (Listing.Collects.names h)
    rwa [List.map_map, Listing.names, List.length_map] at hnames
  · intro className name
    constructor
    · rintro ⟨schema, hschema⟩
      by_contra hnot
      have hne : ∀ c ∈ met, c.name ≠ className := fun c hc heq => hnot ⟨c, hc, heq⟩
      rw [h.resolve_of_forall_ne hne] at hschema
      cases hschema
    · rintro ⟨c, hc, hname⟩
      have hmem : c ∈ met.filter (·.name = className) := List.mem_filter.mpr ⟨hc, by simpa⟩
      have hlast := List.getLast?_eq_getLast_of_ne_nil (List.ne_nil_of_mem hmem)
      exact ⟨_, congrArg Prod.fst (h.resolve_of_getLast? hlast name)⟩
  · exact fun className name c hc => h.resolve_of_getLast? hc name
  · exact fun className name hne => h.resolve_of_forall_ne hne name

end Has

/-- A name that is asked for changes no classes. -/
lemma classes_resolve (k : Registry) (className name : String) :
    (k.resolve className name).2.classes = k.classes := by
  rw [resolve]
  cases k.fullName className name <;> rfl

end Registry

/-! ### Moments of a computation -/

namespace Consultation

variable {α : Type}

/-- **A moment of a computation** of a host: from a registry on it comes to a point where the rest
of it is to be done, with the registry at this point. -/
inductive Reaches : Consultation α → Registry → Consultation α → Registry → Prop
  | refl (c : Consultation α) (k : Registry) : Reaches c k c k
  | reference {name : String} {next : Schema → Consultation α} {k : Registry}
      {c : Consultation α} {k' : Registry} :
      Reaches (next (k.reference name).1) (k.reference name).2 c k' →
      Reaches (.reference name next) k c k'
  | resolve {className name : String} {next : Schema → Consultation α} {k k₁ : Registry}
      {schema : Schema} {c : Consultation α} {k' : Registry} :
      k.resolve className name = (.ok schema, k₁) → Reaches (next schema) k₁ c k' →
      Reaches (.resolve className name next) k c k'
  | attempt {className name : String} {next : Except Failure Schema → Consultation α}
      {k : Registry} {c : Consultation α} {k' : Registry} :
      Reaches (next (k.resolve className name).1) (k.resolve className name).2 c k' →
      Reaches (.attempt className name next) k c k'
  | look {next : Registry → Consultation α} {k : Registry} {c : Consultation α} {k' : Registry} :
      Reaches (next k) k c k' → Reaches (.look next) k c k'

namespace Reaches

variable {c c' : Consultation α} {k k' : Registry}

/-- Up to any moment no class is registered. -/
lemma classes_eq (h : c.Reaches k c' k') : k'.classes = k.classes := by
  induction h with
  | refl c k => rfl
  | reference _ ih => exact ih
  | @resolve className name next k k₁ schema c k' hanswer _ ih =>
      have hclasses := k.classes_resolve className name
      rw [hanswer] at hclasses
      exact ih.trans hclasses
  | attempt _ ih => exact ih.trans (Registry.classes_resolve _ _ _)
  | look _ ih => exact ih

/-- **The run goes on from any of its moments.** -/
lemma run_eq (h : c.Reaches k c' k') : c.run k = c'.run k' := by
  induction h with
  | refl c k => rfl
  | reference _ ih => exact ih
  | resolve hanswer _ ih =>
      rw [run, hanswer]
      exact ih
  | attempt _ ih => exact ih
  | look _ ih => exact ih

end Reaches

/-- A computation registers no class. -/
lemma classes_run (c : Consultation α) (k : Registry) : (c.run k).2.classes = k.classes := by
  induction c generalizing k with
  | done result => rfl
  | failed failure => rfl
  | reference name next ih => exact ih _ _
  | resolve className name next ih =>
      have hclasses := k.classes_resolve className name
      rw [run]
      split
      · next schema k₁ hanswer =>
        rw [hanswer] at hclasses
        rw [ih, hclasses]
      · next failure k₁ hanswer =>
        rw [hanswer] at hclasses
        exact hclasses
  | attempt className name next ih => exact (ih _ _).trans (k.classes_resolve className name)
  | look next ih => exact ih _ _

end Consultation

namespace Generator

variable {g : Generator}

/-! ### Runs that may fail -/

/-- The classes of routes with an endpoint, in order. -/
def classesOf (routes : List Route) : List ClassInfo :=
  (routes.filterMap Route.endpoint?).map (·.classInfo)

/-- The classes of a route with an endpoint, and of others. -/
lemma classesOf_cons {r : Route} {e : Endpoint} (he : r.endpoint? = some e) (rest : List Route) :
    classesOf (r :: rest) = e.classInfo :: classesOf rest := by
  rw [classesOf, List.filterMap_cons_some he]
  rfl

/-- A route without an endpoint has no class. -/
lemma classesOf_cons_of_none {r : Route} (he : r.endpoint? = none) (rest : List Route) :
    classesOf (r :: rest) = classesOf rest := by
  rw [classesOf, List.filterMap_cons_none he]
  rfl

/-- The classes of two rows of routes. -/
lemma classesOf_append (first second : List Route) :
    classesOf (first ++ second) = classesOf first ++ classesOf second := by
  rw [classesOf, List.filterMap_append, List.map_append]
  rfl

/-- **A step registers the class of its route** and no other, also if it fails. -/
lemma has_resolve {k : Registry} {met : List ClassInfo} (h : k.Has met) {r : Route} {e : Endpoint}
    (he : r.endpoint? = some e) : (g.resolve r k).2.Has (met ++ [e.classInfo]) := by
  have hregistered := h.register e.classInfo
  have hclasses := (g.responses e).classes_run (k.register e.classInfo)
  rw [resolve, he]
  simp only [operation]
  cases e.route.method with
  | error failure => exact hregistered
  | ok method =>
      dsimp only
      cases g.outline e method with
      | error failure => exact hregistered
      | ok outline =>
          cases hrun : (g.responses e).run (k.register e.classInfo) with
          | mk answer after =>
              rw [hrun] at hclasses
              have hafter := hregistered.of_classes hclasses
              cases answer with
              | error failure => exact hafter
              | ok responses =>
                  dsimp only
                  cases g.adjust { outline with responses } e <;> exact hafter

/-- A run registers the classes of its routes. -/
lemma Run.has {k k' : Registry} {routes : List Route} {rows : List (String × Operation)}
    (h : g.Run k routes rows k') {met : List ClassInfo} (hmet : k.Has met) :
    k'.Has (met ++ classesOf routes) := by
  induction h generalizing met with
  | nil k =>
      rw [show classesOf [] = [] from rfl, List.append_nil]
      exact hmet
  | skip hclass _ ih =>
      rw [classesOf_cons_of_none (Route.endpoint?_eq_none_iff.mpr hclass)]
      exact ih hmet
  | step hrow _ ih =>
      obtain ⟨e, -, -, -, he, -⟩ := exists_of_resolve hrow
      have hstep := has_resolve (g := g) hmet he
      rw [hrow] at hstep
      rw [classesOf_cons he, ← List.singleton_append, ← List.append_assoc]
      exact ih hstep

/-- The operations of routes with their paths, and what is registered where the run ends, be it by a
failure. -/
def advance (g : Generator) :
    List Route → Registry → Except Failure (List (String × Operation)) × Registry
  | [], k => (.ok [], k)
  | r :: rest, k =>
    match g.resolve r k with
    | (.error failure, k) => (.error failure, k)
    | (.ok row?, k) =>
      let (rows, k) := g.advance rest k
      (rows.map (row?.toList ++ ·), k)

/-- A changed result comes from a result. -/
lemma exists_ok_of_map {α β : Type} {f : α → β} {x : Except Failure α} {b : β}
    (h : x.map f = .ok b) : ∃ a, x = .ok a := by
  cases x with
  | error failure => cases h
  | ok a => exact ⟨a, rfl⟩

/-- A failing step ends the run. -/
lemma advance_cons_of_error {k k' : Registry} {r : Route} {failure : Failure}
    (h : g.resolve r k = (.error failure, k')) (rest : List Route) :
    g.advance (r :: rest) k = (.error failure, k') := by
  rw [advance, h]

/-- After any other step the run goes on. -/
lemma advance_cons_of_ok {k k' : Registry} {r : Route} {row? : Option (String × Operation)}
    (h : g.resolve r k = (.ok row?, k')) (rest : List Route) :
    g.advance (r :: rest) k =
      ((g.advance rest k').1.map (row?.toList ++ ·), (g.advance rest k').2) := by
  rw [advance, h]

/-- **A run with its registry** is the run, and a failing run leaves a registry behind. -/
lemma resolveAll_eq_advance (routes : List Route) (k : Registry) :
    g.resolveAll routes k =
      match g.advance routes k with
      | (.ok rows, k) => .ok (rows, k)
      | (.error failure, _) => .error failure := by
  induction routes generalizing k with
  | nil => rfl
  | cons r rest ih =>
      rw [resolveAll, advance]
      obtain ⟨_ | row?, after⟩ := g.resolve r k
      · rfl
      · cases row? with
        | none =>
            simp only [ih]
            obtain ⟨_ | rows, last⟩ := g.advance rest after <;> rfl
        | some row =>
            simp only [ih]
            obtain ⟨_ | rows, last⟩ := g.advance rest after <;> rfl

/-- A run goes on behind the routes that it is over with. -/
lemma Run.advance_append {k k' : Registry} {routes : List Route}
    {rows : List (String × Operation)} (h : g.Run k routes rows k') (rest : List Route) :
    g.advance (routes ++ rest) k =
      ((g.advance rest k').1.map (rows ++ ·), (g.advance rest k').2) := by
  induction h with
  | nil k =>
      rw [List.nil_append]
      obtain ⟨_ | rows, last⟩ := g.advance rest k <;> rfl
  | skip hclass _ ih =>
      have hnone := resolve_of_none (g := g) (Route.endpoint?_eq_none_iff.mpr hclass)
      rw [List.cons_append, advance_cons_of_ok (hnone _), ih]
      obtain ⟨_ | others, last⟩ := g.advance rest _ <;> rfl
  | step hrow _ ih =>
      rw [List.cons_append, advance_cons_of_ok hrow, ih]
      obtain ⟨_ | others, last⟩ := g.advance rest _ <;> rfl

/-- **Where a run ends, it has the classes of the routes so far**: of all routes, unless it
fails. -/
lemma has_advance {k : Registry} {met : List ClassInfo} (h : k.Has met) (routes : List Route) :
    ∃ i ≤ (classesOf routes).length,
      (g.advance routes k).2.Has (met ++ (classesOf routes).take i) ∧
        ∀ rows, (g.advance routes k).1 = .ok rows → i = (classesOf routes).length := by
  induction routes generalizing k met with
  | nil =>
      refine ⟨0, Nat.le_refl 0, ?_, fun _ _ => rfl⟩
      rw [List.take_zero, List.append_nil]
      exact h
  | cons r rest ih =>
      cases he : r.endpoint? with
      | none =>
          obtain ⟨i, hi, hhas, hall⟩ := ih h
          rw [advance_cons_of_ok (resolve_of_none he k), classesOf_cons_of_none he]
          refine ⟨i, hi, hhas, fun rows hrows => ?_⟩
          obtain ⟨others, hothers⟩ := exists_ok_of_map hrows
          exact hall others hothers
      | some e =>
          have hstep := has_resolve (g := g) h he
          rw [classesOf_cons he]
          cases hresolve : g.resolve r k with
          | mk answer after =>
              rw [hresolve] at hstep
              cases answer with
              | error failure =>
                  rw [advance_cons_of_error hresolve]
                  refine ⟨1, Nat.le_add_left 1 _, hstep, ?_⟩
                  rintro rows ⟨⟩
              | ok row? =>
                  obtain ⟨i, hi, hhas, hall⟩ := ih hstep
                  rw [advance_cons_of_ok hresolve]
                  refine ⟨i + 1, Nat.succ_le_succ hi, ?_, fun rows hrows => ?_⟩
                  · rw [List.take_succ_cons, ← List.singleton_append, ← List.append_assoc]
                    exact hhas
                  · obtain ⟨others, hothers⟩ := exists_ok_of_map hrows
                    rw [hall others hothers, List.length_cons]

/-! ### Generators that are used again -/

/-- **A generator that is used again and again.** It keeps what its last generation registered, also
if this one failed. -/
structure InUse where
  generator : Generator
  registry : Option Registry := none

namespace InUse

/-- One generation. It starts with nothing registered, whatever was kept. -/
def generate (u : InUse) (routes : List Route) : Except Failure (Option Document) × InUse :=
  match u.generator.select routes with
  | .error failure => (.error failure, { u with registry := some {} })
  | .ok selected =>
    match u.generator.advance selected {} with
    | (.error failure, k) => (.error failure, { u with registry := some k })
    | (.ok rows, k) =>
      (u.generator.transform
          { u.generator.settings.document.addAll rows with components := k.components },
        { u with registry := some k })

variable {u : InUse}

/-- **A generation of a used generator is a generation.** -/
lemma generate_fst (u : InUse) (routes : List Route) :
    (u.generate routes).1 = (u.generator.generate routes).map Outcome.document := by
  rw [generate, Generator.generate]
  cases u.generator.select routes with
  | error failure => rfl
  | ok selected =>
      simp only [bind, Except.bind, resolveAll_eq_advance]
      obtain ⟨_ | rows, k⟩ := u.generator.advance selected {}
      · rfl
      · dsimp only
        cases u.generator.transform _ <;> rfl

/-- A generation changes only what is kept. -/
lemma generator_generate (u : InUse) (routes : List Route) :
    (u.generate routes).2.generator = u.generator := by
  rw [generate]
  cases u.generator.select routes with
  | error failure => rfl
  | ok selected =>
      dsimp only
      obtain ⟨_ | rows, k⟩ := u.generator.advance selected {} <;> rfl

/-- **A moment of a generation** over routes: the class-based route in position `i` of those that
are selected is documented and has its outline, the rest of what the host asks for is `c`, and `k`
is registered. -/
def Documents (u : InUse) (routes : List Route) (i : ℕ) (c : Consultation (List Response))
    (k : Registry) : Prop :=
  ∃ selected before r after e method outline rows start,
    u.generator.select routes = .ok selected ∧ selected = before ++ r :: after ∧
    i = (classesOf before).length ∧ r.endpoint? = some e ∧ r.method = .ok method ∧
    u.generator.outline e method = .ok outline ∧ u.generator.Run {} before rows start ∧
    (u.generator.responses e).Reaches (start.register e.classInfo) c k

/-- **At any moment the registry has the classes of the routes so far.** -/
lemma Documents.has {routes : List Route} {i : ℕ} {c : Consultation (List Response)} {k : Registry}
    (h : u.Documents routes i c k) :
    k.Has ((classesOf (routes.filter u.generator.keeps)).take (i + 1)) := by
  obtain ⟨selected, before, r, after, e, method, outline, rows, start, hselect, hselected, rfl, he, -,
    -, hrun, hreaches⟩ := h
  have hbefore := (hrun.has Registry.Has.nil).register e.classInfo
  rw [← eq_filter_of_select hselect, hselected, classesOf_append, classesOf_cons he,
    List.take_length_add_append, List.take_succ_cons, List.take_zero]
  exact hbefore.of_classes hreaches.classes_eq

/-- **A failure of the host ends the generation**, and what is registered then is kept. -/
lemma Documents.generate_eq {routes : List Route} {i : ℕ} {c : Consultation (List Response)}
    {k k' : Registry} {failure : Failure} (h : u.Documents routes i c k)
    (hc : c.run k = (.error failure, k')) :
    u.generate routes = (.error failure, { u with registry := some k' }) := by
  obtain ⟨selected, before, r, after, e, method, outline, rows, start, hselect, rfl, -, he, hm,
    houtline, hrun, hreaches⟩ := h
  have hresolve : u.generator.resolve r start = (.error failure, k') := by
    have hasked := hreaches.run_eq.trans hc
    simp only [resolve, he, operation, Route.route_of_endpoint? he, hm, houtline, hasked]
  have hadvance := hrun.advance_append (r :: after)
  rw [advance_cons_of_error hresolve] at hadvance
  rw [generate, hselect]
  simp only [hadvance]
  rfl

/-- The routes so far are some of those that are selected. -/
lemma Documents.lt_length {routes : List Route} {i : ℕ} {c : Consultation (List Response)}
    {k : Registry} (h : u.Documents routes i c k) :
    i < (classesOf (routes.filter u.generator.keeps)).length := by
  obtain ⟨selected, before, r, after, e, -, -, -, -, hselect, hselected, rfl, he, -⟩ := h
  rw [← eq_filter_of_select hselect, hselected, classesOf_append, classesOf_cons he,
    List.length_append, List.length_cons]
  omega

/-- **What is kept after a generation** has the classes of the routes so far: of all selected
routes, unless the generation fails. -/
lemma exists_has_generate (u : InUse) (routes : List Route) :
    ∃ i ≤ (classesOf (routes.filter u.generator.keeps)).length, ∃ k,
      (u.generate routes).2 = { u with registry := some k } ∧
        k.Has ((classesOf (routes.filter u.generator.keeps)).take i) ∧
        ∀ document, (u.generate routes).1 = .ok document →
          i = (classesOf (routes.filter u.generator.keeps)).length := by
  rw [generate]
  cases hselect : u.generator.select routes with
  | error failure =>
      refine ⟨0, Nat.zero_le _, {}, rfl, Registry.Has.nil, ?_⟩
      rintro document ⟨⟩
  | ok selected =>
      have hadvance := has_advance (g := u.generator) Registry.Has.nil selected
      rw [← eq_filter_of_select hselect]
      cases hrows : u.generator.advance selected {} with
      | mk answer k =>
          rw [hrows] at hadvance
          obtain ⟨i, hi, hhas, hall⟩ := hadvance
          simp only [hrows]
          cases answer with
          | error failure =>
              refine ⟨i, hi, k, rfl, hhas, ?_⟩
              rintro document ⟨⟩
          | ok rows => exact ⟨i, hi, k, rfl, hhas, fun _ _ => hall rows rfl⟩

end InUse

/-- A generator that was used for rows of routes, one after the other. -/
def usedFor (g : Generator) (runs : List (List Route)) : InUse :=
  runs.foldl (fun u routes => (u.generate routes).2) ⟨g, none⟩

/-- It is still the same generator. -/
lemma generator_usedFor (g : Generator) (runs : List (List Route)) :
    (g.usedFor runs).generator = g := by
  have hrest : ∀ u : InUse,
      (runs.foldl (fun u routes => (u.generate routes).2) u).generator = u.generator := by
    induction runs with
    | nil => exact fun _ => rfl
    | cons routes rest ih => exact fun u => (ih _).trans (u.generator_generate routes)
  exact hrest ⟨g, none⟩

/-- The classes that a generation over routes meets: those of the class-based routes among the
selected ones, in order. -/
def met (g : Generator) (routes : List Route) : List ClassInfo :=
  classesOf (routes.filter g.keeps)

/-- **The classes of the routes so far are known, and no others.** A generator was used for any
rows of routes before. What it gives for further routes is what a new one gives. At any moment while
a class-based route of them is documented, it knows the classes of the selected class-based routes
up to this one. A host that asks inside another class, and does not go on by itself, ends the
generation, and what is registered stays as it is. When the generation is over, the classes are
known of all selected routes, or of those up to a failure. -/
theorem knows_while_documenting (g : Generator) (runs : List (List Route)) (routes : List Route) :
    ((g.usedFor runs).generate routes).1 = (g.generate routes).map Outcome.document ∧
      (∀ i c k, (g.usedFor runs).Documents routes i c k →
        i < (g.met routes).length ∧ k.Knows ((g.met routes).take (i + 1)) ∧
          ∀ className name next, c = .resolve className name next →
            (∀ other ∈ (g.met routes).take (i + 1), other.name ≠ className) →
              (g.usedFor runs).generate routes =
                (.error (.unknownClass className), ⟨g, some k⟩)) ∧
      ∃ i ≤ (g.met routes).length, ∃ k, ((g.usedFor runs).generate routes).2 = ⟨g, some k⟩ ∧
        k.Knows ((g.met routes).take i) ∧
          ∀ document, ((g.usedFor runs).generate routes).1 = .ok document →
            i = (g.met routes).length := by
  have hg := g.generator_usedFor runs
  generalize g.usedFor runs = u at hg ⊢
  subst hg
  refine ⟨u.generate_fst routes, fun i c k h => ⟨h.lt_length, h.has.knows, ?_⟩, ?_⟩
  · rintro className name next rfl hother
    refine h.generate_eq ?_
    rw [Consultation.run, h.has.resolve_of_forall_ne hother]
  · obtain ⟨i, hi, k, hkept, hhas, hall⟩ := u.exists_has_generate routes
    exact ⟨i, hi, k, hkept, hhas.knows, hall⟩

/-- A generator for all routes whose host asks what a user is inside the class that the route names
in its place. -/
def inquiring : Generator where
  filter := some fun _ => .ok true
  responses e := .resolve e.route.uri "User" fun _ => .done []

/-- A route to a class that imports the user under a full name, with the name of a class to ask. -/
def askingRoute (className asked user : String) : Route where
  methods := ["GET"]
  uri := asked
  handler := some {
    classInfo := some { name := className, imports := [("User", user)] }
    method := some "run" }

/-- Routes to a class that was registered twice, and to one that asks inside a third class. -/
def askingRoutes : List Route :=
  [askingRoute "App.Posts" "App.Posts" "App.User", askingRoute "App.Posts" "App.Posts" "Blog.User",
    askingRoute "App.Tags" "App.Home" "App.User"]

/-- **A class of an earlier generation is not known**: a generator that was used for the class that
the last route asks for fails, and keeps the two classes of the routes, of the first one what it
imports last. -/
theorem inquiring_forgets :
    ∃ k, ((inquiring.usedFor [[askingRoute "App.Home" "App.Home" "App.User"]]).generate
        askingRoutes) = (.error (.unknownClass "App.Home"), ⟨inquiring, some k⟩) ∧
      k.classes.length = 2 ∧
      (k.resolve "App.Posts" "User").1 = .ok (.reference {} "#/components/schemas/Blog.User") := by
  obtain ⟨-, hmoments, -⟩ := knows_while_documenting inquiring
    [[askingRoute "App.Home" "App.Home" "App.User"]] askingRoutes
  obtain ⟨rows, start, hrun⟩ : ∃ rows start, inquiring.Run {} (askingRoutes.take 2) rows start := by
    have hok : (inquiring.resolveAll (askingRoutes.take 2) {}).toOption.isSome = true := by
      decide +kernel
    cases hall : inquiring.resolveAll (askingRoutes.take 2) {} with
    | error failure => rw [hall] at hok; cases hok
    | ok result => exact ⟨result.1, result.2, run_iff.mpr hall⟩
  obtain ⟨e, he⟩ := Route.exists_endpoint? (r := askingRoute "App.Tags" "App.Home" "App.User") rfl
  have hlower : Text.lowerString "GET" = "get" := by decide +kernel
  have hmethod : (askingRoute "App.Tags" "App.Home" "App.User").method = .ok "get" :=
    congrArg Except.ok hlower
  obtain ⟨outline, houtline⟩ : ∃ outline, inquiring.outline e "get" = .ok outline := by
    cases he
    exact ⟨_, rfl⟩
  have hmoment : ((inquiring.usedFor [[askingRoute "App.Home" "App.Home" "App.User"]]).Documents
      askingRoutes 2 (inquiring.responses e) (start.register e.classInfo)) :=
    ⟨askingRoutes, askingRoutes.take 2, _, [], e, "get", outline, rows, start, rfl, rfl, rfl, he,
      hmethod, houtline, hrun, .refl _ _⟩
  obtain ⟨-, hknows, habort⟩ := hmoments _ _ _ hmoment
  have huri : e.route.uri = "App.Home" := by rw [Route.route_of_endpoint? he]; rfl
  have hmet : ∀ other ∈ (inquiring.met askingRoutes).take 3, other.name ≠ "App.Home" := by
    decide +kernel
  refine ⟨_, habort "App.Home" "User" (fun _ => .done []) ?_ hmet, ?_, ?_⟩
  · rw [← huri]
    rfl
  · rw [hknows.size]
    decide +kernel
  · rw [hknows.known "App.Posts" "User"
      { name := "App.Posts", imports := [("User", "Blog.User")] } (by decide +kernel)]
    rfl

end Generator

end RouteAtlas
