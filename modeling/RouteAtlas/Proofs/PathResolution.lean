/-
How the parameters of a path come about.

A placeholder of a path has three sources: its own name, the parameter of the handler in its place,
and the documentation of this parameter. Each of them can say something more than once, and in each
the last word counts. What they come to is said here by the places in rows, apart from the listings
in which it is looked up.

* `PathParameter.PositionOrder`: the stable order by position; `PathParameter.positionOrder_iff`:
  there is one, and the signature has it.
* `PathParameter.IsScalar`: a scalar type behind any marks that allow null.
* `PathParameter.TypeIs`, `PathParameter.KindIs`, `PathParameter.DescriptionIs`: what the last word on
  the type of a parameter, on its kind and on its description is.
* `PathParameter.Follows.unique`: these decide what the parameter of a name is.
* `PathParameters.ofRoute_priorities`: **each placeholder has the parameter that these come to**.
-/
import Mathlib.Data.List.Forall2
import Mathlib.Data.List.TakeWhile
import RouteAtlas.Proofs.PathAgreement

namespace RouteAtlas

namespace PathParameter

/-! ### The order of positions -/

/-- **Whether a row is another one in the order of positions**, in which those of one position stand
as they stood. -/
structure PositionOrder (declared row : List HandlerParameter) : Prop where
  sorted : row.Pairwise fun p q => p.position ≤ q.position
  stable : ∀ position,
    row.filter (·.position = position) = declared.filter (·.position = position)

/-- Positions are compared transitively. -/
lemma position_trans (p q s : HandlerParameter) (hpq : decide (p.position ≤ q.position) = true)
    (hqs : decide (q.position ≤ s.position) = true) : decide (p.position ≤ s.position) = true := by
  simp only [decide_eq_true_eq] at *
  omega

/-- Any two positions are compared. -/
lemma position_total (p q : HandlerParameter) :
    (decide (p.position ≤ q.position) || decide (q.position ≤ p.position)) = true := by
  simp only [Bool.or_eq_true, decide_eq_true_eq]
  omega

/-- Sorting by position leaves those of one position in their order. -/
lemma filter_mergeSort (parameters : List HandlerParameter) (position : Int) :
    (parameters.mergeSort fun p q => p.position ≤ q.position).filter (·.position = position) =
      parameters.filter (·.position = position) := by
  have hsame : (parameters.filter (·.position = position)).Pairwise
      fun p q => decide (p.position ≤ q.position) = true := by
    refine List.pairwise_filter.mpr (List.pairwise_of_forall fun p q hp hq => ?_)
    simp only [decide_eq_true_eq] at *
    omega
  have hsub := (List.sublist_mergeSort position_trans position_total hsame
    List.filter_sublist).filter (·.position = position)
  rw [List.filter_filter] at hsub
  simp only [Bool.and_self] at hsub
  have hlength := ((List.mergeSort_perm parameters fun p q => p.position ≤ q.position).filter
    (·.position = position)).length_eq
  exact (hsub.eq_of_length hlength.symm).symm

/-- The signature has the declared parameters that are no request in the order of positions. -/
lemma positionOrder_signature (requestTypes : List String) (parameters : List HandlerParameter) :
    PositionOrder (parameters.filter (!isRequest requestTypes ·))
      (signature requestTypes parameters) := by
  constructor
  · have hsorted := List.pairwise_mergeSort position_trans position_total parameters
    exact (hsorted.imp of_decide_eq_true).filter _
  · intro position
    rw [signature, List.filter_comm, filter_mergeSort, List.filter_comm]

/-- The first of a sorted row goes before all of it. -/
lemma position_le_of_mem {p q : HandlerParameter} {row : List HandlerParameter}
    (hsorted : (p :: row).Pairwise fun p q => p.position ≤ q.position) (hq : q ∈ p :: row) :
    p.position ≤ q.position := by
  rcases List.mem_cons.mp hq with rfl | hq
  · exact Int.le_refl _
  · exact (List.pairwise_cons.mp hsorted).1 q hq

/-- Rows that have the same parameters of each position have the same parameters. -/
lemma mem_iff_of_positions {row row' : List HandlerParameter}
    (h : ∀ position, row.filter (·.position = position) = row'.filter (·.position = position))
    (p : HandlerParameter) : p ∈ row ↔ p ∈ row' := by
  have hp : p ∈ row.filter (·.position = p.position) ↔
      p ∈ row'.filter (·.position = p.position) := by rw [h]
  simpa using hp

/-- Sorted rows that have the same parameters of each position are the same. -/
lemma eq_of_sorted {row row' : List HandlerParameter}
    (hsorted : row.Pairwise fun p q => p.position ≤ q.position)
    (hsorted' : row'.Pairwise fun p q => p.position ≤ q.position)
    (h : ∀ position, row.filter (·.position = position) = row'.filter (·.position = position)) :
    row = row' := by
  have hmem := mem_iff_of_positions h
  induction row generalizing row' with
  | nil => exact (List.eq_nil_iff_forall_not_mem.mpr fun p hp => by cases (hmem p).mpr hp).symm
  | cons p row ih =>
      cases row' with
      | nil => cases (hmem p).mp List.mem_cons_self
      | cons q row' =>
          -- both first ones are the first of their common position
          have hpq := position_le_of_mem hsorted ((hmem q).mpr List.mem_cons_self)
          have hqp := position_le_of_mem hsorted' ((hmem p).mp List.mem_cons_self)
          have hposition : q.position = p.position := Int.le_antisymm hqp hpq
          have hhead := h p.position
          rw [List.filter_cons_of_pos (by simp), List.filter_cons_of_pos (by simpa using hposition)]
            at hhead
          obtain ⟨rfl, -⟩ := List.cons.inj hhead
          have hrest : ∀ position,
              row.filter (·.position = position) = row'.filter (·.position = position) := by
            intro position
            have hcons := h position
            rw [List.filter_cons, List.filter_cons] at hcons
            split at hcons
            · exact (List.cons.inj hcons).2
            · exact hcons
          rw [ih (List.pairwise_cons.mp hsorted).2 (List.pairwise_cons.mp hsorted').2 hrest
            (mem_iff_of_positions hrest)]

/-- **There is one order of positions**, and the signature has it. -/
lemma positionOrder_iff {requestTypes : List String} {parameters row : List HandlerParameter} :
    PositionOrder (parameters.filter (!isRequest requestTypes ·)) row ↔
      row = signature requestTypes parameters := by
  have hsignature := positionOrder_signature requestTypes parameters
  constructor
  · intro h
    refine eq_of_sorted h.sorted hsignature.sorted fun position => ?_
    rw [h.stable, hsignature.stable]
  · rintro rfl
    exact hsignature

/-! ### The names of placeholders -/

variable {placeholders names : List String} {placeholder : String}

/-- Every placeholder has one name. -/
lemma names_aliasMap (placeholders names : List String) :
    (aliasMap placeholders names).names = placeholders.eraseDups := by
  rw [aliasMap, (Listing.collects_ofPairs _).names, List.map_fst_zip]
  split
  · next hlength => exact Nat.le_of_eq hlength
  · exact Nat.le_refl _

/-- Of as many names as placeholders, a placeholder has the one in its last place. -/
lemma get?_aliasMap_of_length_eq (hlength : placeholders.length = names.length)
    (h : placeholder ∈ placeholders) :
    ∃ i name, LastAt (· = placeholder) placeholders i placeholder ∧ names[i]? = some name ∧
      (aliasMap placeholders names).get? placeholder = some name := by
  rw [aliasMap, if_pos hlength]
  exact Listing.get?_ofPairs_zip hlength h

/-- Without as many names as placeholders, a placeholder keeps its own. -/
lemma get?_aliasMap_of_length_ne (hlength : placeholders.length ≠ names.length)
    (h : placeholder ∈ placeholders) :
    (aliasMap placeholders names).get? placeholder = some placeholder := by
  rw [aliasMap, if_neg hlength]
  obtain ⟨i, name, hlast, hname, hget⟩ := Listing.get?_ofPairs_zip rfl h
  rw [hlast.here] at hname
  rw [hget, hname]

/-! ### Scalars -/

/-- The words for scalars, and their kinds. -/
inductive ScalarWord : String → Kind → Prop
  | int : ScalarWord "int" .integer
  | float : ScalarWord "float" .number
  | string : ScalarWord "string" .string
  | bool : ScalarWord "bool" .boolean

/-- **A scalar type**: the word for it behind any number of marks that allow null. -/
def IsScalar (typeName : String) (kind : Kind) : Prop :=
  ∃ marks word, typeName.toList = List.replicate marks '?' ++ word.toList ∧ ScalarWord word kind

/-- A type without the marks in front of it is what stands behind them. -/
lemma dropNullMarks_eq_iff {typeName word : String} (hword : word.toList.head? ≠ some '?') :
    dropNullMarks typeName = word ↔
      ∃ marks, typeName.toList = List.replicate marks '?' ++ word.toList := by
  rw [dropNullMarks, ← String.toList_inj, String.toList_ofList, ← Text.trimLeft,
    Text.trimLeft_eq_iff (Text.forall_beq_eq_false_iff.mpr hword)]
  constructor
  · rintro ⟨before, hbefore, htype⟩
    have hmarks : before = List.replicate before.length '?' :=
      List.eq_replicate_of_mem fun c hc => beq_iff_eq.mp (hbefore c hc)
    exact ⟨before.length, by rw [← hmarks, htype]⟩
  · rintro ⟨marks, htype⟩
    exact ⟨_, by simp, htype⟩

/-- **A type asks for the kind of a scalar** exactly if it is this scalar. -/
lemma scalarKind?_eq_some_iff {typeName : String} {kind : Kind} :
    scalarKind? typeName = some kind ↔ IsScalar typeName kind := by
  constructor
  · intro h
    rw [scalarKind?] at h
    have hscalar : ∀ {word}, dropNullMarks typeName = word → word.toList.head? ≠ some '?' →
        ScalarWord word kind → IsScalar typeName kind := by
      intro word hdrop hword hkind
      obtain ⟨marks, hmarks⟩ := (dropNullMarks_eq_iff hword).mp hdrop
      exact ⟨marks, word, hmarks, hkind⟩
    split at h
    · next hdrop => cases h; exact hscalar hdrop (by decide) .int
    · next hdrop => cases h; exact hscalar hdrop (by decide) .float
    · next hdrop => cases h; exact hscalar hdrop (by decide) .string
    · next hdrop => cases h; exact hscalar hdrop (by decide) .bool
    · cases h
  · rintro ⟨marks, word, htype, hkind⟩
    have hword : word.toList.head? ≠ some '?' := by cases hkind <;> decide
    rw [scalarKind?, (dropNullMarks_eq_iff hword).mpr ⟨marks, htype⟩]
    cases hkind <;> rfl

/-- A type asks for no scalar exactly if it is none. -/
lemma scalarKind?_eq_none_iff {typeName : String} :
    scalarKind? typeName = none ↔ ∀ kind, ¬IsScalar typeName kind := by
  rw [Option.eq_none_iff_forall_ne_some]
  exact forall_congr' fun kind => not_congr scalarKind?_eq_some_iff

/-! ### What a parameter is -/

variable {row : List HandlerParameter} {tags : List DocParam} {name : String}

/-- **What the last item of a name says**, if this is not empty. -/
def LastSays {α : Type} (key : α → String) (said : α → Option String) (l : List α)
    (name text : String) : Prop :=
  ∃ i a, LastAt (key · = name) l i a ∧ said a = some text ∧ text ≠ ""

/-- The type that the last declared parameter of a name has. -/
def Declares : List HandlerParameter → String → String → Prop :=
  LastSays (·.name) (·.typeName)

/-- The type that the last documented parameter of a name has. -/
def Documents : List DocParam → String → String → Prop :=
  LastSays (·.key) (·.typeName)

/-- What the last documented parameter of a name is said to be. -/
def Describes : List DocParam → String → String → Prop :=
  LastSays (·.key) fun tag => some tag.description

/-- **The type of a parameter**: the declared one, or else the documented one, or else none. -/
inductive TypeIs (row : List HandlerParameter) (tags : List DocParam) (name : String) :
    Option String → Prop
  | declared {typeName : String} : Declares row name typeName → TypeIs row tags name (some typeName)
  | documented {typeName : String} : (∀ other, ¬Declares row name other) →
      Documents tags name typeName → TypeIs row tags name (some typeName)
  | untyped : (∀ other, ¬Declares row name other) → (∀ other, ¬Documents tags name other) →
      TypeIs row tags name none

/-- **The kind for a type**: a text without a type, that of a scalar, or else the key of a model. -/
inductive KindIs : Option String → Kind → Prop
  | untyped : KindIs none .string
  | scalar {typeName : String} {kind : Kind} : IsScalar typeName kind → KindIs (some typeName) kind
  | model {typeName : String} : (∀ kind, ¬IsScalar typeName kind) →
      KindIs (some typeName) .integer

/-- **The description of a parameter**: the documented one, or else a model is described by its key
and anything else not at all. -/
inductive DescriptionIs (tags : List DocParam) (name : String) (typeName : Option String) :
    String → Prop
  | documented {description : String} : Describes tags name description →
      DescriptionIs tags name typeName description
  | model {t : String} : (∀ other, ¬Describes tags name other) → typeName = some t →
      (∀ kind, ¬IsScalar t kind) →
      DescriptionIs tags name typeName ("The " ++ humanize name ++ " ID")
  | plain : (∀ other, ¬Describes tags name other) →
      (∀ t, typeName = some t → ∃ kind, IsScalar t kind) → DescriptionIs tags name typeName ""

/-- **What a parameter of a path is** by what is declared and what is documented. -/
structure Follows (row : List HandlerParameter) (tags : List DocParam) (p : Parameter) : Prop where
  location : p.location = .path
  required : p.required = true
  typed : ∃ typeName kind, TypeIs row tags p.name typeName ∧ KindIs typeName kind ∧
    p.schema = .make kind ∧ DescriptionIs tags p.name typeName p.description

/-! ### Rows decide what a parameter is -/

/-- The last item of a name says one thing. -/
lemma LastSays.unique {α : Type} {key : α → String} {said : α → Option String} {l : List α}
    {text other : String} (h : LastSays key said l name text)
    (h' : LastSays key said l name other) : text = other := by
  obtain ⟨i, a, hlast, htext, -⟩ := h
  obtain ⟨j, b, hlast', hother, -⟩ := h'
  obtain ⟨-, rfl⟩ := hlast.unique hlast'
  exact Option.some.inj (htext.symm.trans hother)

/-- A parameter has one type. -/
lemma TypeIs.unique {typeName other : Option String} (h : TypeIs row tags name typeName)
    (h' : TypeIs row tags name other) : typeName = other := by
  cases h with
  | declared hdeclared =>
      cases h' with
      | declared hother => rw [hdeclared.unique hother]
      | documented hnone _ | untyped hnone _ => exact absurd hdeclared (hnone _)
  | documented hnone hdocumented =>
      cases h' with
      | declared hother => exact absurd hother (hnone _)
      | documented _ hother => rw [hdocumented.unique hother]
      | untyped _ hundocumented => exact absurd hdocumented (hundocumented _)
  | untyped hnone hundocumented =>
      cases h' with
      | declared hother => exact absurd hother (hnone _)
      | documented _ hother => exact absurd hother (hundocumented _)
      | untyped _ _ => rfl

/-- A type asks for one kind. -/
lemma KindIs.unique {typeName : Option String} {kind other : Kind} (h : KindIs typeName kind)
    (h' : KindIs typeName other) : kind = other := by
  cases h with
  | untyped => cases h'; rfl
  | scalar hscalar =>
      cases h' with
      | scalar hother =>
          rw [← scalarKind?_eq_some_iff] at hscalar hother
          exact Option.some.inj (hscalar.symm.trans hother)
      | model hnone => exact absurd hscalar (hnone _)
  | model hnone =>
      cases h' with
      | scalar hother => exact absurd hother (hnone _)
      | model _ => rfl

/-- A parameter has one description. -/
lemma DescriptionIs.unique {typeName : Option String} {description other : String}
    (h : DescriptionIs tags name typeName description)
    (h' : DescriptionIs tags name typeName other) : description = other := by
  cases h with
  | documented hdescribed =>
      cases h' with
      | documented hother => exact hdescribed.unique hother
      | model hnone _ _ | plain hnone _ => exact absurd hdescribed (hnone _)
  | model hnone htype hmodel =>
      cases h' with
      | documented hother => exact absurd hother (hnone _)
      | model _ _ _ => rfl
      | plain _ hscalar =>
          obtain ⟨kind, hkind⟩ := hscalar _ htype
          exact absurd hkind (hmodel kind)
  | plain hnone hscalar =>
      cases h' with
      | documented hother => exact absurd hother (hnone _)
      | model _ htype hmodel =>
          obtain ⟨kind, hkind⟩ := hscalar _ htype
          exact absurd hkind (hmodel kind)
      | plain _ _ => rfl

/-- **The rows decide what the parameter of a name is.** -/
lemma Follows.unique {p q : Parameter} (h : Follows row tags p) (h' : Follows row tags q)
    (hname : p.name = q.name) : p = q := by
  obtain ⟨hlocation, hrequired, typeName, kind, htype, hkind, hschema, hdescription⟩ := h
  obtain ⟨hlocation', hrequired', typeName', kind', htype', hkind', hschema', hdescription'⟩ := h'
  rw [← hname] at htype' hdescription'
  obtain rfl := htype.unique htype'
  obtain rfl := hkind.unique hkind'
  calc p
      = ⟨p.name, .path, p.description, true, .make kind⟩ := by
        rw [← hlocation, ← hrequired, ← hschema]
    _ = ⟨q.name, .path, q.description, true, .make kind⟩ := by
        rw [hname, hdescription.unique hdescription']
    _ = q := by rw [← hlocation', ← hrequired', ← hschema']

/-! ### What is computed -/

/-- A text says something exactly if it is there and not empty. -/
lemma nonEmpty?_eq_some_iff {s : Option String} {t : String} :
    nonEmpty? s = some t ↔ s = some t ∧ t ≠ "" := by
  rw [nonEmpty?, Option.filter_eq_some_iff, bne_iff_ne]

/-- The kind for a type that is not empty. -/
lemma kindIs_kindFor {typeName : Option String} (h : typeName ≠ some "") :
    KindIs typeName (kindFor typeName) := by
  cases typeName with
  | none => exact .untyped
  | some t =>
      have ht : t ≠ "" := fun heq => h (congrArg some heq)
      rw [kindFor, if_neg ht]
      cases hkind : scalarKind? t with
      | some kind => exact .scalar (scalarKind?_eq_some_iff.mp hkind)
      | none => exact .model (scalarKind?_eq_none_iff.mp hkind)

/-- What the item that is found says, if this is not empty, is what the last one says. -/
lemma lastSays_iff {α : Type} {key : α → String} {said : α → Option String} {l : List α}
    {found : Option α} (hfound : ∀ a, found = some a ↔ ∃ i, LastAt (key · = name) l i a)
    (text : String) : nonEmpty? (found.bind said) = some text ↔ LastSays key said l name text := by
  rw [nonEmpty?_eq_some_iff, Option.bind_eq_some_iff, LastSays]
  simp only [hfound]
  tauto

section Resolve

variable {declared : Option HandlerParameter} {documented : Option DocParam}

/-- The type of a parameter is that of the rows in which it is declared and documented. -/
lemma typeIs_typeOf (hdeclared : ∀ p, declared = some p ↔ ∃ i, LastAt (·.name = name) row i p)
    (hdocumented : ∀ tag, documented = some tag ↔ ∃ i, LastAt (·.key = name) tags i tag) :
    TypeIs row tags name (typeOf declared documented) := by
  rw [typeOf]
  cases htype : nonEmpty? (declared.bind (·.typeName)) with
  | some typeName => exact .declared ((lastSays_iff hdeclared typeName).mp htype)
  | none =>
      have hnone : ∀ other, ¬Declares row name other := by
        intro other hother
        rw [(lastSays_iff hdeclared other).mpr hother] at htype
        cases htype
      cases hdoc : nonEmpty? (documented.bind (·.typeName)) with
      | some typeName => exact .documented hnone ((lastSays_iff hdocumented typeName).mp hdoc)
      | none =>
          refine .untyped hnone fun other hother => ?_
          rw [(lastSays_iff hdocumented other).mpr hother] at hdoc
          cases hdoc

/-- No parameter has an empty type. -/
lemma typeOf_ne_empty : typeOf declared documented ≠ some "" := by
  intro h
  rw [typeOf, Option.or_eq_some_iff] at h
  rcases h with htype | ⟨-, hdoc⟩
  · exact (nonEmpty?_eq_some_iff.mp htype).2 rfl
  · exact (nonEmpty?_eq_some_iff.mp hdoc).2 rfl

/-- The description of a parameter is that of the row in which it is documented. -/
lemma descriptionIs_describe
    (hdocumented : ∀ tag, documented = some tag ↔ ∃ i, LastAt (·.key = name) tags i tag)
    (typeName : Option String) :
    DescriptionIs tags name typeName (describe name typeName documented) := by
  have hsaid : documented.map (·.description) = documented.bind fun tag => some tag.description :=
    Option.map_eq_bind
  rw [describe, hsaid]
  cases hdoc : nonEmpty? (documented.bind fun tag => some tag.description) with
  | some description => exact .documented ((lastSays_iff hdocumented description).mp hdoc)
  | none =>
      have hnone : ∀ other, ¬Describes tags name other := by
        intro other hother
        rw [(lastSays_iff hdocumented other).mpr hother] at hdoc
        cases hdoc
      cases typeName with
      | none => exact .plain hnone fun t ht => by cases ht
      | some t =>
          cases hkind : scalarKind? t with
          | some kind =>
              simp only [Option.any_some, hkind, Option.isNone_some, Bool.false_eq_true, if_false]
              refine .plain hnone fun t' ht' => ⟨kind, ?_⟩
              cases ht'
              exact scalarKind?_eq_some_iff.mp hkind
          | none =>
              simp only [Option.any_some, hkind, Option.isNone_none, if_true]
              exact .model hnone rfl (scalarKind?_eq_none_iff.mp hkind)

/-- **A parameter follows the rows** in which it is declared and documented. -/
lemma follows_resolve (hdeclared : ∀ p, declared = some p ↔ ∃ i, LastAt (·.name = name) row i p)
    (hdocumented : ∀ tag, documented = some tag ↔ ∃ i, LastAt (·.key = name) tags i tag) :
    Follows row tags (resolve name declared documented) where
  location := rfl
  required := rfl
  typed := ⟨typeOf declared documented, kindFor (typeOf declared documented),
    typeIs_typeOf hdeclared hdocumented, kindIs_kindFor typeOf_ne_empty, rfl,
    descriptionIs_describe hdocumented _⟩

end Resolve

end PathParameter

/-! ### The parameters of a route -/

/-- The documented parameters of the handler, in order. -/
def Route.docTags (r : Route) : List DocParam :=
  match r.handler.bind (·.doc) with
  | some d => d.params
  | none => []

/-- The documented parameters by name list those of the handler. -/
lemma Route.docParams_eq (r : Route) :
    r.docParams = Listing.ofPairs (r.docTags.map fun tag => (tag.key, tag)) := by
  rw [docParams, docTags]
  cases r.handler.bind (·.doc) <;> rfl

namespace PathParameters

open PathParameter

/-- The parameters of a route follow its rows, each under the name of its placeholder. -/
lemma forall₂_parameters (r : Route) (requestTypes : List String) :
    List.Forall₂
      (fun placeholder p =>
        (ofRoute r requestTypes).aliases.get? placeholder = some p.name ∧
          Follows (signature requestTypes r.handlerParameters) r.docTags p)
      r.placeholders (ofRoute r requestTypes).parameters := by
  refine List.forall₂_map_right_iff.mpr (List.forall₂_same.mpr fun placeholder h => ?_)
  refine ⟨get?_aliases h, follows_resolve (fun p => ?_) fun tag => ?_⟩
  · exact Listing.get?_ofPairs_key_iff
  · rw [r.docParams_eq]
    exact Listing.get?_ofPairs_key_iff

/-- **Each placeholder has the parameter that its sources come to.** The declared parameters that
are no request have one order of positions. If there are as many as placeholders, then a placeholder
has the name of the one in its last place, and else it keeps its own; no other names are known. The
parameters are the one row with a parameter for each placeholder, in order and under its name, that
is what the last declared and the last documented parameter of the name make it. -/
theorem ofRoute_priorities (r : Route) (requestTypes : List String) :
    ∃ row : List HandlerParameter,
      (∀ other, PositionOrder (r.handlerParameters.filter (!isRequest requestTypes ·)) other ↔
        other = row) ∧
      (ofRoute r requestTypes).aliases.names = r.placeholders.eraseDups ∧
      (row.length = r.placeholders.length → ∀ placeholder ∈ r.placeholders,
        ∃ i p, LastAt (· = placeholder) r.placeholders i placeholder ∧ row[i]? = some p ∧
          (ofRoute r requestTypes).aliases.get? placeholder = some p.name) ∧
      (row.length ≠ r.placeholders.length → ∀ placeholder ∈ r.placeholders,
        (ofRoute r requestTypes).aliases.get? placeholder = some placeholder) ∧
      ∀ parameters,
        List.Forall₂
          (fun placeholder p =>
            (ofRoute r requestTypes).aliases.get? placeholder = some p.name ∧
              Follows row r.docTags p)
          r.placeholders parameters ↔
        parameters = (ofRoute r requestTypes).parameters := by
  have hnames : ((signature requestTypes r.handlerParameters).map (·.name)).length =
      (signature requestTypes r.handlerParameters).length := List.length_map _
  refine ⟨signature requestTypes r.handlerParameters, fun other => positionOrder_iff,
    names_aliasMap _ _, fun hlength placeholder h => ?_, fun hlength placeholder h => ?_,
    fun parameters => ?_⟩
  · rw [← hnames] at hlength
    obtain ⟨i, name, hlast, hname, hget⟩ := get?_aliasMap_of_length_eq hlength.symm h
    rw [List.getElem?_map, Option.map_eq_some_iff] at hname
    obtain ⟨p, hp, rfl⟩ := hname
    exact ⟨i, p, hlast, hp, hget⟩
  · rw [← hnames] at hlength
    exact get?_aliasMap_of_length_ne hlength.symm h
  · constructor
    · intro h
      refine List.right_unique_forall₂' (fun placeholder p q hp hq => ?_) h (forall₂_parameters r _)
      exact hp.2.unique hq.2 (Option.some.inj (hp.1.symm.trans hq.1))
    · rintro rfl
      exact forall₂_parameters r requestTypes

/-- A route with a repeated placeholder, whose handler declares a model out of order, and documents
one parameter twice. -/
def doubledRoute : Route where
  methods := ["GET"]
  uri := "api/users/{user}/posts/{post?}/of/{user}"
  parameterNames := some ["user", "post", "user"]
  handler := some {
    method := some "show"
    parameters := [{ name := "ownerId", typeName := some "App.User", position := 2 },
      { name := "request", typeName := some "?Request", position := 1 },
      { name := "first", position := 1 },
      { name := "post", typeName := some "?int", position := 1 }]
    doc := some { params := [{ name := "post", description := "no more" },
      { name := "$post", typeName := some "string", description := "which post" }] } }

example : ((ofRoute doubledRoute ["Request"]).parameters.map fun p =>
      (p.name, p.description, p.schema.kind?)) =
    [("ownerId", "The owner id ID", some .integer), ("post", "which post", some .integer),
      ("ownerId", "The owner id ID", some .integer)] := by cbv

end PathParameters

end RouteAtlas
