/-
Types that are spelled in another way.

The name of a type may have marks in front of it that allow null, and its segments may have dots or
backslashes between them and in front of them. The names of types are read in two ways: as a row of
segments, if they are compared with the types of requests, and as a whole behind the marks, if they
are looked up among the scalars. As a scalar has no separators, both readings leave the same of every
spelling.

* `PathParameter.TypeChange`, `PathParameter.RequestTypeChange`: the changes of one name.
* `PathParameter.Alike`, `PathParameter.TypeChange.alike`: **types that say the same** in both
  readings; a change leads to such a type.
* `PathParameter.map_sketch_signature_congr`: rows with types that say the same have signatures of
  which the same is left.
* `PathParameter.isRequest_of_longer`: a type with more segments is not taken for the request.
* `PathParameters.ofRoute_respelled`: **spelling does not count**.
-/
import Mathlib.Logic.Relation
import RouteAtlas.Proofs.DeclaredOrder

namespace RouteAtlas

namespace PathParameter

open QualifiedName (isSeparator segments)

/-! ### Changes of a spelling -/

/-- More marks that allow null in front of a name. -/
def MarksAdded (name other : String) : Prop :=
  ∃ marks, other.toList = List.replicate marks '?' ++ name.toList

/-- The same character, or another separator. -/
def SameButSeparator (c d : Char) : Prop :=
  d = c ∨ isSeparator c = true ∧ isSeparator d = true

instance : DecidableRel SameButSeparator := fun c d =>
  inferInstanceAs (Decidable (d = c ∨ isSeparator c = true ∧ isSeparator d = true))

/-- Any separators of a name replaced by others. -/
def SeparatorsReplaced (name other : String) : Prop :=
  List.Forall₂ SameButSeparator name.toList other.toList

instance : DecidableRel SeparatorsReplaced := fun name other =>
  inferInstanceAs (Decidable (List.Forall₂ SameButSeparator name.toList other.toList))

/-- Separators in front of a name, right behind the marks that allow null. -/
def SeparatorsAdded (name other : String) : Prop :=
  ∃ marks separators rest, name.toList = List.replicate marks '?' ++ rest ∧
    rest.head? ≠ some '?' ∧ (∀ c ∈ separators, isSeparator c = true) ∧
    other.toList = List.replicate marks '?' ++ (separators ++ rest)

/-- **A change of the spelling of a type.** Only a type that is no scalar may get separators in front
of it. -/
inductive TypeChange : String → String → Prop
  | marks {typeName other : String} :
      typeName ≠ "" → MarksAdded typeName other → TypeChange typeName other
  | separators {typeName other : String} :
      SeparatorsReplaced typeName other → TypeChange typeName other
  | leading {typeName other : String} : typeName ≠ "" → (∀ kind, ¬IsScalar typeName kind) →
      SeparatorsAdded typeName other → TypeChange typeName other

/-- **A change of the spelling of a type of requests.** -/
inductive RequestTypeChange : String → String → Prop
  | separators {name other : String} : SeparatorsReplaced name other → RequestTypeChange name other
  | leading {name other : String} : SeparatorsAdded name other → RequestTypeChange name other

/-- A type after any changes of its spelling, if there is one. -/
def TypeRespelled : Option String → Option String → Prop :=
  Option.Rel (Relation.ReflTransGen TypeChange)

/-- A declared parameter with another spelling of its type. -/
def DeclaredRespelled (p q : HandlerParameter) : Prop :=
  ∃ typeName, TypeRespelled p.typeName typeName ∧ q = { p with typeName }

/-- A documented parameter with another spelling of its type. -/
def DocumentedRespelled (tag other : DocParam) : Prop :=
  ∃ typeName, TypeRespelled tag.typeName typeName ∧ other = { tag with typeName }

/-! ### Names behind their marks -/

section Marks

variable {name other : String} {kind : Kind}

/-- Marks in front of a name do not count. -/
lemma dropNullMarks_of_marksAdded (h : MarksAdded name other) :
    dropNullMarks other = dropNullMarks name := by
  obtain ⟨marks, hother⟩ := h
  rw [dropNullMarks, dropNullMarks, hother, List.dropWhile_append_of_pos (by simp)]

/-- Other separators are none of the marks. -/
lemma forall₂_dropWhile_marks {cs ds : List Char} (h : List.Forall₂ SameButSeparator cs ds) :
    List.Forall₂ SameButSeparator (cs.dropWhile (· == '?')) (ds.dropWhile (· == '?')) := by
  induction h with
  | nil => exact .nil
  | @cons c d rest rest' hcd hrest ih =>
      have hmark : (d == '?') = (c == '?') := by
        rcases hcd with rfl | ⟨hc, hd⟩
        · rfl
        · have hne : ∀ e, isSeparator e = true → (e == '?') = false := by
            intro e he
            refine beq_false_of_ne ?_
            rintro rfl
            exact absurd he (by decide)
          rw [hne c hc, hne d hd]
      rw [List.dropWhile_cons, List.dropWhile_cons, hmark]
      split
      · exact ih
      · exact .cons hcd hrest

/-- Behind the marks, separators that were added stand in front. -/
lemma exists_dropNullMarks_of_separatorsAdded (h : SeparatorsAdded name other) :
    ∃ separators, (∀ c ∈ separators, isSeparator c = true) ∧
      (dropNullMarks other).toList = separators ++ (dropNullMarks name).toList := by
  obtain ⟨marks, separators, rest, hname, hrest, hseparators, hother⟩ := h
  have hunmarked : ∀ {word : String} {cs : List Char}, cs.head? ≠ some '?' →
      word.toList = List.replicate marks '?' ++ cs → dropNullMarks word = String.ofList cs := by
    intro word cs hcs hword
    refine (dropNullMarks_eq_iff (by rwa [String.toList_ofList])).mpr ⟨marks, ?_⟩
    rw [hword, String.toList_ofList]
  refine ⟨separators, hseparators, ?_⟩
  have hfront : (separators ++ rest).head? ≠ some '?' := by
    cases separators with
    | nil => exact hrest
    | cons c separators =>
        rintro ⟨⟩
        exact absurd (hseparators '?' List.mem_cons_self) (by decide)
  rw [hunmarked hrest hname, hunmarked hfront hother, String.toList_ofList, String.toList_ofList]

/-- **Other separators leave the key of a type.** -/
lemma typeKey_of_separatorsReplaced (h : SeparatorsReplaced name other) :
    typeKey other = typeKey name := by
  refine QualifiedName.dotted_eq_iff.mpr (congrArg (List.map String.ofList) ?_)
  rw [dropNullMarks, dropNullMarks, String.toList_ofList, String.toList_ofList]
  exact Text.segments_of_forall₂ (forall₂_dropWhile_marks h)

/-- **More separators in front leave the key of a type.** -/
lemma typeKey_of_separatorsAdded (h : SeparatorsAdded name other) :
    typeKey other = typeKey name := by
  obtain ⟨separators, hseparators, hother⟩ := exists_dropNullMarks_of_separatorsAdded h
  refine QualifiedName.dotted_eq_iff.mpr (congrArg (List.map String.ofList) ?_)
  rw [hother, Text.segments_append_of_forall hseparators]

/-! ### Scalars -/

/-- **A scalar has no separators.** -/
lemma IsScalar.isSeparator_eq_false (h : IsScalar name kind) :
    ∀ c ∈ name.toList, isSeparator c = false := by
  obtain ⟨marks, word, hname, hword⟩ := h
  intro c hc
  rw [hname, List.mem_append, List.mem_replicate] at hc
  rcases hc with ⟨-, rfl⟩ | hc
  · rfl
  · have hplain : (word.toList.all fun d => !isSeparator d) = true := by cases hword <;> decide
    simpa using List.all_eq_true.mp hplain c hc

/-- A name without separators has none to be replaced. -/
lemma eq_of_separatorsReplaced (h : SeparatorsReplaced name other)
    (hplain : ∀ c ∈ name.toList, isSeparator c = false) : other = name := by
  have hsame : List.Forall₂ (fun c d => c = d) name.toList other.toList := by
    refine ((List.forall₂_and_left _ _).mpr ⟨hplain, h⟩).imp fun c d hcd => ?_
    rcases hcd.2 with heq | ⟨hc, -⟩
    · exact heq.symm
    · exact absurd hc (by simp [hcd.1])
  rw [List.forall₂_eq_eq_eq] at hsame
  exact (String.toList_inj.mp hsame).symm

/-- A name without separators has none that were added. -/
lemma eq_of_separatorsAdded (h : SeparatorsAdded name other)
    (hplain : ∀ c ∈ other.toList, isSeparator c = false) : other = name := by
  obtain ⟨marks, separators, rest, hname, -, hseparators, hother⟩ := h
  have hnone : separators = [] := by
    refine List.eq_nil_iff_forall_not_mem.mpr fun c hc => ?_
    have hmem : c ∈ other.toList := by simp [hother, hc]
    exact absurd (hseparators c hc) (by simp [hplain c hmem])
  rw [← String.toList_inj, hother, hname, hnone, List.nil_append]

/-- Types that are told apart by no scalar ask for the same kind. -/
lemma scalarKind?_eq_of_iff (h : ∀ kind, IsScalar other kind ↔ IsScalar name kind) :
    scalarKind? other = scalarKind? name := by
  refine Option.ext fun kind => ?_
  rw [scalarKind?_eq_some_iff, scalarKind?_eq_some_iff, h]

end Marks

/-! ### Types that say the same -/

/-- **Types that say the same**: both are empty or none is, both have one key among the types of
requests, and both ask for one kind. -/
structure Alike (typeName other : String) : Prop where
  eq_empty_iff : other = "" ↔ typeName = ""
  typeKey_eq : typeKey other = typeKey typeName
  scalarKind?_eq : scalarKind? other = scalarKind? typeName

/-- **A change of the spelling leaves what a type says.** -/
lemma TypeChange.alike {typeName other : String} (h : TypeChange typeName other) :
    Alike typeName other := by
  cases h with
  | marks hne hmarks =>
      have hdrop := dropNullMarks_of_marksAdded hmarks
      constructor
      case eq_empty_iff =>
        obtain ⟨marks, hother⟩ := hmarks
        refine iff_of_false (fun hempty => hne ?_) hne
        rw [← String.toList_eq_nil_iff, hother, List.append_eq_nil_iff] at hempty
        exact String.toList_eq_nil_iff.mp hempty.2
      case typeKey_eq => rw [typeKey, typeKey, hdrop]
      case scalarKind?_eq => rw [scalarKind?, scalarKind?, hdrop]
  | separators hreplaced =>
      have hback : SeparatorsReplaced other typeName :=
        List.Forall₂.flip (hreplaced.imp fun _ _ hcd => hcd.imp Eq.symm And.symm)
      constructor
      case eq_empty_iff =>
        rw [← String.toList_eq_nil_iff, ← String.toList_eq_nil_iff, ← List.length_eq_zero_iff,
          ← List.length_eq_zero_iff, hreplaced.length_eq]
      case typeKey_eq => exact typeKey_of_separatorsReplaced hreplaced
      case scalarKind?_eq =>
        -- a scalar on either side has no separators, so that nothing was replaced
        refine scalarKind?_eq_of_iff fun kind => ⟨fun hother => ?_, fun htype => ?_⟩
        · rwa [eq_of_separatorsReplaced hback hother.isSeparator_eq_false]
        · rwa [eq_of_separatorsReplaced hreplaced htype.isSeparator_eq_false]
  | leading hne hscalar hadded =>
      constructor
      case eq_empty_iff =>
        obtain ⟨marks, separators, rest, hname, -, -, hother⟩ := hadded
        refine iff_of_false (fun hempty => hne ?_) hne
        rw [← String.toList_eq_nil_iff, hother, List.append_eq_nil_iff,
          List.append_eq_nil_iff] at hempty
        rw [← String.toList_eq_nil_iff, hname, hempty.1, hempty.2.2, List.nil_append]
      case typeKey_eq => exact typeKey_of_separatorsAdded hadded
      case scalarKind?_eq =>
        refine scalarKind?_eq_of_iff fun kind => iff_of_false (fun hother => ?_) (hscalar kind)
        have hsame := eq_of_separatorsAdded hadded hother.isSeparator_eq_false
        exact hscalar kind (hsame ▸ hother)

/-- Any changes of the spelling leave what a type says. -/
lemma alike_of_changes {typeName other : String}
    (h : Relation.ReflTransGen TypeChange typeName other) : Alike typeName other := by
  induction h with
  | refl => exact ⟨Iff.rfl, rfl, rfl⟩
  | tail _ hchange ih =>
      have hlast := hchange.alike
      exact ⟨hlast.eq_empty_iff.trans ih.eq_empty_iff, hlast.typeKey_eq.trans ih.typeKey_eq,
        hlast.scalarKind?_eq.trans ih.scalarKind?_eq⟩

/-- Any changes of its spelling leave the key of a type of requests. -/
lemma typeKey_of_requestTypeChanges {name other : String}
    (h : Relation.ReflTransGen RequestTypeChange name other) : typeKey other = typeKey name := by
  induction h with
  | refl => rfl
  | tail _ hchange ih =>
      rw [← ih]
      cases hchange with
      | separators hreplaced => exact typeKey_of_separatorsReplaced hreplaced
      | leading hadded => exact typeKey_of_separatorsAdded hadded

/-! ### Rows of parameters -/

/-- A respelled type asks for the same. -/
lemma asked_of_respelled {typeName other : Option String} (h : TypeRespelled typeName other) :
    asked other = asked typeName := by
  cases h with
  | none => rfl
  | some hchanges =>
      have halike := alike_of_changes hchanges
      rw [asked, asked, nonEmpty?, nonEmpty?, Option.filter_some, Option.filter_some]
      simp only [bne_iff_ne, ne_eq, halike.eq_empty_iff]
      split
      · exact congrArg some halike.scalarKind?_eq
      · rfl

section Rows

variable {requestTypes requestTypes' : List String}

/-- A respelled parameter stands for the request if it did, among respelled types of requests. -/
lemma isRequest_of_respelled (hkeys : requestTypes'.map typeKey = requestTypes.map typeKey)
    {p q : HandlerParameter} (h : DeclaredRespelled p q) :
    isRequest requestTypes' q = isRequest requestTypes p := by
  obtain ⟨other, htype, rfl⟩ := h
  obtain ⟨name, typeName, position, marked⟩ := p
  rw [isRequest, isRequest, hkeys]
  cases htype with
  | none => rfl
  | @some typeName other hchanges =>
      have halike := alike_of_changes hchanges
      have hempty : (other != "") = (typeName != "") := by
        rw [Bool.eq_iff_iff, bne_iff_ne, bne_iff_ne, ne_eq, halike.eq_empty_iff]
      simp only [hempty, halike.typeKey_eq]

/-- What counts of a declared parameter: its position, whether it is left out, and what is left of
it. -/
def standing (requestTypes : List String) (p : HandlerParameter) :
    Int × Bool × String × Option (Option Kind) :=
  (p.position, isRequest requestTypes p, sketch p)

/-- What is left of a signature hangs on what counts of the declared parameters. -/
lemma map_sketch_signature (requestTypes : List String) (parameters : List HandlerParameter) :
    (signature requestTypes parameters).map sketch =
      (((parameters.map (standing requestTypes)).mergeSort fun a b => a.1 ≤ b.1).filter
        (!·.2.1)).map (·.2.2) := by
  have hsort : (parameters.mergeSort fun p q => p.position ≤ q.position).map
      (standing requestTypes) =
        (parameters.map (standing requestTypes)).mergeSort fun a b => a.1 ≤ b.1 :=
    List.map_mergeSort fun _ _ _ _ => rfl
  rw [← hsort, List.filter_map, List.map_map]
  rfl

/-- **Rows with respelled types have signatures of which the same is left.** -/
lemma map_sketch_signature_congr (hkeys : requestTypes'.map typeKey = requestTypes.map typeKey)
    {parameters parameters' : List HandlerParameter}
    (h : List.Forall₂ DeclaredRespelled parameters parameters') :
    (signature requestTypes' parameters').map sketch =
      (signature requestTypes parameters).map sketch := by
  have hstanding : parameters'.map (standing requestTypes') =
      parameters.map (standing requestTypes) := by
    induction h with
    | nil => rfl
    | cons hpq _ ih =>
        have hrequest := isRequest_of_respelled hkeys hpq
        obtain ⟨typeName, htype, rfl⟩ := hpq
        rw [List.map_cons, List.map_cons, ih, standing, standing, hrequest, sketch, sketch,
          asked_of_respelled htype]
  rw [map_sketch_signature, map_sketch_signature, hstanding]

/-- Respelled documented parameters of which the same is left. -/
lemma map_docSketch_congr {tags tags' : List DocParam}
    (h : List.Forall₂ DocumentedRespelled tags tags') :
    tags'.map docSketch = tags.map docSketch := by
  induction h with
  | nil => rfl
  | cons htag _ ih =>
      obtain ⟨typeName, htype, rfl⟩ := htag
      rw [List.map_cons, List.map_cons, ih, docSketch, docSketch, asked_of_respelled htype]
      rfl

/-- **A type with more segments than a type of requests is not taken for it.** -/
lemma isRequest_of_longer {before after : List String} {requestType typeName : String}
    {p : HandlerParameter} (htype : p.typeName = some typeName)
    (hlonger : (segments (dropNullMarks requestType)).length <
      (segments (dropNullMarks typeName)).length) :
    isRequest (before ++ requestType :: after) p = isRequest (before ++ after) p := by
  have hkey : typeKey requestType ≠ typeKey typeName := by
    intro hsame
    rw [QualifiedName.dotted_eq_iff.mp hsame] at hlonger
    exact Nat.lt_irrefl _ hlonger
  rw [isRequest, isRequest, htype]
  simp [hkey.symm]

end Rows

end PathParameter

/-! ### Routes with respelled types -/

namespace Route

/-- A route whose handler, if it is documented, documents other parameters. -/
def withDocTags (r : Route) (tags : List DocParam) : Route :=
  { r with
    handler := r.handler.map fun h => { h with doc := h.doc.map fun d => { d with params := tags } } }

variable {r : Route} {tags : List DocParam}

/-- With other documentation a handler declares the same parameters. -/
lemma handlerParameters_withDocTags (r : Route) (tags : List DocParam) :
    (r.withDocTags tags).handlerParameters = r.handlerParameters := by
  rw [handlerParameters, handlerParameters, withDocTags]
  cases r.handler <;> rfl

/-- With other documentation a handler documents what this does. -/
lemma docTags_withDocTags (h : r.docTags = [] → tags = []) : (r.withDocTags tags).docTags = tags := by
  obtain ⟨methods, uri, name, middleware, parameterNames, handler⟩ := r
  -- what carries no documentation can document nothing else
  cases handler with
  | none => exact (h rfl).symm
  | some handler =>
      obtain ⟨classInfo, method, parameters, doc, formRequest, validateCall⟩ := handler
      cases doc with
      | none => exact (h rfl).symm
      | some d => rfl

end Route

namespace PathParameters

open PathParameter

open QualifiedName (isSeparator segments)

/-- **The spelling of types does not count.** The parameters of a path and the names of its
placeholders stay the same if the types of declared and of documented parameters are respelled: by
marks that allow null, by other separators, and, unless they are scalars, by separators in front.
They stay the same if the types of requests get other separators or separators in front. No type is
taken for a type of requests that has fewer segments: this might as well be left out. -/
theorem ofRoute_respelled :
    (∀ (r : Route) (parameters : List HandlerParameter) (tags : List DocParam)
        (requestTypes requestTypes' : List String),
      List.Forall₂ DeclaredRespelled r.handlerParameters parameters →
      List.Forall₂ DocumentedRespelled r.docTags tags →
      List.Forall₂ (Relation.ReflTransGen RequestTypeChange) requestTypes requestTypes' →
      ofRoute ((r.withParameters parameters).withDocTags tags) requestTypes' =
        ofRoute r requestTypes) ∧
    ∀ (before after : List String) (requestType typeName : String) (p : HandlerParameter),
      p.typeName = some typeName →
      (segments (dropNullMarks requestType)).length < (segments (dropNullMarks typeName)).length →
      isRequest (before ++ requestType :: after) p = isRequest (before ++ after) p := by
  refine ⟨fun r parameters tags requestTypes requestTypes' hparameters htags htypes => ?_,
    fun before after requestType typeName p => isRequest_of_longer⟩
  have hkeys : requestTypes'.map typeKey = requestTypes.map typeKey := by
    induction htypes with
    | nil => rfl
    | cons htype _ ih => rw [List.map_cons, List.map_cons, ih, typeKey_of_requestTypeChanges htype]
  have hdeclared : ((r.withParameters parameters).withDocTags tags).handlerParameters =
      parameters := by
    rw [Route.handlerParameters_withDocTags, Route.handlerParameters_withParameters]
    intro hhandler
    have hnone : r.handlerParameters = [] := by rw [Route.handlerParameters, hhandler]
    rw [hnone] at hparameters
    exact List.forall₂_nil_left_iff.mp hparameters
  have hdocumented : ((r.withParameters parameters).withDocTags tags).docTags = tags := by
    refine Route.docTags_withDocTags fun hnone => ?_
    rw [Route.docTags_withParameters] at hnone
    rw [hnone] at htags
    exact List.forall₂_nil_left_iff.mp htags
  refine ofRoute_congr rfl ?_ ?_
  · rw [hdeclared, map_sketch_signature_congr hkeys hparameters]
  · rw [hdocumented, map_docSketch_congr htags]

/-- A handler with a model, the request and a parameter whose type is only documented. -/
def typedRoute : Route where
  methods := ["GET"]
  uri := "api/shops/{shop}/pages/{page}"
  handler := some {
    method := some "index"
    parameters := [{ name := "request", typeName := some "?App.Request" },
      { name := "shop", typeName := some "App.Shop", position := 1 },
      { name := "number", position := 2 }]
    doc := some { params := [{ name := "$number", typeName := some "int" }] } }

/-- **A respelled route**: the model gets backslashes, one of them in front, and a mark; the request
gets backslashes among its types as well; the documented number gets marks. And the request of an
application is not the bare one. -/
theorem typedRoute_respelled :
    ofRoute ((typedRoute.withParameters
        [{ name := "request", typeName := some "?\\App\\Request" },
          { name := "shop", typeName := some "?\\App\\Shop", position := 1 },
          { name := "number", position := 2 }]).withDocTags
        [{ name := "$number", typeName := some "??int" }]) ["..App\\Request"] =
        ofRoute typedRoute ["App.Request"] ∧
      isRequest ["Input", "Request"] { name := "request", typeName := some "App.Request" } =
        isRequest ["Input"] { name := "request", typeName := some "App.Request" } := by
  have hmodel : ∀ {name}, scalarKind? name = none → ∀ kind, ¬IsScalar name kind :=
    scalarKind?_eq_none_iff.mp
  have hbackslash : ∀ c ∈ ['\\'], isSeparator c = true := List.all_eq_true.mp rfl
  have hdots : ∀ c ∈ ['.', '.'], isSeparator c = true := List.all_eq_true.mp rfl
  have hrequest : Relation.ReflTransGen TypeChange "?App.Request" "?\\App\\Request" :=
    .head (b := "?App\\Request") (.separators (by decide +kernel)) <|
      .single (.leading (by decide) (hmodel (by decide +kernel))
        ⟨1, ['\\'], "App\\Request".toList, by decide, by decide, hbackslash, by decide⟩)
  have hshop : Relation.ReflTransGen TypeChange "App.Shop" "?\\App\\Shop" :=
    .head (b := "\\App.Shop") (.leading (by decide) (hmodel (by decide +kernel))
        ⟨0, ['\\'], "App.Shop".toList, by decide, by decide, hbackslash, by decide⟩) <|
      .head (b := "?\\App.Shop") (.marks (by decide) ⟨1, by decide +kernel⟩) <|
        .single (.separators (by decide +kernel))
  have hnumber : Relation.ReflTransGen TypeChange "int" "??int" :=
    .single (.marks (by decide) ⟨2, by decide +kernel⟩)
  have htype : Relation.ReflTransGen RequestTypeChange "App.Request" "..App\\Request" :=
    .head (b := "App\\Request") (.separators (by decide +kernel)) <|
      .single (.leading
        ⟨0, ['.', '.'], "App\\Request".toList, by decide, by decide, hdots, by decide⟩)
  refine ⟨ofRoute_respelled.1 typedRoute _ _ ["App.Request"] _ ?_ ?_ ?_,
    ofRoute_respelled.2 ["Input"] [] "Request" "App.Request" _ rfl (by decide +kernel)⟩
  · exact .cons ⟨_, .some hrequest, rfl⟩ <| .cons ⟨_, .some hshop, rfl⟩ <|
      .cons ⟨_, .none, rfl⟩ .nil
  · exact .cons ⟨_, .some hnumber, rfl⟩ .nil
  · exact .cons htype .nil

end PathParameters

end RouteAtlas
