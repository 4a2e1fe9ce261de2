/-
The order of the declared parameters of a handler.

Of the row in which a handler declares its parameters little counts for the parameters of a path:
those that stand for the request are left out, and the others are put in the order of their
positions. What is left of each is its name and the kind that its type asks for.

* `PathParameter.StandsForRequest`: the declared parameters that are left out.
* `PathParameter.sketch`, `PathParameters.ofRoute_congr`: what is left of a declared parameter, and
  **routes of which as much is left have the same parameters**.
* `PathParameter.signature_of_perm`, `PathParameter.signature_of_sameButRequests`,
  `PathParameter.signature_of_sorted`: rows that have one signature.
* `Route.withParameters`: a route whose handler declares other parameters.
* `PathParameters.ofRoute_ordered`: **only the order of the others counts**.
-/
import RouteAtlas.Proofs.PathResolution
import RouteAtlas.Proofs.QualifiedName

namespace RouteAtlas

namespace PathParameter

open QualifiedName (segments)

/-! ### Parameters that stand for the request -/

/-- **Whether a declared parameter stands for the request**: it is marked so, or it has a type with
the segments of a type of requests. Marks that allow null do not count. -/
def StandsForRequest (requestTypes : List String) (p : HandlerParameter) : Prop :=
  p.isRequest = true ∨ ∃ typeName, p.typeName = some typeName ∧ typeName ≠ "" ∧
    ∃ requestType ∈ requestTypes,
      segments (dropNullMarks typeName) = segments (dropNullMarks requestType)

/-- Parameters that stand for the request are recognised. -/
lemma isRequest_iff {requestTypes : List String} {p : HandlerParameter} :
    isRequest requestTypes p = true ↔ StandsForRequest requestTypes p := by
  rw [isRequest, StandsForRequest, Bool.or_eq_true]
  refine or_congr Iff.rfl ?_
  cases p.typeName with
  | none => simp
  | some typeName =>
      have hkey : ∀ requestType, typeKey requestType = typeKey typeName ↔
          segments (dropNullMarks typeName) = segments (dropNullMarks requestType) := fun _ =>
        QualifiedName.dotted_eq_iff.trans eq_comm
      simp only [Bool.and_eq_true, bne_iff_ne, List.contains_iff_mem, List.mem_map, hkey,
        Option.some.injEq, exists_eq_left']

instance (requestTypes : List String) : DecidablePred (StandsForRequest requestTypes) := fun _ =>
  decidable_of_iff _ isRequest_iff

/-- The parameters that do not stand for the request are those that the signature keeps. -/
lemma filter_not_standsForRequest (requestTypes : List String)
    (parameters : List HandlerParameter) :
    (parameters.filter fun p => ¬StandsForRequest requestTypes p) =
      parameters.filter (!isRequest requestTypes ·) := by
  refine List.filter_congr fun p _ => ?_
  rw [Bool.eq_iff_iff, decide_eq_true_eq, Bool.not_eq_true', ← Bool.not_eq_true, isRequest_iff]

/-- **Rows that differ in parameters for the request only**, which may stand in any places. -/
inductive SameButRequests (requestTypes : List String) :
    List HandlerParameter → List HandlerParameter → Prop
  | nil : SameButRequests requestTypes [] []
  | keep (p : HandlerParameter) {row row' : List HandlerParameter} :
      SameButRequests requestTypes row row' → SameButRequests requestTypes (p :: row) (p :: row')
  | remove {p : HandlerParameter} {row row' : List HandlerParameter} :
      StandsForRequest requestTypes p → SameButRequests requestTypes row row' →
        SameButRequests requestTypes (p :: row) row'
  | insert {p : HandlerParameter} {row row' : List HandlerParameter} :
      StandsForRequest requestTypes p → SameButRequests requestTypes row row' →
        SameButRequests requestTypes row (p :: row')

/-! ### Rows with one signature -/

section Signature

variable {requestTypes : List String} {row row' : List HandlerParameter}

/-- Rows that keep the same parameters have one signature. -/
lemma signature_of_filter
    (h : row'.filter (!isRequest requestTypes ·) = row.filter (!isRequest requestTypes ·)) :
    signature requestTypes row' = signature requestTypes row := by
  have horder := positionOrder_signature requestTypes row'
  rw [h] at horder
  exact positionOrder_iff.mp horder

/-- **Parameters that stand for the request are nowhere in the signature.** -/
lemma signature_of_sameButRequests (h : SameButRequests requestTypes row row') :
    signature requestTypes row' = signature requestTypes row := by
  refine signature_of_filter ?_
  induction h with
  | nil => rfl
  | keep p _ ih => rw [List.filter_cons, List.filter_cons, ih]
  | remove hp _ ih => rw [ih, List.filter_cons_of_neg (by simpa using isRequest_iff.mpr hp)]
  | insert hp _ ih => rw [← ih, List.filter_cons_of_neg (by simpa using isRequest_iff.mpr hp)]

/-- The signature has the parameters that it keeps. -/
lemma perm_signature (requestTypes : List String) (row : List HandlerParameter) :
    (signature requestTypes row).Perm (row.filter (!isRequest requestTypes ·)) :=
  (List.mergeSort_perm row _).filter _

/-- Distinct positions increase along the signature. -/
lemma pairwise_signature
    (hdistinct : (row.filter (!isRequest requestTypes ·)).Pairwise fun p q =>
      p.position ≠ q.position) :
    (signature requestTypes row).Pairwise fun p q => p.position < q.position := by
  have hsorted := (positionOrder_signature requestTypes row).sorted
  have hne := (perm_signature requestTypes row).symm.pairwise hdistinct Ne.symm
  exact (hsorted.and hne).imp Int.lt_iff_le_and_ne.mpr

/-- **The signature does not hang on the order in which parameters with distinct positions are
declared.** -/
lemma signature_of_perm (hperm : row.Perm row')
    (hdistinct : (row.filter (!isRequest requestTypes ·)).Pairwise fun p q =>
      p.position ≠ q.position) :
    signature requestTypes row' = signature requestTypes row := by
  have hkept : (row'.filter (!isRequest requestTypes ·)).Perm
      (row.filter (!isRequest requestTypes ·)) := (hperm.filter _).symm
  have hdistinct' := hkept.symm.pairwise hdistinct Ne.symm
  have hasymm : ∀ p q : HandlerParameter, p ∈ signature requestTypes row' →
      q ∈ signature requestTypes row → p.position < q.position → q.position < p.position → p = q :=
    fun p q _ _ hpq hqp => absurd hpq (Int.lt_asymm hqp)
  exact List.Perm.eq_of_pairwise hasymm (pairwise_signature hdistinct')
    (pairwise_signature hdistinct)
    ((perm_signature requestTypes row').trans (hkept.trans (perm_signature requestTypes row).symm))

/-- **Parameters that are declared in the order of their positions keep it.** -/
lemma signature_of_sorted (h : row.Pairwise fun p q => p.position ≤ q.position) :
    signature requestTypes row = row.filter (!isRequest requestTypes ·) := by
  rw [signature, List.mergeSort_of_pairwise (h.imp decide_eq_true)]

end Signature

/-! ### What is left of a declared parameter -/

/-- What a type asks for: nothing if it is empty or missing, else the kind of a scalar, or none as
the type of a model. -/
def asked (typeName : Option String) : Option (Option Kind) :=
  (nonEmpty? typeName).map scalarKind?

/-- What is left of a declared parameter: its name, and what its type asks for. -/
def sketch (p : HandlerParameter) : String × Option (Option Kind) :=
  (p.name, asked p.typeName)

/-- What is left of a documented parameter: its key, what its type asks for, and what it is said to
be. -/
def docSketch (tag : DocParam) : String × Option (Option Kind) × String :=
  (tag.key, asked tag.typeName, tag.description)

section Sketches

variable {declared declared' : Option HandlerParameter} {documented documented' : Option DocParam}

/-- The type of a parameter asks for what the declared one asks for, or else the documented one. -/
lemma map_scalarKind?_typeOf (declared : Option HandlerParameter) (documented : Option DocParam) :
    (typeOf declared documented).map scalarKind? =
      ((declared.map sketch).bind (·.2)).or ((documented.map docSketch).bind (·.2.1)) := by
  rw [typeOf, Option.map_or]
  cases declared <;> cases documented <;> rfl

/-- The kind for a type that is not empty hangs on what the type asks for. -/
lemma kindFor_eq {typeName : Option String} (h : typeName ≠ some "") :
    kindFor typeName = ((typeName.map scalarKind?).map (·.getD .integer)).getD .string := by
  cases typeName with
  | none => rfl
  | some t => exact if_neg fun ht => h (congrArg some ht)

/-- The description of a parameter hangs on what its type asks for and what it is said to be. -/
lemma describe_eq (name : String) (typeName : Option String) (documented : Option DocParam) :
    describe name typeName documented =
      match nonEmpty? ((documented.map docSketch).map (·.2.2)) with
      | some description => description
      | none =>
        if (typeName.map scalarKind?).any (·.isNone) then "The " ++ humanize name ++ " ID" else "" := by
  rw [describe, Option.map_map, Option.any_map]
  rfl

/-- **A parameter is what is left of its sources.** -/
lemma resolve_congr (name : String) (hdeclared : declared'.map sketch = declared.map sketch)
    (hdocumented : documented'.map docSketch = documented.map docSketch) :
    resolve name declared' documented' = resolve name declared documented := by
  have htype : (typeOf declared' documented').map scalarKind? =
      (typeOf declared documented).map scalarKind? := by
    rw [map_scalarKind?_typeOf, map_scalarKind?_typeOf, hdeclared, hdocumented]
  have hkind : kindFor (typeOf declared' documented') = kindFor (typeOf declared documented) := by
    rw [kindFor_eq typeOf_ne_empty, kindFor_eq typeOf_ne_empty, htype]
  have hdescription : describe name (typeOf declared' documented') documented' =
      describe name (typeOf declared documented) documented := by
    rw [describe_eq, describe_eq, htype, hdocumented]
  simp only [resolve, hkind, hdescription]

/-- What is left of the last item of a name is the last one of its name that is left. -/
lemma map_get?_ofPairs {α β : Type} (key : α → String) (left : α → String × β)
    (hkey : ∀ a, (left a).1 = key a) (l : List α) (name : String) :
    ((Listing.ofPairs (l.map fun a => (key a, a))).get? name).map left =
      ((l.map left).filter (·.1 = name)).getLast? := by
  rw [(Listing.collects_ofPairs _).get?, Listing.valuesOf_map, ← List.getLast?_map,
    List.filter_map]
  simp only [Function.comp_def, hkey]

end Sketches

end PathParameter

namespace PathParameters

open PathParameter

/-- **Routes of which as much is left have the same parameters**: the same placeholders, and rows of
declared and of documented parameters of which the same is left. -/
lemma ofRoute_congr {r r' : Route} {requestTypes requestTypes' : List String}
    (hplaceholders : r'.placeholders = r.placeholders)
    (hdeclared : (signature requestTypes' r'.handlerParameters).map sketch =
      (signature requestTypes r.handlerParameters).map sketch)
    (hdocumented : r'.docTags.map docSketch = r.docTags.map docSketch) :
    ofRoute r' requestTypes' = ofRoute r requestTypes := by
  have hnames : (signature requestTypes' r'.handlerParameters).map (·.name) =
      (signature requestTypes r.handlerParameters).map (·.name) := by
    have hfirst := congrArg (List.map Prod.fst) hdeclared
    rwa [List.map_map, List.map_map] at hfirst
  simp only [ofRoute, hplaceholders, hnames, mk.injEq, and_true]
  refine List.map_congr_left fun placeholder _ => resolve_congr _ ?_ ?_
  · have hleft := map_get?_ofPairs (·.name) sketch fun _ => rfl
    rw [hleft, hleft, hdeclared]
  · have hleft := map_get?_ofPairs DocParam.key docSketch fun _ => rfl
    rw [r'.docParams_eq, r.docParams_eq, hleft, hleft, hdocumented]

end PathParameters

/-! ### Other rows of declared parameters -/

/-- A route whose handler, if it has one, declares other parameters. -/
def Route.withParameters (r : Route) (parameters : List HandlerParameter) : Route :=
  { r with handler := r.handler.map fun h => { h with parameters } }

/-- With other parameters a handler declares these. -/
lemma Route.handlerParameters_withParameters {r : Route} {parameters : List HandlerParameter}
    (h : r.handler = none → parameters = []) :
    (r.withParameters parameters).handlerParameters = parameters := by
  rw [handlerParameters, withParameters]
  cases hhandler : r.handler with
  | none => exact (h hhandler).symm
  | some handler => rfl

/-- The documentation of a handler stays with other parameters. -/
lemma Route.docTags_withParameters (r : Route) (parameters : List HandlerParameter) :
    (r.withParameters parameters).docTags = r.docTags := by
  rw [docTags, docTags, withParameters]
  cases r.handler <;> rfl

namespace PathParameter

/-- The parameters of a row, each at the position of its place in the row. -/
def numbered (row : List HandlerParameter) : List HandlerParameter :=
  row.mapIdx fun i p => { p with position := i }

/-- Positions increase along a numbered row. -/
lemma pairwise_numbered (row : List HandlerParameter) :
    (numbered row).Pairwise fun p q => p.position ≤ q.position := by
  rw [List.pairwise_iff_getElem]
  intro i j hi hj hij
  simp only [numbered, List.getElem_mapIdx]
  exact Int.ofNat_le.mpr (Nat.le_of_lt hij)

/-- What does not hang on positions is the same in a numbered row. -/
lemma map_numbered {α : Type} (f : HandlerParameter → α)
    (hf : ∀ (p : HandlerParameter) (position : Int), f { p with position } = f p)
    (row : List HandlerParameter) : (numbered row).map f = row.map f := by
  refine List.ext_getElem? fun i => ?_
  simp only [numbered, List.getElem?_map, List.getElem?_mapIdx, Option.map_map, Function.comp_def, hf]

/-- Numbering a row leaves what is left of the parameters that are kept. -/
lemma map_sketch_numbered (requestTypes : List String) (row : List HandlerParameter) :
    ((numbered row).filter (!isRequest requestTypes ·)).map sketch =
      (row.filter (!isRequest requestTypes ·)).map sketch := by
  have hkept : ∀ l : List HandlerParameter, (l.filter (!isRequest requestTypes ·)).map sketch =
      ((l.map fun p => (isRequest requestTypes p, sketch p)).filter (!·.1)).map (·.2) := by
    intro l
    rw [List.filter_map, List.map_map]
    rfl
  have hpairs := map_numbered (fun p => (isRequest requestTypes p, sketch p)) (fun _ _ => rfl) row
  rw [hkept, hkept, hpairs]

end PathParameter

namespace PathParameters

open PathParameter

/-- Other declared parameters of which the same is left make no difference. -/
lemma ofRoute_withParameters {r : Route} {requestTypes : List String}
    {parameters : List HandlerParameter}
    (h : (signature requestTypes parameters).map sketch =
      (signature requestTypes r.handlerParameters).map sketch) :
    ofRoute (r.withParameters parameters) requestTypes = ofRoute r requestTypes := by
  cases hhandler : r.handler with
  | none => rw [Route.withParameters, hhandler, Option.map_none, ← hhandler]
  | some handler =>
      refine ofRoute_congr rfl ?_ (congrArg _ (r.docTags_withParameters parameters))
      rw [Route.handlerParameters_withParameters (by simp [hhandler]), h]

/-- **Only the order of the parameters that are no request counts.** The parameters of a path and
the names of its placeholders stay the same if the handler declares its parameters in any other
order, as long as the positions of those that do not stand for the request are distinct; and if
parameters that stand for the request are put in or left out, in any places and at any positions. If
all positions are equal, then the order of the row counts: the signature has it, and each parameter
might as well have its place as its position. -/
theorem ofRoute_ordered (r : Route) (requestTypes : List String) :
    (∀ parameters, r.handlerParameters.Perm parameters →
      ((r.handlerParameters.filter fun p => ¬StandsForRequest requestTypes p).Pairwise fun p q =>
        p.position ≠ q.position) →
      ofRoute (r.withParameters parameters) requestTypes = ofRoute r requestTypes) ∧
    (∀ parameters, SameButRequests requestTypes r.handlerParameters parameters →
      ofRoute (r.withParameters parameters) requestTypes = ofRoute r requestTypes) ∧
    ((∀ p ∈ r.handlerParameters, ∀ q ∈ r.handlerParameters, p.position = q.position) →
      signature requestTypes r.handlerParameters =
          (r.handlerParameters.filter fun p => ¬StandsForRequest requestTypes p) ∧
        ofRoute (r.withParameters (numbered r.handlerParameters)) requestTypes =
          ofRoute r requestTypes) := by
  rw [filter_not_standsForRequest]
  refine ⟨fun parameters hperm hdistinct => ?_, fun parameters hsame => ?_, fun hequal => ?_⟩
  · exact ofRoute_withParameters (congrArg _ (signature_of_perm hperm hdistinct))
  · exact ofRoute_withParameters (congrArg _ (signature_of_sameButRequests hsame))
  · have hsorted : r.handlerParameters.Pairwise fun p q => p.position ≤ q.position :=
      List.pairwise_of_forall_mem_list fun p hp q hq => Int.le_of_eq (hequal p hp q hq)
    refine ⟨signature_of_sorted hsorted, ofRoute_withParameters ?_⟩
    rw [signature_of_sorted (pairwise_numbered _), signature_of_sorted hsorted,
      map_sketch_numbered]

/-- A route whose handler declares two parameters out of order, with a marked one for the request
at the position of one of them and a typed one at a negative position. -/
def shuffledRoute : Route where
  methods := ["PUT"]
  uri := "api/users/{user}/posts/{post}"
  handler := some {
    method := some "update"
    parameters := [{ name := "ownerId", typeName := some "App.User", position := 2 },
      { name := "input", position := 2, isRequest := true },
      { name := "request", typeName := some "?\\App\\Request", position := -1 },
      { name := "post", typeName := some "int", position := 1 }]
    doc := some { params := [{ name := "$ownerId", description := "the owner" }] } }

/-- Two parameters without a position, with one for the request between them. -/
def unplacedRow : List HandlerParameter :=
  [{ name := "user" }, { name := "input", isRequest := true }, { name := "post" }]

/-- **A shuffled row**: backwards, with one parameter for the request less and another one more, it
leads to the same parameters; so does a row without positions if it is numbered. -/
theorem shuffledRoute_ordered :
    ofRoute (shuffledRoute.withParameters shuffledRoute.handlerParameters.reverse)
        ["App.Request"] = ofRoute shuffledRoute ["App.Request"] ∧
      ofRoute (shuffledRoute.withParameters
        [{ name := "first", typeName := some ".App.Request", position := 1 },
          { name := "ownerId", typeName := some "App.User", position := 2 },
          { name := "request", typeName := some "?\\App\\Request", position := -1 },
          { name := "post", typeName := some "int", position := 1 }])
        ["App.Request"] = ofRoute shuffledRoute ["App.Request"] ∧
      signature ["App.Request"] unplacedRow = [{ name := "user" }, { name := "post" }] ∧
      ofRoute ((shuffledRoute.withParameters unplacedRow).withParameters (numbered unplacedRow))
        ["App.Request"] = ofRoute (shuffledRoute.withParameters unplacedRow) ["App.Request"] := by
  obtain ⟨hperm, hinsert, -⟩ := ofRoute_ordered shuffledRoute ["App.Request"]
  obtain ⟨-, -, hequal⟩ := ofRoute_ordered (shuffledRoute.withParameters unplacedRow) ["App.Request"]
  obtain ⟨hsignature, hnumbered⟩ := hequal (by decide)
  refine ⟨hperm _ (List.reverse_perm _).symm (by decide +kernel), hinsert _ ?_, ?_, hnumbered⟩
  · refine .insert (by decide +kernel) (.keep _ (.remove (by decide +kernel) ?_))
    exact .keep _ (.keep _ .nil)
  · exact hsignature.trans (by decide +kernel)

end PathParameters

end RouteAtlas
