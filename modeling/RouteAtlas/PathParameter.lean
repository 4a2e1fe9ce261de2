/-
Parameters of a path.

The placeholders of a path and the declared parameters of its handler stand for the same values, in
the same order, as far as the parameters are not the request itself.

* `signature`: the declared parameters that placeholders can stand for.
* `aliasMap`: the name of the declared parameter for every placeholder; if the numbers differ, every
  placeholder keeps its name.
* `kindFor`: the kind that a declared type asks for. Types that are no scalars are taken for models,
  which have whole numbers as keys.
* `humanize`: a name in words.
* `PathParameters.ofRoute`: the parameters of a route, in the order of the placeholders.
-/
import RouteAtlas.Document.Parameter
import RouteAtlas.QualifiedName
import RouteAtlas.Route
import RouteAtlas.Text.Blank

namespace RouteAtlas

namespace PathParameter

/-! ### Declared parameters -/

/-- A type name without the marks in front of it that allow null. -/
def dropNullMarks (typeName : String) : String :=
  String.ofList (typeName.toList.dropWhile (· == '?'))

/-- A type name in the form in which types are compared. -/
def typeKey (typeName : String) : String :=
  QualifiedName.dotted (dropNullMarks typeName)

/-- Whether a declared parameter is the request itself: it is marked so, or its type is one of the
types of requests. -/
def isRequest (requestTypes : List String) (p : HandlerParameter) : Bool :=
  p.isRequest ||
    match p.typeName with
    | some typeName => typeName != "" && (requestTypes.map typeKey).contains (typeKey typeName)
    | none => false

/-- The declared parameters that placeholders can stand for, in the order of their positions. -/
def signature (requestTypes : List String) (parameters : List HandlerParameter) :
    List HandlerParameter :=
  (parameters.mergeSort fun p q => p.position ≤ q.position).filter (!isRequest requestTypes ·)

/-- The declared name for every placeholder. Without as many names as placeholders every
placeholder keeps its own. -/
def aliasMap (placeholders names : List String) : Listing String :=
  Listing.ofPairs
    (placeholders.zip (if placeholders.length = names.length then names else placeholders))

/-! ### Names in words -/

/-- A text with a hyphen in front of every capital that something precedes. -/
def hyphenate : List Char → List Char
  | [] => []
  | [c] => [c]
  | c :: d :: rest => if d.isUpper then c :: '-' :: hyphenate (d :: rest) else c :: hyphenate (d :: rest)

/-- A name in words: capitals, hyphens and underscores separate words, and blanks do not count. -/
def humanize (name : String) : String :=
  String.ofList ((Text.lower (hyphenate (name.toList.filter (!Text.isBlank ·)))).map fun c =>
    if c = '-' || c = '_' then ' ' else c)

/-! ### Kinds of types -/

/-- The kind of a scalar type. -/
def scalarKind? (typeName : String) : Option Kind :=
  match dropNullMarks typeName with
  | "int" => some .integer
  | "float" => some .number
  | "string" => some .string
  | "bool" => some .boolean
  | _ => none

/-- The kind that a declared type asks for: without a type a text, and for anything but a scalar
the key of a model. -/
def kindFor : Option String → Kind
  | none => .string
  | some typeName => if typeName = "" then .string else (scalarKind? typeName).getD .integer

/-! ### Parameters -/

/-- A text that says something. -/
def nonEmpty? (s : Option String) : Option String :=
  s.filter (· != "")

/-- The type of a parameter: the declared one, else the documented one. -/
def typeOf (declared : Option HandlerParameter) (documented : Option DocParam) : Option String :=
  (nonEmpty? (declared.bind (·.typeName))).or (nonEmpty? (documented.bind (·.typeName)))

/-- The description of a parameter: the documented one; else models are described by their keys. -/
def describe (name : String) (typeName : Option String) (documented : Option DocParam) : String :=
  match nonEmpty? (documented.map (·.description)) with
  | some description => description
  | none =>
    if typeName.any fun t => (scalarKind? t).isNone then s!"The {humanize name} ID" else ""

/-- The parameter of a name, by what is declared and what is documented. -/
def resolve (name : String) (declared : Option HandlerParameter) (documented : Option DocParam) :
    Parameter :=
  let typeName := typeOf declared documented
  ⟨name, .path, describe name typeName documented, true, .make (kindFor typeName)⟩

end PathParameter

/-- The parameters of a path, and the declared names of its placeholders. -/
structure PathParameters where
  parameters : List Parameter
  aliases : Listing String

namespace PathParameters

open PathParameter

/-- The parameters of the path of a route, in the order of the placeholders. -/
def ofRoute (r : Route) (requestTypes : List String) : PathParameters :=
  let declared := signature requestTypes r.handlerParameters
  let placeholders := r.placeholders
  let aliases := aliasMap placeholders (declared.map (·.name))
  let byName := Listing.ofPairs (declared.map fun p => (p.name, p))
  ⟨placeholders.map fun placeholder =>
      let name := Template.aliasOf aliases placeholder
      resolve name (byName.get? name) (r.docParams.get? name),
    aliases⟩

end PathParameters

end RouteAtlas
