/-
What the rules of a field say about it.

* `Rule.kindOf`: the kind that the tokens ask for. The word for truth values goes before the word
  for numbers and this before the words for whole numbers; a foreign key is a whole number in any
  case.
* `Rule.choices`: the values that a token lists.
* `Rule.bound`: the number that a token gives as a limit.
* `Rule.interpret`: a field as a parameter. Of several tokens of one rule the first counts.
* `Rule.interpretEntry`: an entry of a mapping as a parameter. Its key has to be a text, or bytes
  that are one; how the key is written in messages is another matter.
* `Rule.interpretFields`: the fields of a mapping, in order, up to the first failure.
-/
import RouteAtlas.Document.Parameter
import RouteAtlas.Rule.Token
import RouteAtlas.Text.Blank

namespace RouteAtlas.Rule

/-! ### Kinds -/

/-- Whether a token says that a field is the key of another table. -/
def isForeignKey (word : String) : Bool :=
  (Text.cutPrefix? "exists:".toList word.toList).any (Text.contains ",id".toList)

/-- The kind that tokens ask for. -/
def kindOf (words : List String) : Kind :=
  if words.any isForeignKey then .integer
  else if words.contains "bool" || words.contains "boolean" then .boolean
  else if words.contains "numeric" then .number
  else if words.contains "integer" || words.contains "int" then .integer
  else .string

/-! ### Choices -/

/-- A value of a list, without the blanks and then without the quotes around it; of two quotes
inside one is left. -/
def choice (cs : List Char) : List Char :=
  Text.replaceAll ['\x22', '\x22'] ['\x22'] (Text.trim (· == '\x22') (Text.trim Text.isBlank cs))

/-- The values that a token lists behind its first three characters, with commas between them. -/
def choices (word : String) : List String :=
  match word.toList.drop 3 with
  | [] => []
  | body => (Text.splitOn ',' body).map fun piece => String.ofList (choice piece)

/-! ### Limits -/

/-- The limit that the argument of a rule names. -/
def bound (field rule argument : String) : Except Failure Binary64 :=
  match Binary64.ofChars? argument.toList with
  | some x => if x.isFinite then .ok x else .error (.badBound field rule argument)
  | none => .error (.badBound field rule argument)

/-- The limit that tokens give under a rule; one without an argument is none. -/
def limit (field rule : String) (words : List String) : Except Failure (Option Limit) :=
  match firstArgument? rule words with
  | some argument =>
    if argument = "" then .ok none else (bound field rule argument).map fun x => some (.real x)
  | none => .ok none

/-! ### Fields -/

/-- The values to choose from that tokens list. -/
def choicesOf (words : List String) : List String :=
  match words.find? fun word => (argument? "in:" word).isSome with
  | some word => choices word
  | none => []

/-- What tokens say about any kind of field. -/
def modifiers (words : List String) : Modifiers :=
  ⟨words.contains "nullable", (choicesOf words).map .text⟩

/-- The schema of a field. Limits count for numbers only. -/
def schema (field : String) (words : List String) : Except Failure Schema :=
  match (Schema.make (kindOf words)).modify fun _ => modifiers words with
  | .numeric m isWhole _ _ => do
    let minimum ← limit field "min:" words
    let maximum ← limit field "max:" words
    .ok (.numeric m isWhole minimum maximum)
  | other => .ok other

/-- A field as a parameter of a query. -/
def interpret (field : String) (spec : Value) : Except Failure Parameter := do
  let schema ← schema field (words spec)
  .ok ⟨field, .query, "", (words spec).contains "required", schema⟩

/-- How the key of a field is written in messages. -/
def keyText (key : Value) : Except Failure String :=
  match token key with
  | .text s => .ok s
  | value =>
    match value.shown? with
    | some shown => .ok shown
    | none => .error .tooLongToWrite

/-- The schema of a field under its key. The key is written only if a limit is refused. -/
def schemaUnder (key : Value) (words : List String) : Except Failure Schema :=
  match keyText key with
  | .ok field => schema field words
  | .error failure => (schema "" words).mapError fun _ => failure

/-- The name of a field: a key that is a text, or bytes that are one. -/
def nameOf (key : Value) : Except Failure String :=
  ((Value.readText key).under (.field "name")).orFail "Parameter" key

/-- An entry of a mapping as a parameter of a query. A key that is no name is refused, but only
after the tokens have been read. -/
def interpretEntry (entry : Value × Value) : Except Failure Parameter := do
  let words := words entry.2
  let schema ← schemaUnder entry.1 words
  let name ← nameOf entry.1
  .ok ⟨name, .query, "", words.contains "required", schema⟩

/-- The fields of a mapping as parameters of a query. -/
def interpretFields : List (Value × Value) → Except Failure (List Parameter)
  | [] => .ok []
  | entry :: rest => do
    let parameter ← interpretEntry entry
    let parameters ← interpretFields rest
    .ok (parameter :: parameters)

end RouteAtlas.Rule
