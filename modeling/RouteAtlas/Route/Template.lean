/-
Path templates: literal text with placeholders for values.

A placeholder is a word between braces, perhaps with a question mark behind it: `{id}` or
`{id?}`.

* `Template.pieces`: a text cut into characters and placeholders, from the left.
* `Template.names`: the names of the placeholders, in order.
* `Template.rename`: the text with every placeholder renamed, and without question marks.
* `Template.normalize`: the path of a route, without the part that all paths share and with a slash
  in front.
-/
import RouteAtlas.Listing
import RouteAtlas.Text.Word
import RouteAtlas.Text.Pieces

namespace RouteAtlas.Template

/-- A piece of a template. -/
inductive Piece
  | literal (c : Char)
  | placeholder (name : List Char)
  deriving DecidableEq, Repr

/-- The name of a placeholder that a text behind a brace goes on with, and the rest. -/
def placeholder? (cs : List Char) : Option (List Char × List Char) :=
  let name := cs.takeWhile Text.isWord
  if name.isEmpty then none
  else
    match cs.dropWhile Text.isWord with
    | '?' :: '\x7d' :: rest => some (name, rest)
    | '\x7d' :: rest => some (name, rest)
    | _ => none

/-- What follows a placeholder is shorter than what it starts with. -/
theorem length_lt_of_placeholder? {cs name rest : List Char}
    (h : placeholder? cs = some (name, rest)) : rest.length < cs.length := by
  have hle : (cs.dropWhile Text.isWord).length ≤ cs.length :=
    (List.dropWhile_suffix _).length_le
  unfold placeholder? at h
  simp only at h
  split at h
  · cases h
  · split at h
    · next heq =>
      cases h
      rw [heq] at hle
      simp only [List.length_cons] at hle
      omega
    · next heq =>
      cases h
      rw [heq] at hle
      simp only [List.length_cons] at hle
      omega
    · cases h

/-- The pieces of a text, from the left. A brace that starts no placeholder stands for itself. -/
def pieces : List Char → List Piece
  | [] => []
  | c :: cs =>
    if c = '\x7b' then
      match h : placeholder? cs with
      | some (name, rest) =>
        have := length_lt_of_placeholder? h
        .placeholder name :: pieces rest
      | none => .literal c :: pieces cs
    else .literal c :: pieces cs
termination_by cs => cs.length
decreasing_by all_goals (simp only [List.length_cons]; omega)

/-- The name of a piece that is a placeholder. -/
def Piece.name? : Piece → Option String
  | literal _ => none
  | placeholder name => some (String.ofList name)

/-- The names of the placeholders of a text, in order. -/
def names (uri : String) : List String :=
  (pieces uri.toList).filterMap Piece.name?

/-- The name that stands for a placeholder: its alias if it has one. -/
def aliasOf (aliases : Listing String) (name : String) : String :=
  (aliases.get? name).getD name

/-- The text of a piece with its name replaced. -/
def Piece.rename (aliases : Listing String) : Piece → List Char
  | literal c => [c]
  | placeholder name => '\x7b' :: (aliasOf aliases (String.ofList name)).toList ++ ['\x7d']

/-- The text with every placeholder renamed. -/
def rename (aliases : Listing String) (cs : List Char) : List Char :=
  (pieces cs).flatMap (Piece.rename aliases)

/-- A text without its leading slashes. -/
def dropSlashes (cs : List Char) : List Char :=
  cs.dropWhile (· == '/')

/-- The rest of a path behind the part that all paths share; leading slashes do not count. -/
def dropShared (shared cs : List Char) : List Char :=
  (Text.cutPrefix? (dropSlashes shared) (dropSlashes cs)).getD (dropSlashes cs)

/-- The path under which a document lists a route. -/
def normalize (uri : String) (aliases : Listing String) (shared : String) : String :=
  String.ofList ('/' :: rename aliases (dropShared shared.toList uri.toList))

end RouteAtlas.Template
