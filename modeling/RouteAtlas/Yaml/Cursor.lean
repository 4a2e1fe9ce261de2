/-
A place in a YAML text.

* `Cursor`: what is still to be read, with the number of characters read, the line and the column.
* `Cursor.next`, `Cursor.drop`, `Cursor.skipWhile`: moving on.
* `Cursor.lineBreak?`: a line break ahead, as the character that it contributes to a text.
* `atDocumentMark`: three dashes or dots that stand for themselves.

Line ends are expected as line feeds.
-/
namespace RouteAtlas.Yaml

/-- A line break. -/
def isBreak (c : Char) : Bool :=
  c == '\n' || c == '\u0085' || c == '\u2028' || c == '\u2029'

/-- A space or a tab. -/
def isGap (c : Char) : Bool :=
  c == ' ' || c == '\t'

/-- Whether a gap, a line break or the end comes next. -/
def blankAhead : List Char → Bool
  | [] => true
  | c :: _ => isGap c || isBreak c

/-- Whether a line break or the end comes next. -/
def lineEndAhead : List Char → Bool
  | [] => true
  | c :: _ => isBreak c

/-- Whether three dashes or three dots come next and nothing that would make them part of a
word. -/
def atDocumentMark : List Char → Bool
  | '-' :: '-' :: '-' :: rest => blankAhead rest
  | '.' :: '.' :: '.' :: rest => blankAhead rest
  | _ => false

/-- The character that a line break contributes to a text. -/
def breakChar (c : Char) : Char :=
  if c = '\u0085' then '\n' else c

/-- A place in a text. -/
structure Cursor where
  /-- What is still to be read. -/
  rest : List Char
  /-- The number of characters read. -/
  index : Nat
  line : Nat
  /-- The number of characters read on this line; a byte order mark has no width. -/
  column : Nat
  deriving Repr

namespace Cursor

/-- The start of a text. -/
def start (cs : List Char) : Cursor :=
  ⟨cs, 0, 0, 0⟩

/-- One character further. -/
def next (c : Cursor) : Cursor :=
  match c.rest with
  | [] => c
  | ch :: rest =>
    if isBreak ch then ⟨rest, c.index + 1, c.line + 1, 0⟩
    else ⟨rest, c.index + 1, c.line, if ch = '\uFEFF' then c.column else c.column + 1⟩

/-- A number of characters further. -/
def drop : Nat → Cursor → Cursor
  | 0, c => c
  | n + 1, c => drop n c.next

/-- Past the characters of a class. -/
def skipWhile (p : Char → Bool) (c : Cursor) : Cursor :=
  c.drop (c.rest.takeWhile p).length

/-- The characters of a class that come next. -/
def takeWhile (p : Char → Bool) (c : Cursor) : List Char :=
  c.rest.takeWhile p

/-- A line break ahead: the character that it contributes, and the place behind it. -/
def lineBreak? (c : Cursor) : Option (Char × Cursor) :=
  match c.rest with
  | ch :: _ => if isBreak ch then some (breakChar ch, c.next) else none
  | [] => none

end Cursor

end RouteAtlas.Yaml
