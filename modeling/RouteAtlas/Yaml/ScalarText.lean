/-
The text of a scalar.

* `quoted`: the text between two marks. A mark is written twice between apostrophes and escaped
  between double quotes; a single line break is folded to a space, of several the first is
  dropped.
* `plain`: the text of a scalar without marks, up to a character that ends it.
* `block`: the text of a literal or folded block below an indicator.

Each reader returns the place behind the scalar. The bounds on the number of steps are the number
of characters that are left.
-/
import RouteAtlas.Yaml.Cursor
import RouteAtlas.Json

namespace RouteAtlas.Yaml

open RouteAtlas.Text (ofCodePoints)
open RouteAtlas.Json (isHexDigit)

/-! ### Folding -/

/-- The line breaks of the empty lines ahead. A document mark must not stand among them. -/
def emptyLines : Nat → Cursor → Except Fault (List Char × Cursor)
  | 0, c => .ok ([], c)
  | fuel + 1, c =>
    if atDocumentMark c.rest then .error .malformed
    else
      let c := c.skipWhile isGap
      match c.lineBreak? with
      | some (ch, c) => do
        let (breaks, c) ← emptyLines fuel c
        .ok (ch :: breaks, c)
      | none => .ok ([], c)

/-- What a line break `ch` followed by the breaks of empty lines contributes: a space for a single
line feed, else the breaks without the line feed. -/
def folded (ch : Char) (breaks : List Char) : List Char :=
  if ch ≠ '\n' then ch :: breaks else if breaks.isEmpty then [' '] else breaks

/-- The gap ahead inside a quoted scalar: the blanks themselves, or a folded line break. -/
def quotedGap (c : Cursor) : Except Fault (List Char × Cursor) :=
  let behind := c.skipWhile isGap
  match behind.lineBreak? with
  | some (ch, after) => do
    let (breaks, after) ← emptyLines after.rest.length after
    .ok (folded ch breaks, after)
  | none => .ok (c.takeWhile isGap, behind)

/-! ### Quoted scalars -/

/-- The escapes of one letter, with the code points that they stand for. -/
def escapes : List (Char × Nat) :=
  [('0', 0x0), ('a', 0x7), ('b', 0x8), ('t', 0x9), ('\t', 0x9), ('n', 0xA), ('v', 0xB),
    ('f', 0xC), ('r', 0xD), ('e', 0x1B), (' ', 0x20), ('\x22', 0x22), ('\\', 0x5C), ('/', 0x2F),
    ('N', 0x85), ('_', 0xA0), ('L', 0x2028), ('P', 0x2029)]

/-- The escapes by code point, with their numbers of digits. -/
def numericEscapes : List (Char × Nat) :=
  [('x', 2), ('u', 4), ('U', 8)]

/-- The code points of an escape, whose backslash has been read. An escaped line break contributes
only the empty lines below it. -/
def escape (c : Cursor) : Except Fault (List Nat × Cursor) :=
  match c.rest with
  | [] => .error .malformed
  | ch :: rest =>
    match escapes.lookup ch, numericEscapes.lookup ch with
    | some n, _ => .ok ([n], c.next)
    | none, some width =>
      let digits := rest.take width
      if digits.length = width && digits.all isHexDigit then
        let n := numberOfDigits 16 digits
        if n < 0x110000 then .ok ([n], c.drop (width + 1))
        else if n < Nat.pow 2 31 then .error .noCharacter
        else .error .outOfRange
      else .error .malformed
    | none, none =>
      match c.lineBreak? with
      | some (_, after) => do
        let (breaks, after) ← emptyLines after.rest.length after
        .ok (breaks.map Char.toNat, after)
      | none => .error .malformed

/-- The code points of a quoted scalar up to its closing mark, and the place behind the mark. -/
def quotedCodePoints (mark : Char) : Nat → Cursor → Except Fault (List Nat × Cursor)
  | 0, _ => .error .malformed
  | fuel + 1, c =>
    match c.rest with
    | [] => .error .malformed
    | ch :: rest =>
      if ch = mark then
        if mark = '\x27' && rest.head? = some '\x27' then do
          let (ns, c) ← quotedCodePoints mark fuel (c.drop 2)
          .ok (0x27 :: ns, c)
        else .ok ([], c.next)
      else if ch = '\\' && mark = '\x22' then do
        let (n, c) ← escape c.next
        let (ns, c) ← quotedCodePoints mark fuel c
        .ok (n ++ ns, c)
      else if isGap ch || isBreak ch then do
        let (gap, c) ← quotedGap c
        let (ns, c) ← quotedCodePoints mark fuel c
        .ok (gap.map Char.toNat ++ ns, c)
      else do
        let (ns, c) ← quotedCodePoints mark fuel c.next
        .ok (ch.toNat :: ns, c)

/-- The text of a quoted scalar, whose opening mark comes next, and the place behind it. -/
def quoted (mark : Char) (c : Cursor) : Except Fault (String × Cursor) := do
  let (ns, c) ← quotedCodePoints mark c.rest.length c.next
  .ok (String.ofList (ofCodePoints ns), c)

/-! ### Plain scalars -/

/-- The characters that have a meaning of their own inside brackets and braces. -/
def isFlowIndicator (c : Char) : Bool :=
  c == ',' || c == '[' || c == ']' || c == '\x7b' || c == '\x7d'

/-- A row of characters of a plain scalar without gaps. A colon ends it if a blank follows, and a
character with a meaning inside brackets ends it there. -/
def plainRun (inFlow : Bool) : List Char → List Char
  | [] => []
  | c :: rest =>
    if isGap c || isBreak c
        || (c == ':' && (blankAhead rest || (inFlow && rest.head?.any isFlowIndicator)))
        || (inFlow && (isFlowIndicator c || c == '?')) then
      []
    else
      c :: plainRun inFlow rest

/-- The line breaks of the empty lines ahead in a plain scalar, or nothing if a document mark
stands at the start of a line. -/
def plainEmptyLines : Nat → Cursor → Option (List Char) × Cursor
  | 0, c => (some [], c)
  | fuel + 1, c =>
    if atDocumentMark c.rest then (none, c)
    else
      let c := c.skipWhile (· == ' ')
      match c.lineBreak? with
      | some (ch, c) =>
        let (breaks, c) := plainEmptyLines fuel c
        (breaks.map (ch :: ·), c)
      | none => (some [], c)

/-- The gap behind a row of characters of a plain scalar: what it contributes if the scalar goes
on, whether it crosses a line break, and the place behind it. -/
def plainGap (c : Cursor) : List Char × Bool × Cursor :=
  let behind := c.skipWhile (· == ' ')
  match behind.lineBreak? with
  | some (ch, after) =>
    match plainEmptyLines after.rest.length after with
    | (some breaks, after) => (folded ch breaks, true, after)
    | (none, after) => ([], true, after)
  | none => (c.takeWhile (· == ' '), false, behind)

/-- A plain scalar: its text, whether a line break was crossed behind it, and the place behind
it. Outside brackets a line belongs to it only if it is indented by at least `indent`. -/
def plainFrom (inFlow : Bool) (indent : Int) : Nat → Cursor → List Char × Bool × Cursor
  | 0, c => ([], false, c)
  | fuel + 1, c =>
    let run := plainRun inFlow c.rest
    let (gap, crossed, after) := plainGap (c.drop run.length)
    if gap.isEmpty || after.rest.head? = some '#' || (!inFlow && (after.column : Int) < indent)
        || (plainRun inFlow after.rest).isEmpty then
      (run, crossed, after)
    else
      let (more, crossed, after) := plainFrom inFlow indent fuel after
      (run ++ gap ++ more, crossed, after)

/-- A plain scalar that comes next. -/
def plain (inFlow : Bool) (indent : Int) (c : Cursor) : String × Bool × Cursor :=
  let (text, crossed, after) := plainFrom inFlow indent c.rest.length c
  (String.ofList text, crossed, after)

/-! ### Block scalars -/

/-- What happens to the line breaks at the end of a block. -/
inductive Chomping
  | strip
  | clip
  | keep
  deriving DecidableEq, Repr

/-- The chomping that an indicator asks for. -/
def chomping? : List Char → Option (Chomping × List Char)
  | '+' :: rest => some (.keep, rest)
  | '-' :: rest => some (.strip, rest)
  | _ => none

/-- The indentation that a digit asks for; zero is refused. -/
def increment? : List Char → Except Fault (Option (Nat × List Char))
  | c :: rest =>
    if c.isDigit then
      if c = '0' then .error .malformed else .ok (some (c.toNat - 48, rest))
    else .ok none
  | [] => .ok none

/-- The indicators in the head of a block, in either order, and what follows them. -/
def blockIndicators (cs : List Char) : Except Fault (Chomping × Option Nat × List Char) := do
  match chomping? cs with
  | some (chomping, rest) =>
    match ← increment? rest with
    | some (n, rest) => .ok (chomping, some n, rest)
    | none => .ok (chomping, none, rest)
  | none =>
    match ← increment? cs with
    | some (n, rest) =>
      match chomping? rest with
      | some (chomping, rest) => .ok (chomping, some n, rest)
      | none => .ok (.clip, some n, rest)
    | none => .ok (.clip, none, cs)

/-- The empty lines at the head of a block and the largest column that a space of them reaches:
the indentation of the block if none was asked for. -/
def leadingLines : Nat → Nat → Cursor → List Char × Nat × Cursor
  | 0, widest, c => ([], widest, c)
  | fuel + 1, widest, c =>
    let c := c.skipWhile (· == ' ')
    let widest := max widest c.column
    match c.lineBreak? with
    | some (ch, c) =>
      let (breaks, widest, c) := leadingLines fuel widest c
      (ch :: breaks, widest, c)
    | none => ([], widest, c)

/-- Past the spaces in front of a column. -/
def skipIndent (indent : Nat) (c : Cursor) : Cursor :=
  c.drop ((c.rest.takeWhile (· == ' ')).length.min (indent - c.column))

/-- The line breaks of the empty lines ahead inside a block. -/
def blockEmptyLines (indent : Nat) : Nat → Cursor → List Char × Cursor
  | 0, c => ([], c)
  | fuel + 1, c =>
    let c := skipIndent indent c
    match c.lineBreak? with
    | some (ch, c) =>
      let (breaks, c) := blockEmptyLines indent fuel c
      (ch :: breaks, c)
    | none => ([], c)

/-- Whether a line with text starts with a gap. -/
def gapAhead : List Char → Bool
  | [] => false
  | c :: _ => isGap c

/-- The lines of a block from a place on its indentation. `breaks` are the breaks of the empty
lines in front of it. In a folded block a line feed between two lines that do not start with a gap
is folded. -/
def blockLines (isFolded : Bool) (chomping : Chomping) (indent : Nat) :
    Nat → List Char → Cursor → List Char × Cursor
  | 0, _, c => ([], c)
  | fuel + 1, breaks, c =>
    let line := c.takeWhile (!isBreak ·)
    let atEnd := c.drop line.length
    let (lineEnd, after) := match atEnd.lineBreak? with
      | some (ch, after) => ([ch], after)
      | none => ([], atEnd)
    let (emptied, after) := blockEmptyLines indent after.rest.length after
    if after.column = indent && !after.rest.isEmpty then
      let joint :=
        if isFolded && lineEnd = ['\n'] && !gapAhead c.rest && !gapAhead after.rest then
          if emptied.isEmpty then [' '] else []
        else lineEnd
      let (more, after) := blockLines isFolded chomping indent fuel emptied after
      (breaks ++ line ++ joint ++ more, after)
    else
      let tail := match chomping with
        | .strip => []
        | .clip => lineEnd
        | .keep => lineEnd ++ emptied
      (breaks ++ line ++ tail, after)

/-- A block whose indicator comes next, in a collection at the column `parent`: its text and the
place behind it. -/
def block (isFolded : Bool) (parent : Int) (c : Cursor) : Except Fault (String × Cursor) := do
  let (chomping, increment, rest) ← blockIndicators c.next.rest
  let c := c.drop (c.rest.length - rest.length)
  let behindGap := c.skipWhile (· == ' ')
  if !(blankAhead c.rest && !(c.rest.head? = some '\t')) then .error .malformed
  else
    let headEnd := if behindGap.rest.head? = some '#' then behindGap.skipWhile (!isBreak ·)
      else behindGap
    if !lineEndAhead headEnd.rest then .error .malformed
    else
      let c := (headEnd.lineBreak?.map (·.2)).getD headEnd
      let least := (parent + 1).toNat.max 1
      let (breaks, indent, c) := match increment with
        | some n =>
          let indent := least + n - 1
          let (breaks, c) := blockEmptyLines indent c.rest.length c
          (breaks, indent, c)
        | none =>
          let (breaks, widest, c) := leadingLines c.rest.length 0 c
          (breaks, least.max widest, c)
      if c.column = indent && !c.rest.isEmpty then
        let (text, c) := blockLines isFolded chomping indent c.rest.length breaks c
        .ok (String.ofList text, c)
      else
        .ok (String.ofList (if chomping = .keep then breaks else []), c)

end RouteAtlas.Yaml
