/-
The tokens of a YAML text.

* `Token`: the marks and scalars of a text. The starts and ends of block collections are tokens
  too: they are read off the indentation.
* `Scanner`: a place in a text, the open block collections, and for every level of brackets the
  place where a simple key may have started.
* `Scanner.step`: one token further. A simple key is recognised by the colon behind it; the marks
  in front of it are then put in at the place where it started.
* `Scanner.certain`: the tokens that nothing behind them can change.
* `TokenStream.of`: the tokens of a whole text, up to its end or up to its first fault.
-/
import RouteAtlas.Yaml.ScalarText

namespace RouteAtlas.Yaml

/-- A token. -/
inductive Token
  /-- A directive, by its name and the words that follow it. -/
  | directive (name : String) (handle content : String)
  | documentStart
  | documentEnd
  | blockSequenceStart
  | blockMappingStart
  | blockEnd
  | flowSequenceStart
  | flowSequenceEnd
  | flowMappingStart
  | flowMappingEnd
  /-- The dash of an item in a block sequence. -/
  | blockEntry
  /-- The comma between parts of a flow collection. -/
  | flowEntry
  | key
  | value
  | alias (name : String)
  | anchor (name : String)
  /-- A tag, by its handle, if it has one, and the rest. -/
  | tag (handle : Option String) (suffix : String)
  | scalar (isPlain : Bool) (text : String)
  | streamEnd
  deriving DecidableEq, Repr

/-- A place where a simple key may have started. -/
structure SimpleKey where
  /-- The number of tokens in front of the key. -/
  position : Nat
  /-- Whether the text is refused if this is no key: it stands where only a key can stand. -/
  isRequired : Bool
  index : Nat
  line : Nat
  column : Nat
  deriving Repr

/-- A place in a text, with what is open there. -/
structure Scanner where
  cursor : Cursor
  tokens : Array Token
  /-- The number of open brackets and braces. -/
  flowLevel : Nat
  /-- The column of the innermost block collection, or -1. -/
  indent : Int
  /-- The columns of the collections around it. -/
  outer : List Int
  /-- Whether a simple key may start here. -/
  keysAllowed : Bool
  /-- The possible simple keys, by level of brackets. -/
  candidates : List (Nat × SimpleKey)

namespace Scanner

/-- The start of a text, behind a byte order mark. -/
def start (cs : List Char) : Scanner :=
  let cursor := Cursor.start cs
  { cursor := if cs.head? = some '\uFEFF' then cursor.next else cursor
    tokens := #[], flowLevel := 0, indent := -1, outer := [], keysAllowed := true
    candidates := [] }

/-- One token more. -/
def push (s : Scanner) (t : Token) : Scanner :=
  { s with tokens := s.tokens.push t }

/-- A token put in behind the first `position` ones. -/
def insertAt (s : Scanner) (position : Nat) (t : Token) : Scanner :=
  { s with tokens :=
      (s.tokens.extract 0 position).push t ++ s.tokens.extract position s.tokens.size }

/-- A number of characters further. -/
def drop (s : Scanner) (n : Nat) : Scanner :=
  { s with cursor := s.cursor.drop n }

/-! ### Block collections -/

/-- The end of the block collections that are indented by more than a column. -/
def unwindTo (column : Int) : List Int → Scanner → Scanner
  | [], s => s
  | parent :: parents, s =>
    if column < s.indent then
      unwindTo column parents ({ s with indent := parent, outer := parents }.push .blockEnd)
    else s

/-- The end of the block collections that are indented by more than a column. Inside brackets
indentation has no meaning. -/
def unwind (s : Scanner) (column : Int) : Scanner :=
  if 0 < s.flowLevel then s else unwindTo column s.outer s

/-- A collection at a column if it is indented by more than the innermost one, with its start put
in behind the first `position` tokens. -/
def openAt (s : Scanner) (column position : Nat) (start : Token) : Scanner :=
  if s.indent < column then
    { s with indent := column, outer := s.indent :: s.outer }.insertAt position start
  else s

/-! ### Simple keys -/

/-- Without the possible key of this level; one that is required must not be given up. -/
def removeCandidate (s : Scanner) : Except Fault Scanner :=
  match s.candidates.lookup s.flowLevel with
  | some key =>
    if key.isRequired then .error .malformed
    else .ok { s with candidates := s.candidates.filter (·.1 != s.flowLevel) }
  | none => .ok s

/-- A simple key may start here. -/
def saveCandidate (s : Scanner) : Except Fault Scanner :=
  if s.keysAllowed then do
    let s ← s.removeCandidate
    let key : SimpleKey :=
      ⟨s.tokens.size, s.flowLevel = 0 && s.indent = s.cursor.column, s.cursor.index,
        s.cursor.line, s.cursor.column⟩
    .ok { s with candidates := (s.flowLevel, key) :: s.candidates }
  else .ok s

/-- Whether a possible key lies too far back: on another line, or by more than 1024 characters. -/
def isStale (s : Scanner) (key : SimpleKey) : Bool :=
  key.line != s.cursor.line || key.index + 1024 < s.cursor.index

/-- Without the possible keys that lie too far back; none of them must be required. -/
def dropStale (s : Scanner) : Except Fault Scanner :=
  if s.candidates.any fun c => s.isStale c.2 && c.2.isRequired then .error .malformed
  else .ok { s with candidates := s.candidates.filter fun c => !s.isStale c.2 }

/-! ### Between tokens -/

/-- Past spaces, comments and line breaks to the next token. Behind a line break outside brackets
a simple key may start. -/
def skipBlanks : Nat → Scanner → Scanner
  | 0, s => s
  | fuel + 1, s =>
    let cursor := s.cursor.skipWhile (· == ' ')
    let cursor := if cursor.rest.head? = some '#' then cursor.skipWhile (!isBreak ·) else cursor
    match cursor.lineBreak? with
    | some (_, cursor) =>
      skipBlanks fuel { s with cursor, keysAllowed := s.keysAllowed || s.flowLevel = 0 }
    | none => { s with cursor }

/-! ### Words -/

/-- A character of the names of anchors, handles and directives. -/
def isNameChar (c : Char) : Bool :=
  c.isAlphanum || c == '-' || c == '_'

/-- A character of the rest of a tag. -/
def isTagChar (c : Char) : Bool :=
  c.isAlphanum || "-;/?:@&=+$,_.!~*\x27()[]%".toList.contains c

/-- What may stand behind the name of an anchor. -/
def endsAnchor : List Char → Bool
  | [] => true
  | c :: _ => isGap c || isBreak c || "?:,]\x7d%@\x60".toList.contains c

/-- A space, a line break or the end. -/
def spaceAhead : List Char → Bool
  | [] => true
  | c :: _ => c == ' ' || isBreak c

/-- The bytes of a row of escapes of the form `%41`. -/
def escapedBytes? : List Char → Option (List UInt8)
  | [] => some []
  | '%' :: h₁ :: h₂ :: rest =>
    if [h₁, h₂].all Json.isHexDigit then
      (escapedBytes? rest).map ((numberOfDigits 16 [h₁, h₂]).toUInt8 :: ·)
    else none
  | _ => none

/-- The length of the row of escapes that a text starts with. -/
def escapesLength : List Char → Nat
  | '%' :: _ :: _ :: rest => escapesLength rest + 3
  | _ => 0

/-- The rest of a tag: its characters, with rows of escapes read as the bytes of a text. -/
def tagText? : Nat → List Char → Option (List Char)
  | _, [] => some []
  | 0, _ => none
  | fuel + 1, c :: rest =>
    if c = '%' then
      let length := escapesLength (c :: rest)
      if length = 0 then none
      else
        match (escapedBytes? ((c :: rest).take length)).bind fun bytes =>
            String.fromUTF8? ⟨bytes.toArray⟩ with
        | some text => (tagText? fuel ((c :: rest).drop length)).map (text.toList ++ ·)
        | none => none
    else (tagText? fuel rest).map (c :: ·)

/-- The rest of a tag that comes next, and its length; there is at least one character. -/
def tagSuffix (cs : List Char) : Except Fault (String × Nat) :=
  let chars := cs.takeWhile isTagChar
  match tagText? chars.length chars with
  | some text =>
    if chars.isEmpty then .error .malformed else .ok (String.ofList text, chars.length)
  | none => .error .malformed

/-- The handle that a text starts with: an exclamation mark, or a name between two of them. A mark
that a space follows stands alone. -/
def tagHandle : List Char → Except Fault (List Char)
  | '!' :: rest =>
    let name := rest.takeWhile isNameChar
    if rest.head? = some ' ' then .ok ['!']
    else if (rest.dropWhile isNameChar).head? = some '!' then .ok ('!' :: name ++ ['!'])
    else .error .malformed
  | _ => .error .malformed

/-! ### Kinds of tokens -/

/-- Past the end of a directive line: spaces, perhaps a comment, a line break or the end. -/
def endDirective (s : Scanner) (name handle content : String) : Except Fault Scanner :=
  let cursor := s.cursor.skipWhile (· == ' ')
  let cursor := if cursor.rest.head? = some '#' then cursor.skipWhile (!isBreak ·) else cursor
  if lineEndAhead cursor.rest then
    .ok ({ s with cursor }.push (.directive name handle content))
  else .error .malformed

/-- A decimal number in a version. -/
def versionNumber (digits : List Char) : Except Fault Unit :=
  match Whole.ofDigits digits with
  | .ok _ => if digits.isEmpty then .error .malformed else .ok ()
  | .error cause => .error (.numeral cause)

/-- The first part of a version such as `1.1`, and the length of the whole. -/
def version (cs : List Char) : Except Fault (String × Nat) := do
  let major := cs.takeWhile Char.isDigit
  versionNumber major
  match cs.dropWhile Char.isDigit with
  | '.' :: rest =>
    let minor := rest.takeWhile Char.isDigit
    versionNumber minor
    .ok (String.ofList major, major.length + 1 + minor.length)
  | _ => .error .malformed

/-- A directive, whose percent sign comes next. -/
def scanDirective (s : Scanner) : Except Fault Scanner := do
  let s ← (s.unwind (-1)).removeCandidate
  let s := { s with keysAllowed := false }.drop 1
  let name := s.cursor.takeWhile isNameChar
  let s := s.drop name.length
  if name.isEmpty || !spaceAhead s.cursor.rest then .error .malformed
  else if name = "YAML".toList then
    let s := { s with cursor := s.cursor.skipWhile (· == ' ') }
    let (major, length) ← version s.cursor.rest
    let s := s.drop length
    if spaceAhead s.cursor.rest then s.endDirective "YAML" "" major else .error .malformed
  else if name = "TAG".toList then do
    let s := { s with cursor := s.cursor.skipWhile (· == ' ') }
    let handle ← tagHandle s.cursor.rest
    let s := s.drop handle.length
    if s.cursor.rest.head? ≠ some ' ' then .error .malformed
    else do
      let s := { s with cursor := s.cursor.skipWhile (· == ' ') }
      let (content, length) ← tagSuffix s.cursor.rest
      let s := s.drop length
      if spaceAhead s.cursor.rest then s.endDirective "TAG" (String.ofList handle) content
      else .error .malformed
  else
    ({ s with cursor := s.cursor.skipWhile (!isBreak ·) }).endDirective (String.ofList name) "" ""

/-- A mark between documents. -/
def scanDocumentMark (s : Scanner) (t : Token) : Except Fault Scanner := do
  let s ← (s.unwind (-1)).removeCandidate
  .ok ({ s with keysAllowed := false }.drop 3 |>.push t)

/-- An opening bracket or brace. -/
def scanFlowStart (s : Scanner) (t : Token) : Except Fault Scanner := do
  let s ← s.saveCandidate
  .ok ({ s with flowLevel := s.flowLevel + 1, keysAllowed := true }.drop 1 |>.push t)

/-- A closing bracket or brace; one must be open. -/
def scanFlowEnd (s : Scanner) (t : Token) : Except Fault Scanner := do
  let s ← s.removeCandidate
  if s.flowLevel = 0 then .error .malformed
  else .ok ({ s with flowLevel := s.flowLevel - 1, keysAllowed := false }.drop 1 |>.push t)

/-- A comma in a flow collection. -/
def scanFlowEntry (s : Scanner) : Except Fault Scanner := do
  let s ← s.removeCandidate
  .ok ({ s with keysAllowed := true }.drop 1 |>.push .flowEntry)

/-- The dash of an item. -/
def scanBlockEntry (s : Scanner) : Except Fault Scanner :=
  if s.flowLevel = 0 && !s.keysAllowed then .error .malformed
  else do
    let s := if s.flowLevel = 0 then
        s.openAt s.cursor.column s.tokens.size .blockSequenceStart
      else s
    let s ← s.removeCandidate
    .ok ({ s with keysAllowed := true }.drop 1 |>.push .blockEntry)

/-- The question mark of a key. -/
def scanKey (s : Scanner) : Except Fault Scanner :=
  if s.flowLevel = 0 && !s.keysAllowed then .error .malformed
  else do
    let s := if s.flowLevel = 0 then
        s.openAt s.cursor.column s.tokens.size .blockMappingStart
      else s
    let s ← s.removeCandidate
    .ok ({ s with keysAllowed := s.flowLevel = 0 }.drop 1 |>.push .key)

/-- The colon of a value. If a simple key may have started at this level, it did. -/
def scanValue (s : Scanner) : Except Fault Scanner :=
  match s.candidates.lookup s.flowLevel with
  | some key =>
    let s := { s with candidates := s.candidates.filter (·.1 != s.flowLevel) }
    let s := s.insertAt key.position .key
    let s := if s.flowLevel = 0 then s.openAt key.column key.position .blockMappingStart else s
    .ok ({ s with keysAllowed := false }.drop 1 |>.push .value)
  | none =>
    if s.flowLevel = 0 && !s.keysAllowed then .error .malformed
    else do
      let s := if s.flowLevel = 0 then
          s.openAt s.cursor.column s.tokens.size .blockMappingStart
        else s
      let s := { s with keysAllowed := s.flowLevel = 0 }
      .ok (s.drop 1 |>.push .value)

/-- An anchor or an alias. -/
def scanAnchor (s : Scanner) (t : String → Token) : Except Fault Scanner := do
  let s ← s.saveCandidate
  let s := { s with keysAllowed := false }.drop 1
  let name := s.cursor.takeWhile isNameChar
  let s := s.drop name.length
  if name.isEmpty || !endsAnchor s.cursor.rest then .error .malformed
  else .ok (s.push (t (String.ofList name)))

/-- The tag that a text starts with, and its length. -/
def tagAhead (cs : List Char) : Except Fault (Token × Nat) :=
  match cs with
  | '!' :: '<' :: rest => do
    let (suffix, length) ← tagSuffix rest
    if (rest.drop length).head? = some '>' then .ok (.tag none suffix, length + 3)
    else .error .malformed
  | '!' :: rest =>
    if blankAhead rest then .ok (.tag none "!", 1)
    else if (rest.takeWhile fun c => !(c == ' ' || isBreak c)).contains '!' then do
      let handle ← tagHandle cs
      let (suffix, length) ← tagSuffix (cs.drop handle.length)
      .ok (.tag (some (String.ofList handle)) suffix, handle.length + length)
    else do
      let (suffix, length) ← tagSuffix rest
      .ok (.tag (some "!") suffix, length + 1)
  | _ => .error .malformed

/-- A tag. -/
def scanTag (s : Scanner) : Except Fault Scanner := do
  let s ← s.saveCandidate
  let (t, length) ← tagAhead s.cursor.rest
  let s := { s with keysAllowed := false }.drop length
  if spaceAhead s.cursor.rest then .ok (s.push t) else .error .malformed

/-- A literal or folded block. -/
def scanBlock (s : Scanner) (isFolded : Bool) : Except Fault Scanner := do
  let s ← s.removeCandidate
  let (text, cursor) ← block isFolded s.indent s.cursor
  .ok ({ s with cursor, keysAllowed := true }.push (.scalar false text))

/-- A quoted scalar. -/
def scanQuoted (s : Scanner) (mark : Char) : Except Fault Scanner := do
  let s ← s.saveCandidate
  let (text, cursor) ← quoted mark s.cursor
  .ok ({ s with cursor, keysAllowed := false }.push (.scalar false text))

/-- A plain scalar. -/
def scanPlain (s : Scanner) : Except Fault Scanner := do
  let s ← s.saveCandidate
  let (text, crossed, cursor) := plain (0 < s.flowLevel) (s.indent + 1) s.cursor
  .ok ({ s with cursor, keysAllowed := crossed }.push (.scalar true text))

/-- Whether a plain scalar starts with `c`, in front of `rest`. -/
def startsPlain (inFlow : Bool) (c : Char) (rest : List Char) : Bool :=
  !(isGap c || isBreak c || "-?:,[]\x7b\x7d#&*!|>\x27\x22%@\x60".toList.contains c)
    || (!blankAhead rest && (c == '-' || (!inFlow && (c == '?' || c == ':'))))

/-- The end of the text: every block collection ends. -/
def finish (s : Scanner) : Except Fault (Array Token) := do
  let s ← (s.unwind (-1)).removeCandidate
  .ok (s.tokens.push .streamEnd)

/-- The token that starts at the place of a scanner, which is not the end of the text. -/
def step (s : Scanner) (c : Char) (rest : List Char) : Except Fault Scanner :=
  let inFlow := 0 < s.flowLevel
  let atLineStart := s.cursor.column = 0
  if c = '%' && atLineStart then s.scanDirective
  else if c = '-' && atLineStart && atDocumentMark (c :: rest) then
    s.scanDocumentMark .documentStart
  else if c = '.' && atLineStart && atDocumentMark (c :: rest) then
    s.scanDocumentMark .documentEnd
  else if c = '[' then s.scanFlowStart .flowSequenceStart
  else if c = '\x7b' then s.scanFlowStart .flowMappingStart
  else if c = ']' then s.scanFlowEnd .flowSequenceEnd
  else if c = '\x7d' then s.scanFlowEnd .flowMappingEnd
  else if c = ',' then s.scanFlowEntry
  else if c = '-' && blankAhead rest then s.scanBlockEntry
  else if c = '?' && (inFlow || blankAhead rest) then s.scanKey
  else if c = ':' && (inFlow || blankAhead rest) then s.scanValue
  else if c = '*' then s.scanAnchor .alias
  else if c = '&' then s.scanAnchor .anchor
  else if c = '!' then s.scanTag
  else if c = '|' && !inFlow then s.scanBlock false
  else if c = '>' && !inFlow then s.scanBlock true
  else if c = '\x27' || c = '\x22' then s.scanQuoted c
  else if startsPlain inFlow c rest then s.scanPlain
  else .error .malformed

/-- The tokens that nothing behind them can change: those in front of the first place where a
simple key may have started. -/
def certain (s : Scanner) : List Token :=
  let possible := s.candidates.filter fun c => !s.isStale c.2
  s.tokens.toList.take (possible.foldl (fun n c => min n c.2.position) s.tokens.size)

/-- A scanner at its next token, in front of which block collections may have ended. `fuel` bounds
the number of line breaks in front of it. -/
def prepare (fuel : Nat) (s : Scanner) : Except Fault Scanner := do
  let s ← (s.skipBlanks fuel).dropStale
  .ok (s.unwind s.cursor.column)

end Scanner

/-- Tokens, with the fault that the text has behind them. Without a fault the last one is the end of
the text. -/
structure TokenStream where
  tokens : List Token
  fault : Option Fault

/-- The tokens up to the end of the text. -/
def Scanner.run : Nat → Scanner → TokenStream
  | 0, s => ⟨s.certain, some .malformed⟩
  | fuel + 1, s =>
    match s.prepare (fuel + 1) with
    | .error fault => ⟨s.certain, some fault⟩
    | .ok ready =>
      match ready.cursor.rest with
      | [] =>
        match ready.finish with
        | .ok tokens => ⟨tokens.toList, none⟩
        | .error fault => ⟨s.certain, some fault⟩
      | c :: rest =>
        match ready.step c rest with
        | .ok next => run fuel next
        | .error fault => ⟨s.certain, some fault⟩

/-- A character that a text may hold. -/
def isAllowed (c : Char) : Bool :=
  Text.inRanges [(0x9, 0xA), (0xD, 0xD), (0x20, 0x7E), (0x85, 0x85), (0xA0, 0xD7FF),
    (0xE000, 0xFFFD), (0x10000, 0x10FFFF)] c

/-- The tokens of a text. Each token takes at least one character. -/
def TokenStream.of (cs : List Char) : TokenStream :=
  if cs.all isAllowed then Scanner.run (cs.length + 1) (Scanner.start cs)
  else ⟨[], some .malformed⟩

end RouteAtlas.Yaml
