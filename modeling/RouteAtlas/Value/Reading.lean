/-
Reading typed parts out of values.

* `Value.readText`, `Value.readTruth`, `Value.readWhole`: scalars. Bytes are read as the text that
  they encode. Truth values are also read from 0 and 1 and from the usual words, whole numbers also
  from truth values, from numbers without fraction and from numerals.
* `Value.readOptional`: the null value stands for nothing.
* `Value.readList`, `Value.readTexts`, `Value.readMapping`: collections.
* `Value.readRecord`: a mapping by its fields.
* `Value.required`, `Value.withDefault`: the fields of a record.
-/
import RouteAtlas.Checked
import RouteAtlas.Numeral.Whole
import RouteAtlas.Value

namespace RouteAtlas.Value

variable {α : Type}

/-! ### Scalars -/

/-- The text that bytes encode. -/
def textOfBytes? (bs : List UInt8) : Option String :=
  String.fromUTF8? ⟨bs.toArray⟩

/-- A text. -/
def readText : Value → Checked String
  | text s => .accepted s
  | bytes bs =>
    match textOfBytes? bs with
    | some s => .accepted s
    | none => .reject .unreadableText
  | _ => .reject .notText

/-- The words for `true`. -/
def trueWords : List String := ["1", "on", "t", "true", "y", "yes"]

/-- The words for `false`. -/
def falseWords : List String := ["0", "off", "f", "false", "n", "no"]

/-- Whether an integer has a word of 64 bits with a sign. -/
def isWord (n : Int) : Bool :=
  -0x8000000000000000 ≤ n && n < 0x8000000000000000

/-- The truth value that a word stands for. -/
def truthOfWord (s : String) : Checked Bool :=
  if trueWords.contains s.toLower then .accepted true
  else if falseWords.contains s.toLower then .accepted false
  else .reject .unreadableTruthValue

/-- The truth value that an integer stands for. -/
def truthOfInteger (n : Int) : Checked Bool :=
  if n = 0 then .accepted false
  else if n = 1 then .accepted true
  else if isWord n then .reject .unreadableTruthValue
  else .reject .notTruthValue

/-- A truth value: itself, 0 or 1, or one of the usual words in upper or lower case. -/
def readTruth : Value → Checked Bool
  | bool b => .accepted b
  | int n => truthOfInteger n
  | float x =>
    match x.integer? with
    | some n => if n = -0x8000000000000000 then .reject .notTruthValue else truthOfInteger n
    | none => .reject .notTruthValue
  | text s => truthOfWord s
  | bytes bs =>
    match textOfBytes? bs with
    | some s => truthOfWord s
    | none => .reject .unreadableTruthValue
  | _ => .reject .notTruthValue

/-- The whole number that a numeral shows. -/
def wholeOfNumeral (s : String) : Checked Int :=
  match Whole.readTyped s.toList with
  | .ok n => .accepted n
  | .error (.tooLong _) => .reject .oversizedWhole
  | .error _ => .reject .unreadableWhole

/-- The whole number that a floating-point number without fraction stands for. -/
def wholeOfFloat (x : Binary64) : Checked Int :=
  match x.integer? with
  | some n => if isWord n && n ≠ -0x8000000000000000 then .accepted n else .reject .oversizedWhole
  | none => .reject (if x.isFinite then .fraction else .notFinite)

/-- A whole number: itself, a truth value as 0 or 1, a number without fraction, or a numeral. -/
def readWhole : Value → Checked Int
  | int n => .accepted n
  | bool b => .accepted (if b then 1 else 0)
  | float x => wholeOfFloat x
  | text s => wholeOfNumeral s
  | bytes bs =>
    match textOfBytes? bs with
    | some s => wholeOfNumeral s
    | none => .reject .unreadableWhole
  | _ => .reject .notWhole

/-! ### Optional parts and collections -/

/-- A part that may be null. -/
def readOptional (read : Value → Checked α) : Value → Checked (Option α)
  | null => .accepted none
  | value => (read value).map some

/-- A list, a row of a fixed length, or a set. -/
def readList (read : Value → Checked α) : Value → Checked (List α)
  | list items => Checked.all read 0 items
  | tuple items => Checked.all read 0 items
  | set items => Checked.all read 0 items
  | _ => .reject .notList

/-- A list of texts. -/
def readTexts : Value → Checked (List String) :=
  readList readText

/-- A key as it is shown, or by the word for its kind. -/
def keyText (key : Value) : String :=
  key.shown?.getD ("<unprintable " ++ key.typeName ++ " object>")

/-- The step to the entry of a key: a text as a name, an integer as a number unless it is too large
for a word, and any other key as it is shown. -/
def keyStep : Value → Step
  | text s => .field s
  | bool b => .number (if b then 1 else 0)
  | int n => if isWord n then .number n else .field (keyText (int n))
  | key => .field (keyText key)

/-- A key that has to be a text. -/
def readKey (key : Value) : Checked String :=
  ((readText key).under (.field "[key]")).under (keyStep key)

/-- The entries of a mapping from texts to values of one type, one by one. -/
def readEntries (read : Value → Checked α) : List (Value × Value) → Checked (List (String × α))
  | [] => .accepted []
  | (key, value) :: rest =>
    Checked.seq
      (Checked.seq (Checked.map (fun key value rest => (key, value) :: rest) (readKey key))
        ((read value).under (keyStep key)))
      (readEntries read rest)

/-- A mapping from texts to values of one type. Of two keys that are one text the later counts. -/
def readMapping (read : Value → Checked α) : Value → Checked (Listing α)
  | map entries => (readEntries read entries).map Listing.ofPairs
  | _ => .reject .notMapping

/-! ### Records -/

/-- A record, from the entries of a mapping. -/
def readRecord (read : List (Value × Value) → Checked α) : Value → Checked α
  | map entries => read entries
  | _ => .reject .notRecord

/-- A field that has to be there. -/
def required (entries : List (Value × Value)) (name : String) (read : Value → Checked α) :
    Checked α :=
  match field? name entries with
  | some value => (read value).under (.field name)
  | none => .rejected ⟨[.field name], .missing⟩ []

/-- A field that has a value of its own if it is not there. -/
def withDefault (entries : List (Value × Value)) (name : String) (read : Value → Checked α)
    (absent : α) : Checked α :=
  match field? name entries with
  | some value => (read value).under (.field name)
  | none => .accepted absent

/-! ### What was written is read back -/

/-- An optional part is read back if it is not written as null. -/
theorem readOptional_getD {read : Value → Checked α} {write : α → Value} {part : Option α}
    (h : ∀ a ∈ part, read (write a) = .accepted a) (hnull : ∀ a, write a ≠ null) :
    readOptional read ((part.map write).getD null) = .accepted part := by
  cases part with
  | none => rfl
  | some a =>
    have ha := h a rfl
    have hn := hnull a
    simp only [Option.map_some, Option.getD_some]
    generalize write a = v at ha hn
    cases v <;> first | exact absurd rfl hn | simp [readOptional, ha, Checked.map]

/-- Entries under texts are read back one by one. -/
theorem readEntries_record {read : Value → Checked α} {write : α → Value}
    (h : ∀ a, read (write a) = .accepted a) (entries : Listing α) :
    readEntries read (entries.map fun entry => (text entry.1, write entry.2)) =
      .accepted entries := by
  induction entries with
  | nil => rfl
  | cons entry rest ih =>
    simp only [List.map_cons, readEntries, ih]
    simp [readKey, readText, h, Checked.under, Checked.map, Checked.seq]

/-- A mapping from texts, of which no two are the same, is read back. -/
theorem readMapping_record {read : Value → Checked α} {write : α → Value}
    (h : ∀ a, read (write a) = .accepted a) {entries : Listing α} (hn : entries.names.Nodup) :
    readMapping read (record (entries.map fun entry => (entry.1, write entry.2))) =
      .accepted entries := by
  have hentries := readEntries_record h entries
  simp only [record, readMapping, List.map_map, Function.comp_def, hentries, Checked.map,
    Listing.ofPairs_of_nodup hn]

/-- The names of a mapping that was read are distinct. -/
theorem nodup_names_of_readMapping {read : Value → Checked α} {value : Value} {entries : Listing α}
    (h : readMapping read value = .accepted entries) : entries.names.Nodup := by
  cases value with
  | map given =>
    obtain ⟨pairs, _, rfl⟩ := Checked.map_eq_accepted_iff.1 h
    exact Listing.nodup_names_ofPairs pairs
  | _ => cases h

end RouteAtlas.Value
