/-
Settings from files.

* `SettingsFailure`: why a file gives no settings, with `SettingsFailure.message`.
* `Settings.ofValue`, `Settings.ofText`, `Settings.ofFile`: the settings of a value, of a text and
  of a file. Files are read as JSON unless their suffix tells the other format; in that format
  whatever counts as absent stands for no settings at all.
-/
import RouteAtlas.Settings
import RouteAtlas.SourceFile

namespace RouteAtlas

/-- Why a file gives no settings. -/
inductive SettingsFailure
  | notFound (path : String)
  /-- The bytes of the file are no text. -/
  | notText
  | malformed (path : String) (format : Format)
  /-- The text is well-formed and gives no value for another cause. -/
  | unreadable (fault : Fault)
  | notMapping (path given : String)
  | invalid (path : String) (first : Defect) (more : List Defect)
  deriving DecidableEq, Repr

/-- The text of a failure. -/
def SettingsFailure.message : SettingsFailure → String
  | notFound path => s!"Config file not found: {path}"
  | notText => ""
  | malformed path _ | invalid path _ _ => s!"Invalid config at {path}"
  | unreadable fault => fault.message?.getD ""
  | notMapping path given => s!"Config at {path} must be a mapping (got {given})"

namespace Settings

/-- The settings of a value. -/
def ofValue (path : String) : Value → Except SettingsFailure Settings
  | .map entries =>
    match read entries with
    | .accepted settings => .ok settings
    | .rejected first more => .error (.invalid path first more)
  | value => .error (.notMapping path value.typeName)

/-- A fault of a text as a failure. -/
def failureOf (path : String) (format : Format) : Fault → SettingsFailure
  | .malformed => .malformed path format
  | fault => .unreadable fault

/-- The value of a text in the format that the suffix tells. -/
def valueOfText (readers : Readers) (path text : String) : Except SettingsFailure Value :=
  match SourceFile.formatOf? path with
  | some .yaml => do
    let value ← (readers.yaml text).mapError (failureOf path .yaml)
    .ok (if value.truthy then value else .map [])
  | _ => (readers.json text).mapError (failureOf path .json)

/-- The settings of a text. -/
def ofText (readers : Readers) (path text : String) : Except SettingsFailure Settings := do
  ofValue path (← valueOfText readers path text)

/-- The settings of a file. -/
def ofFile (readers : Readers) (path : String) : SourceFile → Except SettingsFailure Settings
  | .missing | .directory => .error (.notFound path)
  | .content bytes =>
    match SourceFile.text? bytes with
    | some text => ofText readers path text
    | none => .error .notText

end Settings

end RouteAtlas
