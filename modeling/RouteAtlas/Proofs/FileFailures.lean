/-
How settings and routes fail to load from a file.

Loading goes through stages: the bytes become a text, the text a value in one of two formats, and
the value becomes settings or routes. Most stages report a failure of their own kind, which is
documented; the first one does not.

* `FailsWithin`, `FailsWithin.bind`: a computation all of whose failures have a property, and the
  rule for one stage after another.
* `SettingsFailure.isDocumented`, `ManifestFailure.isDocumented`: the documented failures.
* `Readers.OnlyMalformed`: readers for which a text without a value is malformed.
* `Settings.documented_ofText`, `Manifest.documented_ofText`: from the text on, every failure is
  documented.
* `Readers.documented_iff_isText`: **loading fails as documented exactly for files whose bytes are a
  text**.
-/
import Mathlib.Data.List.Basic
import RouteAtlas.Manifest
import RouteAtlas.Settings.File

namespace RouteAtlas

/-! ### Failures of stages -/

section Stages

variable {ε ε' α β : Type} {P : ε → Prop}

/-- **All failures of a computation have a property.** -/
def FailsWithin (P : ε → Prop) (x : Except ε α) : Prop :=
  ∀ failure, x = .error failure → P failure

namespace FailsWithin

/-- A result is no failure. -/
lemma ok (P : ε → Prop) (a : α) : FailsWithin P (.ok a : Except ε α) := by
  rintro failure ⟨⟩

/-- A failure alone. -/
lemma error_iff {failure : ε} : FailsWithin P (.error failure : Except ε α) ↔ P failure := by
  constructor
  · intro h
    exact h failure rfl
  · rintro h _ ⟨⟩
    exact h

/-- **One stage after another** fails as the two do. -/
lemma bind {x : Except ε α} {f : α → Except ε β} (hx : FailsWithin P x)
    (hf : ∀ a, FailsWithin P (f a)) : FailsWithin P (x >>= f) := by
  cases x with
  | error failure => exact error_iff.mpr (hx failure rfl)
  | ok a => exact hf a

/-- A change of the result changes no failure. -/
lemma map {x : Except ε α} (hx : FailsWithin P x) (f : α → β) : FailsWithin P (x.map f) := by
  cases x with
  | error failure => exact error_iff.mpr (hx failure rfl)
  | ok a => exact ok P (f a)

/-- Failures that are said in another way. -/
lemma mapError {Q : ε' → Prop} {x : Except ε' α} (hx : FailsWithin Q x) {f : ε' → ε}
    (hf : ∀ failure, Q failure → P (f failure)) : FailsWithin P (x.mapError f) := by
  cases x with
  | error failure => exact error_iff.mpr (hf failure (hx failure rfl))
  | ok a => exact ok P a

end FailsWithin

end Stages

/-! ### Documented failures -/

/-- **Whether a failure is documented** for settings: the file is not there, its text is not
well-formed, its value is no mapping, or a field has a defect. -/
def SettingsFailure.isDocumented : SettingsFailure → Bool
  | notFound _ | malformed _ _ | notMapping _ _ | invalid _ _ _ => true
  | notText | unreadable _ => false

/-- **Whether a failure is documented** for routes: the file is not there, it has nothing but white
space, its text is not well-formed, its value is no list, or a route has a defect. -/
def ManifestFailure.isDocumented : ManifestFailure → Bool
  | notFound _ | empty _ | malformed _ | notList _ | invalidRoute _ _ _ => true
  | notText | unreadable _ => false

/-- **Readers that give a value or find the text malformed.** -/
structure Readers.OnlyMalformed (readers : Readers) : Prop where
  json : ∀ text, FailsWithin (· = .malformed) (readers.json text)
  yaml : ∀ text, FailsWithin (· = .malformed) (readers.yaml text)

/-- **Whether the bytes of a file, if it has any, are a text.** -/
def SourceFile.IsText (file : SourceFile) : Prop :=
  ∀ bytes, file = .content bytes → bytes.IsValidUTF8

/-- The bytes of a file are no text exactly if they are not valid. -/
lemma SourceFile.text?_eq_none_iff {bytes : ByteArray} :
    text? bytes = none ↔ ¬bytes.IsValidUTF8 := by
  rw [text?, String.fromUTF8?]
  split
  · next h => simp [h]
  · next h => simp [h]

/-- What fails as documented for texts, and in another way for other bytes, fails as documented
exactly for texts. -/
lemma failsWithin_iff_isText {ε α : Type} {P : ε → Prop} {x : Except ε α} {file : SourceFile}
    {failure : ε} (hfailure : ¬P failure) (htext : file.IsText → FailsWithin P x)
    (hother : ¬file.IsText → x = .error failure) : FailsWithin P x ↔ file.IsText := by
  refine ⟨fun hx => ?_, htext⟩
  by_contra hfile
  exact hfailure (hx failure (hother hfile))

/-! ### Settings -/

namespace Settings

/-- The settings of a value. -/
lemma documented_ofValue (path : String) (value : Value) :
    FailsWithin (·.isDocumented = true) (ofValue path value) := by
  unfold ofValue
  split
  · split
    · exact FailsWithin.ok _ _
    · exact FailsWithin.error_iff.mpr rfl
  · exact FailsWithin.error_iff.mpr rfl

/-- The value of a text in the format that the suffix tells. -/
lemma documented_valueOfText {readers : Readers} (h : readers.OnlyMalformed) (path text : String) :
    FailsWithin (·.isDocumented = true) (valueOfText readers path text) := by
  have hmalformed : ∀ (format : Format) (fault : Fault), fault = .malformed →
      (failureOf path format fault).isDocumented = true := by
    rintro format _ rfl
    rfl
  unfold valueOfText
  split
  · exact ((h.yaml text).mapError (hmalformed .yaml)).bind fun value => FailsWithin.ok _ _
  · exact (h.json text).mapError (hmalformed .json)

/-- **Texts fail as documented** where settings are expected. -/
lemma documented_ofText {readers : Readers} (h : readers.OnlyMalformed) (path text : String) :
    FailsWithin (·.isDocumented = true) (ofText readers path text) :=
  (documented_valueOfText h path text).bind (documented_ofValue path)

/-- Files with a text, and files without bytes, fail as documented where settings are expected. -/
lemma documented_ofFile {readers : Readers} (h : readers.OnlyMalformed) (path : String)
    {file : SourceFile} (hfile : file.IsText) :
    FailsWithin (·.isDocumented = true) (ofFile readers path file) := by
  cases file with
  | missing => exact FailsWithin.error_iff.mpr rfl
  | directory => exact FailsWithin.error_iff.mpr rfl
  | content bytes =>
      rw [ofFile]
      cases htext : SourceFile.text? bytes with
      | none => exact absurd (hfile bytes rfl) (SourceFile.text?_eq_none_iff.mp htext)
      | some text => exact documented_ofText h path text

end Settings

/-! ### Routes -/

namespace Manifest

/-- The routes of a row of values. -/
lemma documented_routesFrom (index : Nat) (items : List Value) :
    FailsWithin (·.isDocumented = true) (routesFrom index items) := by
  induction items generalizing index with
  | nil => exact FailsWithin.ok _ _
  | cons item rest ih =>
      rw [routesFrom]
      cases Route.read item with
      | rejected first more => exact FailsWithin.error_iff.mpr rfl
      | accepted route => exact (ih (index + 1)).map _

/-- The routes of a value. -/
lemma documented_ofValue (value : Value) :
    FailsWithin (·.isDocumented = true) (ofValue value) := by
  unfold ofValue
  split
  · exact documented_routesFrom 0 _
  · exact FailsWithin.error_iff.mpr rfl

/-- The value of a text; where no format is told, a text that is malformed in one format is read in
the other one. -/
lemma documented_valueOfText {readers : Readers} (h : readers.OnlyMalformed)
    (format : Option Format) (text : String) :
    FailsWithin (·.isDocumented = true) (valueOfText readers format text) := by
  have hmalformed : ∀ (format : Format) (fault : Fault), fault = .malformed →
      (failureOf format fault).isDocumented = true := by
    rintro format _ rfl
    rfl
  unfold valueOfText
  split
  · exact (h.yaml text).mapError (hmalformed .yaml)
  · exact (h.json text).mapError (hmalformed .json)
  · split
    · exact (h.yaml text).mapError (hmalformed .yaml)
    · exact (h.json text).mapError (hmalformed .json)

/-- **Texts fail as documented** where routes are expected. -/
lemma documented_ofText {readers : Readers} (h : readers.OnlyMalformed) (path text : String) :
    FailsWithin (·.isDocumented = true) (ofText readers path text) := by
  unfold ofText
  split
  · exact FailsWithin.error_iff.mpr rfl
  · exact (documented_valueOfText h _ text).bind documented_ofValue

/-- Files with a text, and files without bytes, fail as documented where routes are expected. -/
lemma documented_ofFile {readers : Readers} (h : readers.OnlyMalformed) (path : String)
    {file : SourceFile} (hfile : file.IsText) :
    FailsWithin (·.isDocumented = true) (ofFile readers path file) := by
  cases file with
  | missing => exact FailsWithin.error_iff.mpr rfl
  | directory => exact FailsWithin.error_iff.mpr rfl
  | content bytes =>
      rw [ofFile]
      cases htext : SourceFile.text? bytes with
      | none => exact absurd (hfile bytes rfl) (SourceFile.text?_eq_none_iff.mp htext)
      | some text => exact documented_ofText h path text

end Manifest

/-! ### Files -/

namespace Readers

/-- Bytes that are no text are an undocumented failure, for settings as for routes. -/
lemma ofFile_of_not_isText {file : SourceFile} (h : ¬file.IsText) (readers : Readers)
    (path : String) :
    Settings.ofFile readers path file = .error .notText ∧
      Manifest.ofFile readers path file = .error .notText := by
  obtain ⟨bytes, hfile⟩ := not_forall.mp h
  obtain ⟨rfl, hbytes⟩ := Classical.not_imp.mp hfile
  have hnone := SourceFile.text?_eq_none_iff.mpr hbytes
  constructor
  · simp only [Settings.ofFile, hnone]
  · simp only [Manifest.ofFile, hnone]

/-- **Loading fails as documented exactly for files whose bytes are a text.** For readers that give
a value or find the text malformed, whatever stands under a name and whatever its suffix is:
settings either load or fail with a documented failure exactly if the file is missing, is a
directory or has the bytes of a text, and so do routes. For any other bytes both fail with the one
failure that says so. -/
theorem documented_iff_isText {readers : Readers} (h : readers.OnlyMalformed) (path : String)
    (file : SourceFile) :
    (FailsWithin (·.isDocumented = true) (Settings.ofFile readers path file) ↔ file.IsText) ∧
      (FailsWithin (·.isDocumented = true) (Manifest.ofFile readers path file) ↔ file.IsText) ∧
      (¬file.IsText → Settings.ofFile readers path file = .error .notText ∧
        Manifest.ofFile readers path file = .error .notText) := by
  have hother : ¬file.IsText → Settings.ofFile readers path file = .error .notText ∧
      Manifest.ofFile readers path file = .error .notText :=
    fun hfile => ofFile_of_not_isText hfile readers path
  refine ⟨?_, ?_, hother⟩
  · exact failsWithin_iff_isText (by decide) (Settings.documented_ofFile h path)
      fun hfile => (hother hfile).1
  · exact failsWithin_iff_isText (by decide) (Manifest.documented_ofFile h path)
      fun hfile => (hother hfile).2

/-- The readers of this library, where every text without a value counts as malformed. -/
def plain : Readers :=
  ⟨fun text => (Json.read text).mapError fun _ => .malformed,
    fun text => (Yaml.read text).mapError fun _ => .malformed⟩

/-- A text without a value counts as malformed. -/
lemma onlyMalformed_plain : plain.OnlyMalformed :=
  ⟨fun _ => FailsWithin.mapError (Q := fun _ => True) (fun _ _ => trivial) fun _ _ => rfl,
    fun _ => FailsWithin.mapError (Q := fun _ => True) (fun _ _ => trivial) fun _ _ => rfl⟩

/-- An empty list whose last byte is the first one of a longer character. -/
def cutOff : SourceFile :=
  .content ⟨#[0x5b, 0x5d, 0xc3]⟩

/-- **A file that is cut off** inside a character fails in an undocumented way, and one with a
route that is a number fails as documented. -/
theorem cutOff_documented_iff :
    ¬FailsWithin (·.isDocumented = true) (Manifest.ofFile plain "routes.json" cutOff) ∧
      FailsWithin (·.isDocumented = true)
        (Manifest.ofFile plain "routes.json" (.content "[7]".toUTF8)) := by
  have hcut : ¬cutOff.IsText := by
    intro h
    have hvalid := ByteArray.validateUTF8_eq_true_iff.mpr (h _ rfl)
    revert hvalid
    decide +kernel
  have htext : (SourceFile.content "[7]".toUTF8).IsText := by
    rintro _ ⟨⟩
    exact ByteArray.validateUTF8_eq_true_iff.mp (by decide +kernel)
  obtain ⟨-, hiff, -⟩ := documented_iff_isText onlyMalformed_plain "routes.json" cutOff
  obtain ⟨-, hiff', -⟩ := documented_iff_isText onlyMalformed_plain "routes.json"
    (.content "[7]".toUTF8)
  exact ⟨mt hiff.mp hcut, hiff'.mpr htext⟩

/-- **A byte that starts no character**: settings and routes fail with a failure that is not
documented, although the readers only find texts malformed. -/
theorem strayByte_undocumented :
    plain.OnlyMalformed ∧
      Settings.ofFile plain "settings.yaml" (.content ⟨#[0xff]⟩) = .error .notText ∧
      SettingsFailure.notText.isDocumented = false ∧
      Manifest.ofFile plain "routes.json" (.content ⟨#[0xff]⟩) = .error .notText ∧
      ManifestFailure.notText.isDocumented = false := by
  have hbytes : SourceFile.text? ⟨#[0xff]⟩ = none := by decide +kernel
  refine ⟨onlyMalformed_plain, ?_, rfl, ?_, rfl⟩
  · simp only [Settings.ofFile, hbytes]
  · simp only [Manifest.ofFile, hbytes]

end Readers

end RouteAtlas
