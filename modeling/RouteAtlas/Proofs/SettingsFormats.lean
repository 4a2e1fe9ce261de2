/-
Settings from files of two formats.

A file of either format holds a value, and settings are read from the value.  Before that, one format
takes every value that counts as absent for an empty mapping: not only the null value, which stands
for an empty file, but also `false`, zero, an empty text and an empty list.  So a value that is no
mapping can be refused in one format and give settings in the other.

* `SettingsFailure.withPath`, `SameOutcome`: failures and outcomes but for the name of the file.
* `SourceFile.Holds`: the value of a file, as a reader gives it.
* `Settings.ofFile_of_holds`, `Settings.ofFile_yaml_of_holds`: the settings of the value of a file.
* `Settings.ofFile_sameOutcome_iff`: **the formats agree exactly on mappings and on values that count
  as present**.
-/
import Mathlib.Data.List.Basic
import RouteAtlas.Settings.File

namespace RouteAtlas

/-! ### Outcomes but for the name of the file -/

/-- The same failure, for a file of another name. -/
def SettingsFailure.withPath (path : String) : SettingsFailure → SettingsFailure
  | notFound _ => notFound path
  | notText => notText
  | malformed _ format => malformed path format
  | unreadable fault => unreadable fault
  | notMapping _ given => notMapping path given
  | invalid _ first more => invalid path first more

/-- **The same outcome but for the names of the files**: the same settings, or the same failure with
the same parts. -/
def SameOutcome (x y : Except SettingsFailure Settings) : Prop :=
  x.mapError (·.withPath "") = y.mapError (·.withPath "")

/-- A failure is not the same outcome as settings. -/
lemma not_sameOutcome {x y : Except SettingsFailure Settings} {failure : SettingsFailure}
    {settings : Settings} (hx : x = .error failure) (hy : y = .ok settings) :
    ¬SameOutcome x y := by
  subst hx hy
  rintro ⟨⟩

/-- **A file holds a value**: its bytes are a text, and a reader gives the value for it. -/
def SourceFile.Holds (read : String → Except Fault Value) (file : SourceFile) (value : Value) :
    Prop :=
  ∃ bytes text, file = .content bytes ∧ text? bytes = some text ∧ read text = .ok value

/-- The text of a file holds what a reader gives for it. -/
lemma SourceFile.holds_of_text {read : String → Except Fault Value} {text : String} {value : Value}
    (hread : read text = .ok value) (hbytes : text? text.toUTF8 = some text) :
    Holds read (.content text.toUTF8) value :=
  ⟨text.toUTF8, text, rfl, hbytes, hread⟩

namespace Settings

variable {readers : Readers} {path path' : String} {file file' : SourceFile} {value : Value}

/-- Settings of a value do not depend on the name of the file, but for the failures. -/
lemma mapError_withPath_ofValue (path path' : String) (value : Value) :
    (ofValue path value).mapError (·.withPath path') = ofValue path' value := by
  cases value with
  | map entries =>
      rw [ofValue, ofValue]
      cases read entries <;> rfl
  | _ => rfl

/-- The settings of one value from two files are the same outcome. -/
lemma sameOutcome_ofValue (path path' : String) (value : Value) :
    SameOutcome (ofValue path value) (ofValue path' value) := by
  rw [SameOutcome, mapError_withPath_ofValue, mapError_withPath_ofValue]

/-- A value that is no mapping is refused. -/
lemma ofValue_of_not_map (path : String) (hvalue : ∀ entries, value ≠ .map entries) :
    ofValue path value = .error (.notMapping path value.typeName) := by
  cases value with
  | map entries => exact absurd rfl (hvalue entries)
  | _ => rfl

/-! ### The settings of the value of a file -/

/-- Settings are read from the value of a file. -/
lemma ofFile_of_holds (hformat : SourceFile.formatOf? path ≠ some .yaml)
    (hfile : file.Holds readers.json value) : ofFile readers path file = ofValue path value := by
  obtain ⟨bytes, text, rfl, htext, hread⟩ := hfile
  have hvalue : valueOfText readers path text = .ok value := by
    unfold valueOfText
    split
    · next hyaml => exact absurd hyaml hformat
    · rw [hread]
      rfl
  rw [ofFile, htext]
  show (valueOfText readers path text >>= ofValue path) = _
  rw [hvalue]
  rfl

/-- In the other format they are read from the value if it counts as present, and else from an empty
mapping. -/
lemma ofFile_yaml_of_holds (hformat : SourceFile.formatOf? path = some .yaml)
    (hfile : file.Holds readers.yaml value) :
    ofFile readers path file = ofValue path (if value.truthy then value else .map []) := by
  obtain ⟨bytes, text, rfl, htext, hread⟩ := hfile
  have hvalue : valueOfText readers path text =
      .ok (if value.truthy then value else .map []) := by
    unfold valueOfText
    split
    · rw [hread]
      rfl
    · next hother => exact absurd hformat hother
  rw [ofFile, htext]
  show (valueOfText readers path text >>= ofValue path) = _
  rw [hvalue]
  rfl

/-- No settings at all are the settings of an empty mapping. -/
lemma ofValue_empty (path : String) : ofValue path (.map []) = .ok {} := rfl

/-- A mapping that counts as absent is empty. -/
lemma eq_map_nil_of_not_truthy {entries : List (Value × Value)}
    (hvalue : (Value.map entries).truthy = false) : Value.map entries = .map [] := by
  cases entries with
  | nil => rfl
  | cons entry rest => cases hvalue

/-- **The formats agree exactly on mappings and on values that count as present.** Let two files, one
of them with the suffix of the second format and the other without, hold one value. They give the
same settings, or fail alike, exactly if the value is a mapping or counts as present; such a value
is refused in both formats if it is no mapping. Any other value is refused in the first format and
gives the standard settings in the second. -/
theorem ofFile_sameOutcome_iff (hformat : SourceFile.formatOf? path ≠ some .yaml)
    (hformat' : SourceFile.formatOf? path' = some .yaml) (hfile : file.Holds readers.json value)
    (hfile' : file'.Holds readers.yaml value) :
    (SameOutcome (ofFile readers path file) (ofFile readers path' file') ↔
      value.truthy = true ∨ ∃ entries, value = .map entries) ∧
    ((∀ entries, value ≠ .map entries) →
      ofFile readers path file = .error (.notMapping path value.typeName) ∧
        ofFile readers path' file' =
          if value.truthy then .error (.notMapping path' value.typeName) else .ok {}) := by
  rw [ofFile_of_holds hformat hfile, ofFile_yaml_of_holds hformat' hfile']
  have hrefused : (∀ entries, value ≠ .map entries) →
      ofValue path value = .error (.notMapping path value.typeName) ∧
        ofValue path' (if value.truthy then value else .map []) =
          if value.truthy then .error (.notMapping path' value.typeName) else .ok {} := by
    intro hvalue
    refine ⟨ofValue_of_not_map path hvalue, ?_⟩
    split
    · exact ofValue_of_not_map path' hvalue
    · exact ofValue_empty path'
  refine ⟨⟨fun hsame => ?_, ?_⟩, hrefused⟩
  · by_contra hneither
    obtain ⟨hfalsy, hmapping⟩ := not_or.mp hneither
    obtain ⟨herror, hok⟩ := hrefused (not_exists.mp hmapping)
    exact not_sameOutcome herror (hok.trans (if_neg hfalsy)) hsame
  · rintro (htruthy | ⟨entries, rfl⟩)
    · rw [if_pos htruthy]
      exact sameOutcome_ofValue path path' value
    · cases htruthy : (Value.map entries).truthy with
      | true => exact sameOutcome_ofValue path path' _
      | false =>
          rw [eq_map_nil_of_not_truthy htruthy]
          exact sameOutcome_ofValue path path' _

/-- Whether a reader finds a mapping with a title and nothing else. -/
def findsTitle (title : String) : Except Fault Value → Bool
  | .ok (.map [(.text "title", .text found)]) => found == title
  | _ => false

/-- A reader that finds a title gives a mapping. -/
lemma exists_of_findsTitle {title : String} {found : Except Fault Value}
    (h : findsTitle title found = true) : found = .ok (.map [(.text "title", .text title)]) := by
  unfold findsTitle at h
  split at h
  · rw [beq_iff_eq.mp h]
  · cases h

/-- **A title in both formats** gives the same settings. -/
theorem titleFiles_sameOutcome :
    SameOutcome
      (ofFile .standard "settings.json" (.content "\x7b\"title\": \"Shop\"\x7d".toUTF8))
      (ofFile .standard "settings.yml" (.content "title: Shop".toUTF8)) := by
  have hjson : Json.read "\x7b\"title\": \"Shop\"\x7d" =
      .ok (.map [(.text "title", .text "Shop")]) := exists_of_findsTitle (by decide +kernel)
  have hyaml : Yaml.read "title: Shop" = .ok (.map [(.text "title", .text "Shop")]) :=
    exists_of_findsTitle (by decide +kernel)
  have hfile : SourceFile.Holds Readers.standard.json _ _ :=
    SourceFile.holds_of_text hjson (by decide +kernel)
  have hfile' : SourceFile.Holds Readers.standard.yaml _ _ :=
    SourceFile.holds_of_text hyaml (by decide +kernel)
  have hformat : SourceFile.formatOf? "settings.json" ≠ some .yaml := by decide +kernel
  have hformat' : SourceFile.formatOf? "settings.yml" = some .yaml := by decide +kernel
  obtain ⟨hiff, -⟩ := ofFile_sameOutcome_iff hformat hformat' hfile hfile'
  exact hiff.mpr (Or.inr ⟨_, rfl⟩)

/-- **An empty list in both formats** is refused in one and gives the standard settings in the
other. -/
theorem emptyList_outcomes :
    SourceFile.Holds Readers.standard.json (.content "[]".toUTF8) (.list []) ∧
      SourceFile.Holds Readers.standard.yaml (.content "[]".toUTF8) (.list []) ∧
      ofFile .standard "settings.json" (.content "[]".toUTF8) =
        .error (.notMapping "settings.json" "list") ∧
      ofFile .standard "settings.yaml" (.content "[]".toUTF8) = .ok {} ∧
      ¬SameOutcome (ofFile .standard "settings.json" (.content "[]".toUTF8))
        (ofFile .standard "settings.yaml" (.content "[]".toUTF8)) := by
  have hfile : SourceFile.Holds Readers.standard.json (.content "[]".toUTF8) (.list []) :=
    SourceFile.holds_of_text (by with_unfolding_all rfl) (by decide +kernel)
  have hfile' : SourceFile.Holds Readers.standard.yaml (.content "[]".toUTF8) (.list []) :=
    SourceFile.holds_of_text (by with_unfolding_all rfl) (by decide +kernel)
  have herror : ofFile .standard "settings.json" (.content "[]".toUTF8) =
      .error (.notMapping "settings.json" "list") := ofFile_of_holds (by decide +kernel) hfile
  have hok : ofFile .standard "settings.yaml" (.content "[]".toUTF8) = .ok {} :=
    ofFile_yaml_of_holds (by decide +kernel) hfile'
  exact ⟨hfile, hfile', herror, hok, not_sameOutcome herror hok⟩

end Settings

end RouteAtlas
