/-
Names that are written with the other separator.

A namespace is written with dots or with backslashes, and components do not tell the two apart. So
what a name means inside a class should lead to the same component if the class, its imports and the
name are all written the other way. It does for a class with a namespace. The separator of a class
without one is a dot, however its imports are written, and its aliases are not found in front of a
backslash.

* `QualifiedName.backslashed`, `ClassInfo.backslashed`: names and classes with a backslash for every
  dot; `QualifiedName.segments_backslashed`: **the segments stay**.
* `ClassInfo.resolve_backslashed`: inside a class with a namespace a name respelled means the name
  respelled.
* `ClassInfo.LosesImport`: a class without a namespace of which a respelled name misses an import;
  `ClassInfo.segments_resolve_backslashed_iff`: the two spellings mean the same otherwise.
* `Registry.resolve_backslashed_iff`: **both spellings lead to one component**, unless an import
  gets lost.
-/
import Mathlib.Data.List.TakeWhile
import RouteAtlas.Proofs.ClassName

namespace RouteAtlas

/-! ### Cutting and changing characters -/

namespace Text

section Mapped

variable {f : Char → Char} {p q : Char → Bool} {cs : List Char}

/-- Taking characters of a changed text is changing those that are taken. -/
lemma takeWhile_map_of_mem (h : ∀ c ∈ cs, q (f c) = p c) :
    (cs.map f).takeWhile q = (cs.takeWhile p).map f := by
  induction cs with
  | nil => rfl
  | cons c rest ih =>
      have hrest := ih fun d hd => h d (List.mem_cons_of_mem _ hd)
      rw [List.map_cons, List.takeWhile_cons, List.takeWhile_cons, h c List.mem_cons_self, hrest]
      split <;> rfl

/-- Dropping characters of a changed text leaves what dropping them before the change leaves. -/
lemma dropWhile_map_of_mem (h : ∀ c ∈ cs, q (f c) = p c) :
    (cs.map f).dropWhile q = (cs.dropWhile p).map f := by
  induction cs with
  | nil => rfl
  | cons c rest ih =>
      have hrest := ih fun d hd => h d (List.mem_cons_of_mem _ hd)
      rw [List.map_cons, List.dropWhile_cons, List.dropWhile_cons, h c List.mem_cons_self, hrest]
      split <;> rfl

/-- A changed text is cut where the text is. -/
lemma cutFirst?_map_of_mem {sep sep' : Char} (h : ∀ c ∈ cs, (f c != sep') = (c != sep)) :
    cutFirst? sep' (cs.map f) =
      (cutFirst? sep cs).map fun cut => (cut.1.map f, cut.2.map f) := by
  rw [cutFirst?, cutFirst?, dropWhile_map_of_mem h, takeWhile_map_of_mem h]
  cases cs.dropWhile (· != sep) <;> rfl

/-- A changed text is cut from behind where the text is. -/
lemma cutLast?_map_of_mem {sep sep' : Char} (h : ∀ c ∈ cs, (f c != sep') = (c != sep)) :
    cutLast? sep' (cs.map f) =
      (cutLast? sep cs).map fun cut => (cut.1.map f, cut.2.map f) := by
  have hreverse : ∀ c ∈ cs.reverse, (f c != sep') = (c != sep) := fun c hc =>
    h c (List.mem_reverse.mp hc)
  rw [cutLast?, cutLast?, ← List.map_reverse, cutFirst?_map_of_mem hreverse]
  cases cutFirst? sep cs.reverse with
  | none => rfl
  | some cut => simp only [Option.map_some, List.map_reverse]

/-- **A change of separators into separators keeps the segments.** -/
lemma segments_map (hp : ∀ c, p (f c) = p c) (hf : ∀ c, p c = false → f c = c) (cs : List Char) :
    segments p (cs.map f) = segments p cs := by
  refine segments_of_forall₂ (List.forall₂_map_right_iff.mpr (List.forall₂_same.mpr fun c _ => ?_))
  cases hc : p c with
  | true => exact Or.inr ⟨rfl, (hp c).trans hc⟩
  | false => exact Or.inl (hf c hc)

end Mapped

end Text

/-! ### Two spellings -/

namespace QualifiedName

/-- **A name that is written with dots**, without backslashes. -/
def IsDotted (name : String) : Prop :=
  '\\' ∉ name.toList

instance : DecidablePred IsDotted := fun name =>
  inferInstanceAs (Decidable ('\\' ∉ name.toList))

/-- A backslash for a dot. -/
def backslash (c : Char) : Char :=
  if c = '.' then '\\' else c

/-- A name with a backslash for every dot. -/
def backslashed (name : String) : String :=
  String.ofList (name.toList.map backslash)

/-- A dot ends a segment. -/
lemma segments_of_append {name : String} {first rest : List Char}
    (h : name.toList = first ++ '.' :: rest) :
    segments name = segments (String.ofList first) ++ segments (String.ofList rest) := by
  have hsep : isSeparator '.' = true := rfl
  simp only [segments, h, String.toList_ofList, Text.segments_append hsep, List.map_append]

/-- A text without separators that says something is one segment. -/
lemma segments_ofList {cs : List Char} (hne : cs ≠ []) (h : ∀ d ∈ cs, isSeparator d = false) :
    segments (String.ofList cs) = [String.ofList cs] := by
  rw [segments, String.toList_ofList, Text.segments_of_forall hne h]
  rfl

/-- Only a separator is changed. -/
lemma backslash_of_ne {c : Char} (h : c ≠ '.') : backslash c = c :=
  if_neg h

/-- Separators are changed into separators. -/
lemma isSeparator_backslash (c : Char) : isSeparator (backslash c) = isSeparator c := by
  by_cases h : c = '.'
  · subst h
    rfl
  · rw [backslash_of_ne h]

/-- Texts without dots are not changed. -/
lemma map_backslash {cs : List Char} (h : '.' ∉ cs) : cs.map backslash = cs := by
  refine (List.map_congr_left fun c hc => ?_).trans (List.map_id cs)
  exact backslash_of_ne fun hdot => h (hdot ▸ hc)

/-- A changed text has no dots. -/
lemma not_mem_map_backslash (cs : List Char) : '.' ∉ cs.map backslash := by
  intro h
  obtain ⟨c, -, hc⟩ := List.mem_map.mp h
  by_cases hdot : c = '.'
  · rw [hdot] at hc
    exact absurd hc (by decide)
  · exact hdot ((backslash_of_ne hdot).symm.trans hc)

/-- Names without dots are not changed. -/
lemma backslashed_of_not_mem {name : String} (h : '.' ∉ name.toList) : backslashed name = name := by
  rw [backslashed, map_backslash h, String.ofList_toList]

/-- A name is changed character by character. -/
lemma backslashed_ofList (cs : List Char) :
    backslashed (String.ofList cs) = String.ofList (cs.map backslash) := by
  rw [backslashed, String.toList_ofList]

/-- Two names side by side are changed one by one. -/
lemma backslashed_append (name other : String) :
    backslashed (name ++ other) = backslashed name ++ backslashed other := by
  rw [backslashed, String.toList_append, List.map_append, String.ofList_append]
  rfl

/-- The change leaves something of every name that says something. -/
lemma backslashed_eq_empty_iff {name : String} : backslashed name = "" ↔ name = "" := by
  rw [← String.toList_eq_nil_iff, backslashed, String.toList_ofList, List.map_eq_nil_iff,
    String.toList_eq_nil_iff]

/-- **The segments stay.** -/
lemma segments_backslashed (name : String) : segments (backslashed name) = segments name := by
  have hfixed : ∀ c, isSeparator c = false → backslash c = c := by
    intro c hc
    refine backslash_of_ne ?_
    rintro rfl
    exact absurd hc (by decide)
  rw [segments, segments, backslashed, String.toList_ofList,
    Text.segments_map isSeparator_backslash hfixed]

/-- Where no backslash stood, a backslash of the changed text was a dot. -/
lemma backslash_beq {cs : List Char} (h : '\\' ∉ cs) :
    ∀ c ∈ cs, (backslash c == '\\') = (c == '.') := by
  intro c hc
  by_cases hdot : c = '.'
  · subst hdot
    rfl
  · have hslash : c ≠ '\\' := fun heq => h (heq ▸ hc)
    rw [backslash_of_ne hdot, beq_false_of_ne hslash, beq_false_of_ne hdot]

/-- Where no backslash stood, another character of the changed text was another one than a dot. -/
lemma backslash_bne {cs : List Char} (h : '\\' ∉ cs) :
    ∀ c ∈ cs, (backslash c != '\\') = (c != '.') := by
  intro c hc
  rw [bne, bne, backslash_beq h c hc]

end QualifiedName

open QualifiedName

namespace ClassInfo

/-- **A class that is written with dots**: its name and the names that it imports have no
backslashes, and its aliases have no separators. -/
structure IsDotted (c : ClassInfo) : Prop where
  name : QualifiedName.IsDotted c.name
  targets : ∀ entry ∈ c.imports, QualifiedName.IsDotted entry.2
  aliases : ∀ short ∈ c.imports.names, ∀ d ∈ short.toList, isSeparator d = false

/-- A class with a backslash for every dot in its name and in the names that it imports. -/
def backslashed (c : ClassInfo) : ClassInfo :=
  { c with
    name := QualifiedName.backslashed c.name
    imports := c.imports.map fun entry => (entry.1, QualifiedName.backslashed entry.2) }

variable {c : ClassInfo} {name : String}

/-- An alias stands for the name that it stood for, changed. -/
lemma get?_imports_backslashed (c : ClassInfo) (short : String) :
    c.backslashed.imports.get? short = (c.imports.get? short).map QualifiedName.backslashed :=
  Listing.get?_map QualifiedName.backslashed c.imports short

/-- The separator of a class that is written with dots is a dot. -/
lemma separator_of_isDotted (hc : QualifiedName.IsDotted c.name) : c.separator = '.' := by
  rw [separator_eq, if_neg hc]

/-- The separator of a class with a namespace changes. -/
lemma separator_backslashed (h : '.' ∈ c.name.toList) : c.backslashed.separator = '\\' := by
  have hmem : '\\' ∈ c.backslashed.name.toList := by
    rw [backslashed, QualifiedName.backslashed, String.toList_ofList]
    exact List.mem_map.mpr ⟨'.', h, rfl⟩
  rw [separator_eq, if_pos hmem]

/-! ### Classes with a namespace -/

/-- The namespace changes with the class. -/
lemma scope_backslashed (hc : QualifiedName.IsDotted c.name) (h : '.' ∈ c.name.toList) :
    c.backslashed.scope = QualifiedName.backslashed c.scope := by
  have hname : c.backslashed.name.toList = c.name.toList.map backslash := String.toList_ofList
  rw [scope, scope, separator_backslashed h, separator_of_isDotted hc, hname,
    Text.cutLast?_map_of_mem (backslash_bne hc)]
  cases Text.cutLast? '.' c.name.toList with
  | none => rfl
  | some cut => simp only [Option.map_some, QualifiedName.backslashed, String.toList_ofList]

/-- A name of the namespace changes with the class. -/
lemma inScope_backslashed (hc : QualifiedName.IsDotted c.name) (h : '.' ∈ c.name.toList)
    (name : String) :
    c.backslashed.inScope (QualifiedName.backslashed name) =
      QualifiedName.backslashed (c.inScope name) := by
  rw [inScope, inScope, scope_backslashed hc h, separator_backslashed h, separator_of_isDotted hc]
  by_cases hscope : c.scope = ""
  · rw [if_pos (backslashed_eq_empty_iff.mpr hscope), if_pos hscope]
  · rw [if_neg (mt backslashed_eq_empty_iff.mp hscope), if_neg hscope, backslashed_append,
      backslashed_append]
    rfl

/-- **Inside a class with a namespace a name respelled means the name respelled.** -/
theorem resolve_backslashed (hc : c.IsDotted) (h : '.' ∈ c.name.toList)
    (hname : QualifiedName.IsDotted name) :
    c.backslashed.resolve (QualifiedName.backslashed name) =
      QualifiedName.backslashed (c.resolve name) := by
  have hlist : (QualifiedName.backslashed name).toList = name.toList.map backslash :=
    String.toList_ofList
  have habsolute : (name.toList.map backslash).head? = some '\\' ↔
      name.toList.head? = some '.' := by
    cases hcs : name.toList with
    | nil => simp
    | cons d rest =>
        have hd : d ∈ name.toList := hcs ▸ List.mem_cons_self
        have hbeq := backslash_beq hname d hd
        rw [List.map_cons, List.head?_cons, List.head?_cons, Option.some_inj, Option.some_inj,
          ← beq_iff_eq, hbeq, beq_iff_eq]
  have hfirst : (name.toList.takeWhile (· != '.')).map backslash =
      name.toList.takeWhile (· != '.') := by
    refine map_backslash fun hdot => ?_
    exact absurd (List.mem_takeWhile_imp hdot) (by decide)
  rw [resolve_eq, resolve_eq, separator_backslashed h, separator_of_isDotted hc.name, hlist,
    Text.dropWhile_map_of_mem (backslash_beq hname),
    Text.takeWhile_map_of_mem (backslash_bne hname),
    Text.dropWhile_map_of_mem (backslash_bne hname), hfirst, get?_imports_backslashed]
  by_cases hdot : name.toList.head? = some '.'
  · rw [if_pos (habsolute.mpr hdot), if_pos hdot, backslashed_ofList]
  · rw [if_neg (mt habsolute.mp hdot), if_neg hdot]
    cases c.imports.get? (String.ofList (name.toList.takeWhile (· != '.'))) with
    | some full =>
        simp only [Option.map_some]
        rw [backslashed_append, backslashed_ofList]
    | none => exact inScope_backslashed hc.name h name

/-! ### Classes without a namespace -/

/-- **A class without a namespace loses an import** if it is respelled: of several segments of a
name the first is an alias, and of something else than itself. -/
def LosesImport (c : ClassInfo) (name : String) : Prop :=
  '.' ∉ c.name.toList ∧ ∃ first rest full, name.toList = first ++ '.' :: rest ∧ first ≠ [] ∧
    '.' ∉ first ∧ c.imports.get? (String.ofList first) = some full ∧
    segments full ≠ [String.ofList first]

/-- A class without a namespace loses an import by the text up to the first dot. -/
lemma losesImport_iff {first rest : List Char} (hglobal : '.' ∉ c.name.toList)
    (hname : name.toList = first ++ '.' :: rest) (hfirst : '.' ∉ first) :
    c.LosesImport name ↔ first ≠ [] ∧ ∃ full, c.imports.get? (String.ofList first) = some full ∧
      segments full ≠ [String.ofList first] := by
  constructor
  · rintro ⟨-, first', rest', full, hname', hne, hfirst', hget, hother⟩
    have hunique : first' = first := by
      have htake : (first' ++ '.' :: rest').takeWhile (· != '.') = first' :=
        Text.takeWhile_of_append hfirst'
      rw [← htake, ← hname', hname, Text.takeWhile_of_append hfirst]
    subst hunique
    exact ⟨hne, full, hget, hother⟩
  · rintro ⟨hne, full, hget, hother⟩
    exact ⟨hglobal, first, rest, full, hname, hne, hfirst, hget, hother⟩

section Global

variable (hc : c.IsDotted) (hglobal : '.' ∉ c.name.toList)
include hc hglobal

/-- The separator of a class without a namespace stays a dot. -/
lemma separator_backslashed_of_not_mem : c.backslashed.separator = '.' := by
  have hname : c.backslashed.name = c.name := backslashed_of_not_mem hglobal
  rw [separator, hname, ← separator, separator_of_isDotted hc.name]

/-- A name of several segments that is written with backslashes means itself, whatever its first
segment is an alias of. -/
lemma resolve_backslashed_of_mem (hdot : '.' ∈ name.toList) :
    c.backslashed.resolve (QualifiedName.backslashed name) = QualifiedName.backslashed name := by
  have hsep := separator_backslashed_of_not_mem hc hglobal
  have hname : c.backslashed.name = c.name := backslashed_of_not_mem hglobal
  have hnone : c.backslashed.imports.get? (QualifiedName.backslashed name) = none := by
    rw [get?_imports_backslashed, Option.map_eq_none_iff]
    refine Listing.get?_eq_none_iff.mpr fun hmem => ?_
    have hslash : '\\' ∈ (QualifiedName.backslashed name).toList := by
      rw [QualifiedName.backslashed, String.toList_ofList]
      exact List.mem_map.mpr ⟨'.', hdot, rfl⟩
    exact absurd (hc.aliases _ hmem _ hslash) (by decide)
  rw [resolve_of_not_mem, hnone, Option.getD_none, inScope_of_not_mem]
  · rwa [hsep, hname]
  · rw [hsep, QualifiedName.backslashed, String.toList_ofList]
    exact not_mem_map_backslash _

/-- A name of one segment means the same in both spellings. -/
lemma segments_resolve_of_not_mem (hdot : '.' ∉ name.toList) :
    segments (c.backslashed.resolve name) = segments (c.resolve name) := by
  have hsep := separator_of_isDotted hc.name
  have hsep' := separator_backslashed_of_not_mem hc hglobal
  have hname : c.backslashed.name = c.name := backslashed_of_not_mem hglobal
  rw [resolve_of_not_mem (hsep' ▸ hdot), resolve_of_not_mem (hsep ▸ hdot),
    inScope_of_not_mem (by rwa [hsep', hname]), inScope_of_not_mem (by rwa [hsep]),
    get?_imports_backslashed]
  cases c.imports.get? name with
  | none => rfl
  | some full => exact segments_backslashed full

/-- A name of several segments that is written with dots means itself, unless its first segment is
an alias of something else. -/
lemma segments_resolve_of_mem (hdot : '.' ∈ name.toList) :
    segments (c.resolve name) = segments name ↔ ¬c.LosesImport name := by
  have hsep := separator_of_isDotted hc.name
  obtain ⟨first, rest, hname, hfirst⟩ := List.eq_append_cons_of_mem hdot
  rw [losesImport_iff hglobal hname hfirst]
  cases first with
  | nil =>
      have hhead : name.toList.head? = some c.separator := by
        rw [hname, hsep]
        rfl
      exact iff_of_true (segments_resolve_of_absolute hhead) fun h => h.1 rfl
  | cons d others =>
      rw [resolve_of_append (hsep ▸ hname) (List.cons_ne_nil d others) (hsep ▸ hfirst), hsep]
      cases hget : c.imports.get? (String.ofList (d :: others)) with
      | none => simp [inScope_of_not_mem (hsep ▸ hglobal)]
      | some full =>
          have hmem : String.ofList (d :: others) ∈ c.imports.names := by
            by_contra hnot
            rw [Listing.get?_eq_none_iff.mpr hnot] at hget
            cases hget
          have halias := segments_ofList (List.cons_ne_nil d others) (by
            have hplain := hc.aliases _ hmem
            rwa [String.toList_ofList] at hplain)
          have hfull : segments (full ++ String.ofList ('.' :: rest)) =
              segments full ++ segments (String.ofList rest) := by
            have hjoined : (full ++ String.ofList ('.' :: rest)).toList =
                full.toList ++ '.' :: rest := by
              rw [String.toList_append, String.toList_ofList]
            rw [segments_of_append hjoined, String.ofList_toList]
          dsimp only
          rw [hfull, segments_of_append hname, halias, List.append_cancel_right_eq]
          constructor
          · rintro hsame ⟨-, other, hother, hne⟩
            cases hother
            exact hne hsame
          · intro hkept
            by_contra hne
            exact hkept ⟨List.cons_ne_nil d others, full, rfl, hne⟩

end Global

/-- **The two spellings mean the same inside a class**, unless it has no namespace and loses an
import. -/
theorem segments_resolve_backslashed_iff (hc : c.IsDotted) (hname : QualifiedName.IsDotted name) :
    segments (c.backslashed.resolve (QualifiedName.backslashed name)) =
      segments (c.resolve name) ↔ ¬c.LosesImport name := by
  by_cases hscope : '.' ∈ c.name.toList
  · refine iff_of_true ?_ fun h => h.1 hscope
    rw [resolve_backslashed hc hscope hname, segments_backslashed]
  · by_cases hdot : '.' ∈ name.toList
    · rw [resolve_backslashed_of_mem hc hscope hdot, segments_backslashed, eq_comm,
        segments_resolve_of_mem hc hscope hdot]
    · refine iff_of_true ?_ ?_
      · rw [backslashed_of_not_mem hdot, segments_resolve_of_not_mem hc hscope hdot]
      · rintro ⟨-, first, rest, -, hlist, -⟩
        exact hdot (by simp [hlist])

end ClassInfo

/-! ### Components -/

namespace Registry

/-- A name inside a class that was registered last leads to the component of what it means. -/
lemma resolve_register (k : Registry) (c : ClassInfo) (name : String) :
    ((k.register c).resolve c.name name).1 = .ok (Components.pointer (c.resolve name)) := by
  have hclass : (k.register c).classes.get? c.name = some c := by
    rw [register, Listing.get?_put, if_pos rfl]
  rw [resolve, fullName, hclass]
  rfl

/-- **Both spellings lead to one component.** A class, what it imports and a name are written with
dots, and the aliases of the class have no separators. Then the name leads to a component inside the
class, and so it does if all are written with backslashes instead. The two components are one,
unless the class has no namespace and the first of several segments of the name is an alias of
something else. -/
theorem resolve_backslashed_iff {c : ClassInfo} {name : String} (hc : c.IsDotted)
    (hname : QualifiedName.IsDotted name) (k k' : Registry) :
    ∃ schema schema', ((k.register c).resolve c.name name).1 = .ok schema ∧
      ((k'.register c.backslashed).resolve c.backslashed.name (backslashed name)).1 = .ok schema' ∧
      (schema' = schema ↔ ¬c.LosesImport name) := by
  refine ⟨_, _, resolve_register k c name, resolve_register k' c.backslashed _, ?_⟩
  rw [Components.pointer_eq_iff]
  exact ClassInfo.segments_resolve_backslashed_iff hc hname

/-- A class of a given name that imports a namespace and a model of it. -/
def importing (name : String) : ClassInfo where
  name := name
  imports := [("Models", "App.Models"), ("User", "App.Models.User")]

/-- A class that imports models is written with dots if its name is. -/
lemma isDotted_importing {name : String} (h : QualifiedName.IsDotted name) :
    (importing name).IsDotted := by
  have htargets : ∀ entry ∈ (importing "").imports, QualifiedName.IsDotted entry.2 := by
    decide +kernel
  have haliases : ∀ short ∈ (importing "").imports.names, ∀ d ∈ short.toList,
      isSeparator d = false := by simp [importing, Listing.names, isSeparator]
  exact ⟨h, htargets, haliases⟩

/-- **Respelled names**: a name of an imported namespace inside a class that has a namespace, and an
absolute name inside a class without one, lead to one component in both spellings. -/
theorem importing_resolve_alike :
    ((({} : Registry).register (importing "App.Home").backslashed).resolve "App\\Home"
        "Models\\Post").1 = ((({} : Registry).register (importing "App.Home")).resolve "App.Home"
        "Models.Post").1 ∧
      ((({} : Registry).register (importing "Home").backslashed).resolve "Home"
        "\\Models\\Post").1 = ((({} : Registry).register (importing "Home")).resolve "Home"
        ".Models.Post").1 := by
  constructor
  · have hkept : ¬(importing "App.Home").LosesImport "Models.Post" := fun h =>
      absurd h.1 (by decide +kernel)
    have hc : (importing "App.Home").IsDotted := isDotted_importing (by decide +kernel)
    have hname : QualifiedName.IsDotted "Models.Post" := by decide +kernel
    obtain ⟨schema, schema', hschema, hschema', hsame⟩ := resolve_backslashed_iff hc hname {} {}
    exact (hschema'.trans (congrArg Except.ok (hsame.mpr hkept))).trans hschema.symm
  · have hkept : ¬(importing "Home").LosesImport ".Models.Post" := by
      have hlist : ".Models.Post".toList = [] ++ '.' :: "Models.Post".toList := rfl
      rw [ClassInfo.losesImport_iff (by decide +kernel) hlist (by decide)]
      exact fun h => h.1 rfl
    have hc : (importing "Home").IsDotted := isDotted_importing (by decide +kernel)
    have hname : QualifiedName.IsDotted ".Models.Post" := by decide +kernel
    obtain ⟨schema, schema', hschema, hschema', hsame⟩ := resolve_backslashed_iff hc hname {} {}
    exact (hschema'.trans (congrArg Except.ok (hsame.mpr hkept))).trans hschema.symm

/-- **An import that gets lost**: inside a class without a namespace a name of an imported namespace
leads to the imported model, and respelled to a component of its own. -/
theorem importing_resolve_apart :
    (importing "Home").IsDotted ∧ QualifiedName.IsDotted "Models.User" ∧
      ∃ schema schema', schema' ≠ schema ∧
        ((({} : Registry).register (importing "Home")).resolve "Home" "Models.User").1 =
          .ok schema ∧
        ((({} : Registry).register (importing "Home").backslashed).resolve "Home"
          "Models\\User").1 = .ok schema' := by
  refine ⟨isDotted_importing (by decide +kernel), by decide +kernel,
    .reference {} "#/components/schemas/App.Models.User",
    .reference {} "#/components/schemas/Models.User", ?_, rfl, rfl⟩
  intro h
  injection h with _ htarget
  exact absurd htarget (by decide)

end Registry

end RouteAtlas
