/-
What names mean inside a class.

The name of a class is cut at its last separator, into its namespace and its short name. A name that
is used inside the class is cut at its first separator, and what stands in front of it may be an
alias. The two cuts fit together, wherever separators stand: a class means itself by its short name
and by its whole name behind a separator, up to separators that say nothing.

* `ClassInfo.scope_append_basename`: **the parts of the name of a class are the name**;
  `ClassInfo.basename_of_not_mem`, `ClassInfo.scope_of_not_mem`: a name without separators is its own
  short name.
* `ClassInfo.resolve_eq`: what a name means inside a class, by the text up to its first separator;
  `ClassInfo.segments_resolve_of_absolute`, `ClassInfo.resolve_of_not_mem`,
  `ClassInfo.resolve_of_append`: the cases of an absolute name, of one segment and of several
  segments.
* `ClassInfo.segments_resolve_basename`, `ClassInfo.segments_resolve_name`: a short name that is no
  alias means the class, and so does the whole name behind a separator; `ClassInfo.resolve_of_get?`:
  an alias in front stands for what it imports.
* `ClassInfo.names_itself_and_imports`: **a class can name itself and its imports**.
-/
import RouteAtlas.Proofs.Components

namespace RouteAtlas

open QualifiedName

namespace ClassInfo

/-! ### The parts of the name of a class -/

section Parts

variable {c : ClassInfo} {before after : List Char}

/-- The separator of a class is the backslash exactly if its name has one. -/
lemma separator_eq (c : ClassInfo) :
    c.separator = if '\\' ∈ c.name.toList then '\\' else '.' := by
  simp [separator]

/-- **The last segment** is what stands behind the last separator of the class. -/
lemma basename_of_append
    (hname : c.name.toList = before ++ c.separator :: after) (h : c.separator ∉ after) :
    c.basename = String.ofList after := by
  rw [basename, hname, Text.cutLast?_of_append h]

/-- A name without separators is its last segment. -/
lemma basename_of_not_mem (h : c.separator ∉ c.name.toList) : c.basename = c.name := by
  rw [basename, Text.cutLast?_eq_none h]

/-- **The namespace** is what stands in front of the last separator of the class. -/
lemma scope_of_append
    (hname : c.name.toList = before ++ c.separator :: after) (h : c.separator ∉ after) :
    c.scope = String.ofList before := by
  rw [scope, hname, Text.cutLast?_of_append h]

/-- A name without separators has no namespace. -/
lemma scope_of_not_mem (h : c.separator ∉ c.name.toList) : c.scope = "" := by
  rw [scope, Text.cutLast?_eq_none h]

/-- **The parts of a name are the name.** -/
lemma scope_append_basename (h : c.separator ∈ c.name.toList) :
    c.scope ++ String.singleton c.separator ++ c.basename = c.name := by
  obtain ⟨before, after, hname, hafter⟩ := Text.exists_last_of_mem h
  rw [scope_of_append hname hafter, basename_of_append hname hafter, ← String.toList_inj, hname]
  simp

/-- The last segment has no separator of the class. -/
lemma separator_not_mem_basename (c : ClassInfo) : c.separator ∉ c.basename.toList := by
  by_cases h : c.separator ∈ c.name.toList
  · obtain ⟨before, after, hname, hafter⟩ := Text.exists_last_of_mem h
    rw [basename_of_append hname hafter, String.toList_ofList]
    exact hafter
  · rw [basename_of_not_mem h]
    exact h

/-- The separator of a class is one of the two. -/
lemma isSeparator_separator (c : ClassInfo) : isSeparator c.separator = true := by
  rw [separator_eq]
  split <;> rfl

end Parts

/-! ### What a name means inside a class -/

section Meaning

variable (c : ClassInfo) (name : String)

/-- A name as one of the namespace of a class. -/
def inScope : String :=
  if c.scope = "" then name else c.scope ++ String.singleton c.separator ++ name

/-- **What a name means inside a class**: an absolute name means itself; else the text up to its
first separator may be an alias, and otherwise it is a name of the same namespace. -/
lemma resolve_eq :
    c.resolve name =
      if name.toList.head? = some c.separator then
        String.ofList (name.toList.dropWhile (· == c.separator))
      else
        match c.imports.get? (String.ofList (name.toList.takeWhile (· != c.separator))) with
        | some full => full ++ String.ofList (name.toList.dropWhile (· != c.separator))
        | none => c.inScope name := by
  rw [resolve, Text.cutFirst?]
  split
  · rfl
  · cases hrest : name.toList.dropWhile (· != c.separator) with
    | nil =>
        -- without a separator the whole name is the text up to it
        have hwhole : name.toList.takeWhile (· != c.separator) = name.toList := by
          have happend := List.takeWhile_append_dropWhile (p := (· != c.separator))
            (l := name.toList)
          rwa [hrest, List.append_nil] at happend
        rw [hwhole, String.ofList_toList]
        rfl
    | cons d rest =>
        have hd : d = c.separator := by
          have hhead := List.head?_dropWhile_not (· != c.separator) name.toList
          rw [hrest] at hhead
          simpa using hhead
        subst hd
        rfl

variable {c name} {first rest : List Char}

/-- **An absolute name means itself**, whatever is imported. -/
lemma segments_resolve_of_absolute (h : name.toList.head? = some c.separator) :
    segments (c.resolve name) = segments name := by
  have hsep : ∀ d, (d == c.separator) = true → isSeparator d = true := fun d hd =>
    beq_iff_eq.mp hd ▸ c.isSeparator_separator
  rw [resolve_eq, if_pos h, segments, String.toList_ofList, Text.segments_dropWhile hsep]
  rfl

/-- A name of one segment is an alias or one of the namespace. -/
lemma resolve_of_not_mem (h : c.separator ∉ name.toList) :
    c.resolve name = (c.imports.get? name).getD (c.inScope name) := by
  have hhead : name.toList.head? ≠ some c.separator := fun hhead =>
    h (List.mem_of_mem_head? hhead)
  have hall : ∀ d ∈ name.toList, (d != c.separator) = true := fun d hd =>
    bne_iff_ne.mpr fun heq => h (heq ▸ hd)
  rw [resolve_eq, if_neg hhead, List.takeWhile_eq_self_iff.mpr hall,
    List.dropWhile_eq_nil_iff.mpr hall, String.ofList_toList]
  cases c.imports.get? name with
  | none => rfl
  | some full => simp

/-- Of a name of several segments the first may be an alias. -/
lemma resolve_of_append (hname : name.toList = first ++ c.separator :: rest) (hne : first ≠ [])
    (hfirst : c.separator ∉ first) :
    c.resolve name =
      match c.imports.get? (String.ofList first) with
      | some full => full ++ String.ofList (c.separator :: rest)
      | none => c.inScope name := by
  have hhead : name.toList.head? ≠ some c.separator := by
    rw [hname, List.head?_append_of_ne_nil first hne]
    exact fun hhead => hfirst (List.mem_of_mem_head? hhead)
  rw [resolve_eq, if_neg hhead, hname, Text.takeWhile_of_append hfirst,
    Text.dropWhile_of_append hfirst]

/-- In a class whose name has no separator a name is one of the namespace as it is. -/
lemma inScope_of_not_mem (h : c.separator ∉ c.name.toList) (name : String) :
    c.inScope name = name := by
  rw [inScope, scope_of_not_mem h, if_pos rfl]

end Meaning

/-! ### The names of a class for itself -/

section Itself

variable {c : ClassInfo} {short full : String}

/-- The short name of a class as one of its namespace has the segments of its name. -/
lemma segments_inScope_basename (c : ClassInfo) :
    segments (c.inScope c.basename) = segments c.name := by
  by_cases h : c.separator ∈ c.name.toList
  · by_cases hscope : c.scope = ""
    · -- a separator in front of the short name is all that the name has besides
      have hname : String.singleton c.separator ++ c.basename = c.name := by
        simpa [hscope] using scope_append_basename h
      rw [inScope, if_pos hscope, ← hname, segments_singleton_append c.isSeparator_separator]
    · rw [inScope, if_neg hscope, scope_append_basename h]
  · rw [inScope_of_not_mem h, basename_of_not_mem h]

/-- **The short name of a class means the class**, unless it is an alias. -/
lemma segments_resolve_basename (h : c.basename ∉ c.imports.names) :
    segments (c.resolve c.basename) = segments c.name := by
  rw [resolve_of_not_mem c.separator_not_mem_basename, Listing.get?_eq_none_iff.mpr h,
    Option.getD_none, segments_inScope_basename]

/-- **The whole name of a class behind a separator means the class.** -/
lemma segments_resolve_name (c : ClassInfo) :
    segments (c.resolve (String.singleton c.separator ++ c.name)) = segments c.name := by
  have habsolute : (String.singleton c.separator ++ c.name).toList.head? = some c.separator := by
    simp
  rw [segments_resolve_of_absolute habsolute, segments_singleton_append c.isSeparator_separator]

/-- **An alias in front of a name** stands for what it imports. -/
lemma resolve_of_get? (hne : short ≠ "") (hshort : c.separator ∉ short.toList)
    (hget : c.imports.get? short = some full) (rest : String) :
    c.resolve (short ++ String.singleton c.separator ++ rest) =
      full ++ String.singleton c.separator ++ rest := by
  have hlist : (short ++ String.singleton c.separator ++ rest).toList =
      short.toList ++ c.separator :: rest.toList := by simp
  rw [resolve_of_append hlist (mt String.toList_eq_nil_iff.mp hne) hshort, String.ofList_toList,
    hget, String.ofList_cons, String.ofList_toList]
  exact String.append_assoc.symm

/-- **A class can name itself and its imports.** The name of a class is its namespace, the separator
and its short name if it has a separator, and else it is its own short name. The short name leads to
the component of the class if it is no alias, and the whole name behind a separator does so whatever
is imported. A name that starts with an alias means what it imports, with the rest of the name. -/
theorem names_itself_and_imports (c : ClassInfo) :
    (c.separator ∈ c.name.toList →
        c.scope ++ String.singleton c.separator ++ c.basename = c.name) ∧
      (c.separator ∉ c.name.toList → c.basename = c.name ∧ c.scope = "") ∧
      (c.basename ∉ c.imports.names →
        ∀ k : Registry, k.reference (c.resolve c.basename) = k.reference c.name) ∧
      (∀ k : Registry,
        k.reference (c.resolve (String.singleton c.separator ++ c.name)) = k.reference c.name) ∧
      ∀ short full, short ≠ "" → c.separator ∉ short.toList → c.imports.get? short = some full →
        ∀ rest, c.resolve (short ++ String.singleton c.separator ++ rest) =
          full ++ String.singleton c.separator ++ rest := by
  refine ⟨scope_append_basename, fun h => ⟨basename_of_not_mem h, scope_of_not_mem h⟩,
    fun h k => ?_, fun k => ?_, fun short full hne hshort hget => resolve_of_get? hne hshort hget⟩
  · exact Components.reference_eq_iff.mpr (segments_resolve_basename h)
  · exact Components.reference_eq_iff.mpr (segments_resolve_name c)

/-- A class of a given name with two imports. One alias is the namespace of other classes. -/
def importingShop (name : String) : ClassInfo where
  name := name
  imports := [("App", "Kernel"), ("Models", "Shop\\Models")]

/-- **Stray separators**: a class whose name starts with one, has two in a row and one of the other
kind, and a class whose name has none, name themselves and what they import. -/
theorem importingShop_names_itself :
    (importingShop "\\App.Http\\\\Home").scope = "\\App.Http\\" ∧
      (importingShop "\\App.Http\\\\Home").scope ++ "\\" ++
        (importingShop "\\App.Http\\\\Home").basename = "\\App.Http\\\\Home" ∧
      ({} : Registry).reference ((importingShop "\\App.Http\\\\Home").resolve "Home") =
        ({} : Registry).reference "\\App.Http\\\\Home" ∧
      ({} : Registry).reference
          ((importingShop "\\App.Http\\\\Home").resolve "\\\\App.Http\\\\Home") =
        ({} : Registry).reference "\\App.Http\\\\Home" ∧
      (importingShop "\\App.Http\\\\Home").resolve "Models\\Order.Line" =
        "Shop\\Models\\Order.Line" ∧
      (importingShop "Home").basename = "Home" ∧ (importingShop "Home").scope = "" := by
  have hsep : (importingShop "\\App.Http\\\\Home").separator = '\\' := by decide +kernel
  have hbasename : (importingShop "\\App.Http\\\\Home").basename = "Home" := by decide +kernel
  obtain ⟨hparts, -, hshort, habsolute, halias⟩ :=
    names_itself_and_imports (importingShop "\\App.Http\\\\Home")
  obtain ⟨-, hwhole, -, -, -⟩ := names_itself_and_imports (importingShop "Home")
  rw [hsep] at hparts habsolute halias
  rw [hbasename] at hshort
  exact ⟨by decide +kernel, hparts (by decide +kernel), hshort (by decide +kernel) {},
    habsolute {},
    halias "Models" "Shop\\Models" (by decide) (by decide) (by decide +kernel) "Order.Line",
    hwhole (by decide +kernel)⟩

end Itself

end ClassInfo

end RouteAtlas
