/-
The slashes in front of a path.

A path gets a slash in front of what is left of its template.  What is left starts with a slash of
its own if the shared part of the paths stops where a segment of the template ends, and not behind
the slash that follows; the path then has two.

* `Template.leadingSlashes`: the number of slashes in front of a path.
* `Template.StopsAtSlash`: the shared part stops in front of a slash of the template.
* `Template.leadingSlashes_normalize`: **a path has one slash in front**, and two exactly where the
  shared part stops in front of one.
-/
import Mathlib.Data.List.Infix
import RouteAtlas.Proofs.Renaming

namespace RouteAtlas.Template

/-- The number of slashes in front of a path. -/
def leadingSlashes (path : String) : Nat :=
  (path.toList.takeWhile (· == '/')).length

/-- No segment between two slashes of a template is empty. -/
def NoEmptySegment (uri : String) : Prop :=
  ¬['/', '/'] <:+: dropSlashes uri.toList

/-- The shared part of the paths stops in front of a slash of the template, without its leading
slashes. -/
def StopsAtSlash (shared uri : String) : Prop :=
  dropSlashes shared.toList ++ ['/'] <+: dropSlashes uri.toList

instance (shared uri : String) : Decidable (StopsAtSlash shared uri) :=
  inferInstanceAs (Decidable (_ <+: _))

instance (uri : String) : Decidable (NoEmptySegment uri) :=
  inferInstanceAs (Decidable (¬_ <:+: _))

/-! ### What is left of a template -/

variable {shared uri : String} {rest : List Char}

/-- The shared part is dropped from a template that starts with it. -/
lemma dropShared_of_append (hsplit : dropSlashes uri.toList = dropSlashes shared.toList ++ rest) :
    dropShared shared.toList uri.toList = rest := by
  rw [dropShared, Text.cutPrefix?_eq_some_iff.mpr hsplit, Option.getD_some]

/-- Another template loses its leading slashes only. -/
lemma dropShared_of_other (hother : ¬dropSlashes shared.toList <+: dropSlashes uri.toList) :
    dropShared shared.toList uri.toList = dropSlashes uri.toList := by
  rw [dropShared]
  cases hcut : Text.cutPrefix? (dropSlashes shared.toList) (dropSlashes uri.toList) with
  | none => rfl
  | some rest => exact absurd ⟨rest, (Text.cutPrefix?_eq_some_iff.mp hcut).symm⟩ hother

/-- A text without its leading slashes is not one that starts with a slash. -/
lemma dropSlashes_ne_slash (cs : List Char) : dropSlashes cs ≠ '/' :: rest := by
  intro hleft
  have hnone := takeWhile_slash_dropSlashes cs
  rw [hleft, List.takeWhile_cons_of_pos rfl] at hnone
  cases hnone

/-- The shared part stops in front of a slash exactly if what is left starts with one. -/
lemma stopsAtSlash_iff : StopsAtSlash shared uri ↔
    ∃ rest, dropShared shared.toList uri.toList = '/' :: rest := by
  constructor
  · rintro ⟨rest, hrest⟩
    refine ⟨rest, dropShared_of_append ?_⟩
    rw [← hrest, List.append_assoc, List.singleton_append]
  · rintro ⟨rest, hrest⟩
    by_cases hshared : dropSlashes shared.toList <+: dropSlashes uri.toList
    · obtain ⟨after, hafter⟩ := hshared
      rw [dropShared_of_append hafter.symm] at hrest
      refine ⟨rest, ?_⟩
      rw [← hafter, hrest, List.append_assoc, List.singleton_append]
    · -- nothing is dropped but the leading slashes, so that no slash is left in front
      rw [dropShared_of_other hshared] at hrest
      exact absurd hrest (dropSlashes_ne_slash uri.toList)

/-! ### The slashes of a path -/

/-- A path has one slash more in front than what is left of its template. -/
lemma leadingSlashes_eq (uri : String) (aliases : Listing String) (shared : String) :
    leadingSlashes (normalize uri aliases shared) =
      ((dropShared shared.toList uri.toList).takeWhile (· == '/')).length + 1 := by
  rw [leadingSlashes, normalize, String.toList_ofList, List.takeWhile_cons_of_pos rfl,
    takeWhile_slash_rename, List.length_cons]

/-- A shared part that stops in front of a slash is not empty, and does not end with a slash where no
segment is empty. -/
lemma StopsAtSlash.getLast? (h : StopsAtSlash shared uri) (hsegments : NoEmptySegment uri) :
    ∃ c, (dropSlashes shared.toList).getLast? = some c ∧ c ≠ '/' := by
  obtain ⟨rest, hrest⟩ := h
  rcases List.eq_nil_or_concat' (dropSlashes shared.toList) with hnil | ⟨before, c, hconcat⟩
  · rw [hnil, List.nil_append, List.singleton_append] at hrest
    exact absurd hrest.symm (dropSlashes_ne_slash uri.toList)
  · refine ⟨c, by rw [hconcat, List.getLast?_concat], ?_⟩
    rintro rfl
    refine hsegments ⟨before, rest, ?_⟩
    rw [← hrest, hconcat]
    simp

/-- What is left behind one slash starts with no other where no segment is empty. -/
lemma takeWhile_slash_of_stopsAtSlash (hsegments : NoEmptySegment uri)
    (hleft : dropShared shared.toList uri.toList = '/' :: rest) :
    rest.takeWhile (· == '/') = [] := by
  cases rest with
  | nil => rfl
  | cons c rest =>
      refine List.takeWhile_cons_of_neg fun hc => hsegments ?_
      rw [beq_iff_eq.mp hc] at hleft
      obtain ⟨after, hafter⟩ := stopsAtSlash_iff.mpr ⟨_, hleft⟩
      rw [List.append_assoc, List.singleton_append] at hafter
      rw [dropShared_of_append hafter.symm, List.cons.injEq] at hleft
      rw [← hafter, hleft.2]
      exact ⟨dropSlashes shared.toList, rest, by simp⟩

/-- **A path has one slash in front, unless the shared part stops in front of one.** Where no segment
of a template is empty, a path has two slashes in front if the shared part stops where a segment ends,
and else has one. So it has one for every shared part that is empty or ends with a slash. -/
theorem leadingSlashes_normalize (hsegments : NoEmptySegment uri) (aliases : Listing String) :
    leadingSlashes (normalize uri aliases shared) = (if StopsAtSlash shared uri then 2 else 1) ∧
      ((∀ c, (dropSlashes shared.toList).getLast? = some c → c = '/') →
        leadingSlashes (normalize uri aliases shared) = 1) := by
  have hcount : leadingSlashes (normalize uri aliases shared) =
      if StopsAtSlash shared uri then 2 else 1 := by
    rw [leadingSlashes_eq]
    by_cases hstops : StopsAtSlash shared uri
    · obtain ⟨rest, hleft⟩ := stopsAtSlash_iff.mp hstops
      rw [if_pos hstops, hleft, List.takeWhile_cons_of_pos rfl,
        takeWhile_slash_of_stopsAtSlash hsegments hleft, List.length_singleton]
    · have hnone : (dropShared shared.toList uri.toList).takeWhile (· == '/') = [] := by
        cases hleft : dropShared shared.toList uri.toList with
        | nil => rfl
        | cons c rest =>
            refine List.takeWhile_cons_of_neg fun hc => hstops (stopsAtSlash_iff.mpr ⟨rest, ?_⟩)
            rw [hleft, beq_iff_eq.mp hc]
      rw [if_neg hstops, hnone, List.length_nil]
  refine ⟨hcount, fun hends => ?_⟩
  have hstops : ¬StopsAtSlash shared uri := by
    intro hstops
    obtain ⟨c, hlast, hc⟩ := hstops.getLast? hsegments
    exact hc (hends c hlast)
  rw [hcount, if_neg hstops]

/-- **One template under three shared parts**: one that stops in front of a slash, one that stops
inside a segment, and one that ends with the slash. -/
theorem versionedUri_leadingSlashes :
    leadingSlashes (normalize "/v1/items/{item?}" [("item", "id")] "/v1") = 2 ∧
      leadingSlashes (normalize "/v1/items/{item?}" [("item", "id")] "v1/it") = 1 ∧
      leadingSlashes (normalize "/v1/items/{item?}" [("item", "id")] "//v1/") = 1 := by
  have hsegments : NoEmptySegment "/v1/items/{item?}" := by decide +kernel
  have hslash : StopsAtSlash "/v1" "/v1/items/{item?}" := by decide +kernel
  have hletter : ¬StopsAtSlash "v1/it" "/v1/items/{item?}" := by decide +kernel
  have hlast : (dropSlashes "//v1/".toList).getLast? = some '/' := by decide +kernel
  refine ⟨(leadingSlashes_normalize hsegments _).1.trans (if_pos hslash),
    (leadingSlashes_normalize hsegments _).1.trans (if_neg hletter),
    (leadingSlashes_normalize hsegments _).2 fun c hc => ?_⟩
  exact (Option.some.inj (hlast.symm.trans hc)).symm

/-- **A shared part without a slash at its end** leaves a path with two slashes in front, although no
segment of the template is empty and the names are words. -/
theorem sharedWord_leadingSlashes :
    NoEmptySegment "api/users/{user}" ∧ GivesNames [("user", "id")] ∧
      normalize "api/users/{user}" [("user", "id")] "api" = "//users/{id}" ∧
      leadingSlashes (normalize "api/users/{user}" [("user", "id")] "api") ≠ 1 := by
  refine ⟨by decide +kernel, ?_, by decide +kernel, by decide +kernel⟩
  intro entry hentry
  rw [List.mem_singleton.mp hentry]
  exact IsName.of_isAlphanum (by decide) (by decide)

end RouteAtlas.Template
