/-
Renaming placeholders exactly, and one renaming after another.

A renamed template differs from what it was in the names of its placeholders and in the question
marks behind them, and in nothing else.  So it can be renamed again, and both renamings together are
one: each placeholder goes straight to its last name.

* `Template.outside`: the texts around the placeholders of a template.
* `Template.rename_rename`: **one renaming after another** is one renaming.
* `Template.pieces_append_open`: a template is cut into pieces on both sides of an opening brace.
* `Template.not_optional_infix`: a template that no renaming shortens holds no optional placeholder.
* `Template.takeWhile_slash_rename`: renamed text has the slashes in front that the text has.
* `Template.RenamedBy`, `Template.Composes`: a path that is a template with other names, and one
  renaming that does what two do.
* `Template.normalize_composes`: **paths are renamed exactly**, and renamings of a path compose.
-/
import Mathlib.Data.List.Basic
import RouteAtlas.Proofs.Template
import RouteAtlas.Text.Blank

namespace RouteAtlas.Template

/-! ### The texts around the placeholders -/

/-- The texts around the placeholders of a row of pieces, in order: one more than there are
placeholders. -/
def Piece.outside : List Piece → List (List Char)
  | [] => [[]]
  | .literal c :: ps => (outside ps).modifyHead (c :: ·)
  | .placeholder _ :: ps => [] :: outside ps

/-- The texts around the placeholders of a template. -/
def outside (cs : List Char) : List (List Char) :=
  Piece.outside (pieces cs)

variable {aliases f g h : Listing String}

/-- Other names have the same texts around them. -/
lemma Piece.outside_map_renamed (ps : List Piece) :
    Piece.outside (ps.map (Piece.renamed aliases)) = Piece.outside ps := by
  induction ps with
  | nil => rfl
  | cons p ps ih =>
      cases p with
      | literal c => exact congrArg (List.modifyHead (c :: ·)) ih
      | placeholder name => exact congrArg ([] :: ·) ih

/-! ### One renaming after another -/

section Names

variable {cs : List Char}
  (hnames : ∀ name, Piece.placeholder name ∈ pieces cs →
    IsName (aliasOf f (String.ofList name)).toList)
include hnames

/-- **Renaming leaves the text outside placeholders as it is.** -/
lemma outside_rename : outside (rename f cs) = outside cs := by
  rw [outside, pieces_rename hnames, Piece.outside_map_renamed, outside]

/-- **One renaming after another** is one renaming, if the first gives names. -/
lemma rename_rename
    (hcomposes : ∀ name, Piece.placeholder name ∈ pieces cs →
      aliasOf h (String.ofList name) = aliasOf g (aliasOf f (String.ofList name))) :
    rename g (rename f cs) = rename h cs := by
  rw [rename, pieces_rename hnames, List.flatMap_map, rename]
  refine List.flatMap_congr fun p hp => ?_
  cases p with
  | literal c => rfl
  | placeholder name =>
      rw [Piece.renamed, Piece.rename, Piece.rename, String.ofList_toList, hcomposes name hp]

end Names

/-! ### Optional placeholders -/

/-- What goes on with an opening brace behind a text without one holds the brace in its rest. -/
lemma exists_append_of_append_open {text rest before after : List Char} (htext : '\x7b' ∉ text)
    (heq : text ++ rest = before ++ '\x7b' :: after) : ∃ more, before = text ++ more := by
  rcases List.append_eq_append_iff.mp heq with ⟨more, hbefore, -⟩ | ⟨more, hmore, hrest⟩
  · exact ⟨more, hbefore⟩
  · cases more with
    | nil => exact ⟨[], by rw [hmore, List.append_nil, List.append_nil]⟩
    | cons c more =>
        rw [List.cons_append, List.cons.injEq] at hrest
        refine absurd ?_ htext
        rw [hmore, hrest.1]
        simp

/-- A placeholder stays one if more text follows. -/
lemma placeholder?_append {cs name rest : List Char} (hfound : placeholder? cs = some (name, rest))
    (more : List Char) : placeholder? (cs ++ more) = some (name, rest ++ more) := by
  obtain ⟨text, htail, rfl⟩ := placeholder?_eq_some_iff_isTail.mp hfound
  exact placeholder?_eq_some_iff_isTail.mpr ⟨text, htail, List.append_assoc text rest more⟩

/-- An opening brace that follows makes no placeholder of a text in front of it. -/
lemma placeholder?_append_open {cs : List Char} (hnone : placeholder? cs = none)
    (after : List Char) : placeholder? (cs ++ '\x7b' :: after) = none := by
  cases hsome : placeholder? (cs ++ '\x7b' :: after) with
  | none => rfl
  | some found =>
      obtain ⟨text, htail, htext⟩ := placeholder?_eq_some_iff_isTail.mp hsome
      obtain ⟨more, rfl⟩ := exists_append_of_append_open htail.not_mem_open htext.symm
      rw [placeholder?_eq_some_iff_isTail.mpr ⟨text, htail, rfl⟩] at hnone
      cases hnone

/-- **A template is cut into pieces on both sides of an opening brace**: no placeholder goes across
one. -/
lemma pieces_append_open (before after : List Char) :
    pieces (before ++ '\x7b' :: after) = pieces before ++ pieces ('\x7b' :: after) := by
  induction before using piecesInduction with
  | nil => rw [pieces_nil, List.nil_append, List.nil_append]
  | literal c cs hpieces hopen ih =>
      rw [hpieces, List.cons_append, List.cons_append, ← ih]
      by_cases hc : c = '\x7b'
      · subst hc
        exact pieces_open (placeholder?_append_open (hopen rfl) after)
      · exact pieces_literal hc _
  | placeholder cs name rest hfound ih =>
      rw [List.cons_append, pieces_placeholder (placeholder?_append hfound _),
        pieces_placeholder hfound, List.cons_append, ih]

/-- A template is renamed on both sides of an opening brace. -/
lemma rename_append_open (before after : List Char) :
    rename aliases (before ++ '\x7b' :: after) =
      rename aliases before ++ rename aliases ('\x7b' :: after) := by
  rw [rename, pieces_append_open, List.flatMap_append, rename, rename]

/-- A placeholder keeps its name where no other is given. -/
lemma toList_aliasOf_empty (name : List Char) :
    (aliasOf [] (String.ofList name)).toList = name :=
  String.toList_ofList

/-- Placeholders that keep their names make a template no longer. -/
lemma length_rename_empty_le (cs : List Char) : (rename [] cs).length ≤ cs.length := by
  induction cs using piecesInduction with
  | nil => simp
  | literal c cs hpieces _ ih =>
      rw [rename_literal hpieces]
      exact Nat.succ_le_succ ih
  | placeholder cs name rest hfound ih =>
      rw [rename_placeholder hfound, toList_aliasOf_empty]
      obtain ⟨text, htail, rfl⟩ := placeholder?_eq_some_iff_isTail.mp hfound
      have hlength := htail.length_lt
      simp only [List.length_cons, List.length_append]
      omega

/-- A placeholder with a question mark behind its name. -/
def optional (name : List Char) : List Char :=
  '\x7b' :: (name ++ ['?', '\x7d'])

/-- **A template that stays as it is when every placeholder keeps its name holds no optional
placeholder**, as the question mark would be lost. -/
lemma not_optional_infix {cs name : List Char} (hsame : rename [] cs = cs) (hname : IsName name) :
    ¬optional name <:+: cs := by
  rintro ⟨before, rest, heq⟩
  have hcs : cs = before ++ '\x7b' :: (name ++ '?' :: '\x7d' :: rest) := by
    rw [← heq, optional]
    simp
  have hrename : rename [] cs =
      rename [] before ++ '\x7b' :: (name ++ '\x7d' :: rename [] rest) := by
    rw [hcs, rename_append_open, rename_placeholder (placeholder?_optional hname rest),
      toList_aliasOf_empty]
  have hlength := congrArg List.length (hcs.symm.trans (hsame.symm.trans hrename))
  have hbefore := length_rename_empty_le before
  have hrest := length_rename_empty_le rest
  simp only [List.length_append, List.length_cons] at hlength
  omega

/-! ### Leading slashes -/

/-- A text without its leading slashes starts with none. -/
lemma takeWhile_slash_dropSlashes (cs : List Char) :
    (dropSlashes cs).takeWhile (· == '/') = [] := by
  cases hleft : dropSlashes cs with
  | nil => rfl
  | cons c rest =>
      have hhead : c ∈ (Text.trimLeft (· == '/') cs).head? := by
        rw [Text.trimLeft, ← dropSlashes, hleft]
        rfl
      have hc := Text.not_of_mem_head?_trimLeft hhead
      exact List.takeWhile_cons_of_neg (Bool.eq_false_iff.mp hc)

/-- **Renamed text has the slashes in front that the text has.** -/
lemma takeWhile_slash_rename (aliases : Listing String) (cs : List Char) :
    (rename aliases cs).takeWhile (· == '/') = cs.takeWhile (· == '/') := by
  induction cs using piecesInduction with
  | nil => rw [rename_nil]
  | literal c cs hpieces _ ih =>
      rw [rename_literal hpieces, List.takeWhile_cons, List.takeWhile_cons, ih]
  | placeholder cs name rest hfound _ =>
      rw [rename_placeholder hfound, List.takeWhile_cons_of_neg (by decide),
        List.takeWhile_cons_of_neg (by decide)]

/-! ### Paths -/

/-- The names that a listing gives to placeholders can stand between braces. -/
def GivesNames (aliases : Listing String) : Prop :=
  ∀ entry ∈ aliases, IsName entry.2.toList

/-- One renaming that does to the placeholders of a template what two others do one after the
other. -/
def Composes (uri : String) (f g h : Listing String) : Prop :=
  ∀ name ∈ names uri, aliasOf h name = aliasOf g (aliasOf f name)

/-- **A path that is a template with other names**: it has a slash in front, no optional
placeholder, the texts of the template around its placeholders, and these in their order, each under
its new name. -/
structure RenamedBy (aliases : Listing String) (uri path : String) : Prop where
  slash : path.toList.head? = some '/'
  plain : ∀ name, IsName name → ¬optional name <:+: path.toList
  texts : outside path.toList = (outside (dropSlashes uri.toList)).modifyHead ('/' :: ·)
  placeholders : names path = (names uri).map (aliasOf aliases)

/-- A listing that gives names leaves names to the placeholders that it does not know. -/
lemma GivesNames.isName_aliasOf (hf : GivesNames f) {name : String} (hname : IsName name.toList) :
    IsName (aliasOf f name).toList := by
  rw [aliasOf]
  induction f with
  | nil => exact hname
  | cons entry rest ih =>
      rw [Listing.get?]
      split
      · exact hf entry List.mem_cons_self
      · exact ih fun other hother => hf other (List.mem_cons_of_mem _ hother)

/-- The placeholders of a template get names. -/
lemma GivesNames.isName_of_mem_pieces (hf : GivesNames f) {cs name : List Char}
    (hmem : Piece.placeholder name ∈ pieces cs) : IsName (aliasOf f (String.ofList name)).toList := by
  refine hf.isName_aliasOf ?_
  rw [String.toList_ofList]
  exact Template.isName_of_mem_pieces hmem

/-- The placeholders of a template are there with its leading slashes too. -/
lemma mem_names_of_mem_pieces {uri : String} {name : List Char}
    (hmem : Piece.placeholder name ∈ pieces (dropSlashes uri.toList)) :
    String.ofList name ∈ names uri := by
  have hshared : '\x7b' ∉ ([] : List Char) := List.not_mem_nil
  obtain ⟨text, htext, hsplit⟩ := exists_append_dropShared hshared uri.toList
  have hmem' : Piece.placeholder name ∈ pieces uri.toList := by
    rw [hsplit, pieces_append htext]
    exact List.mem_append_right _ hmem
  exact List.mem_filterMap.mpr ⟨_, hmem', rfl⟩

/-- Where paths share no part, a path is the renamed template behind one slash. -/
lemma toList_normalize (uri : String) (aliases : Listing String) :
    (normalize uri aliases "").toList = '/' :: rename aliases (dropSlashes uri.toList) :=
  String.toList_ofList

/-- A path has no slashes in front but the one. -/
lemma dropSlashes_normalize (uri : String) (aliases : Listing String) :
    dropSlashes (normalize uri aliases "").toList = rename aliases (dropSlashes uri.toList) := by
  have hnone := takeWhile_slash_dropSlashes uri.toList
  have hsplit := List.takeWhile_append_dropWhile (p := (· == '/'))
    (l := rename aliases (dropSlashes uri.toList))
  rw [takeWhile_slash_rename, hnone, List.nil_append] at hsplit
  rw [toList_normalize, dropSlashes, List.dropWhile_cons_of_pos rfl, hsplit]

/-- Two renamings of a path are one that composes them. -/
lemma normalize_normalize (hf : GivesNames f) {uri : String} (hcomposes : Composes uri f g h) :
    normalize (normalize uri f "") g "" = normalize uri h "" := by
  rw [← String.toList_inj, toList_normalize, dropSlashes_normalize, toList_normalize,
    rename_rename (fun _ => hf.isName_of_mem_pieces) fun name hname =>
      hcomposes _ (mem_names_of_mem_pieces hname)]

/-- A listing of values by name leads from a name to its value. -/
lemma aliasOf_map_of_mem (rows : List String) (value : String → String) {name : String}
    (hname : name ∈ rows) : aliasOf (rows.map fun row => (row, value row)) name = value name := by
  rw [aliasOf]
  induction rows with
  | nil => cases hname
  | cons first rest ih =>
      rw [List.map_cons, Listing.get?]
      split
      · next heq =>
        subst heq
        rfl
      · next hne => exact ih ((List.mem_cons.mp hname).resolve_left (Ne.symm hne))

/-- Two renamings have one that composes them: it takes the placeholders straight to their last
names. -/
lemma exists_composes (uri : String) (f g : Listing String) : ∃ h, Composes uri f g h :=
  ⟨(names uri).map fun name => (name, aliasOf g (aliasOf f name)), fun _ hname =>
    aliasOf_map_of_mem (names uri) (fun name => aliasOf g (aliasOf f name)) hname⟩

/-- A renamed path differs from the template in the names of the placeholders only. -/
lemma renamedBy_normalize (hf : GivesNames f) (uri : String) :
    RenamedBy f uri (normalize uri f "") where
  slash := by rw [toList_normalize, List.head?_cons]
  plain := by
    intro name hname
    refine not_optional_infix ?_ hname
    rw [toList_normalize, rename_literal (pieces_literal (by decide) _)]
    exact congrArg ('/' :: ·) (rename_rename (fun _ => hf.isName_of_mem_pieces) fun _ _ => rfl)
  texts := by
    have hbody : Template.outside (rename f (dropSlashes uri.toList)) =
        Template.outside (dropSlashes uri.toList) :=
      outside_rename fun _ => hf.isName_of_mem_pieces
    rw [toList_normalize, outside, pieces_literal (by decide), Piece.outside, ← outside, hbody]
  placeholders := names_normalize List.not_mem_nil fun _ hname =>
    hf.isName_aliasOf (isName_of_mem_names hname)

/-- **Paths are renamed exactly, and renamings of a path compose.** If the names given to
placeholders are words, a path has one slash in front, no optional placeholder, the texts of the
template around its placeholders, and these in their order under their new names. To rename it again
is to rename the template by any listing that takes each placeholder to its last name, and there is
one; names that change places do so at once. And a path stays as it is where no placeholder gets
another name. -/
theorem normalize_composes (uri : String) {f : Listing String} (hf : GivesNames f) :
    RenamedBy f uri (normalize uri f "") ∧
      (∀ g, (∃ h, Composes uri f g h) ∧
        ∀ h, Composes uri f g h → normalize (normalize uri f "") g "" = normalize uri h "") ∧
      normalize (normalize uri f "") [] "" = normalize uri f "" := by
  refine ⟨renamedBy_normalize hf uri, fun g => ⟨exists_composes uri f g, fun h hcomposes => ?_⟩, ?_⟩
  · exact normalize_normalize hf hcomposes
  · exact normalize_normalize hf fun _ _ => rfl

/-- A template with braces and a question mark around an optional placeholder, a repeated
placeholder, and a brace at its end. -/
def tangledUri : String := "//\x7b\x7buser?\x7d?\x7d/\x7bpost\x7d/\x7buser\x7d\x7b"

/-- Two names that change places. -/
def swappedNames : Listing String := [("user", "post"), ("post", "user")]

/-- **Names that change places**: the braces around a placeholder make no other one, one of the
names is renamed once more, and names that change places twice are those of the template. -/
theorem swappedNames_composes :
    RenamedBy swappedNames tangledUri (normalize tangledUri swappedNames "") ∧
      normalize tangledUri swappedNames "" =
        "/\x7b\x7bpost\x7d?\x7d/\x7buser\x7d/\x7bpost\x7d\x7b" ∧
      normalize (normalize tangledUri swappedNames "") [("post", "id")] "" =
        normalize tangledUri [("post", "user"), ("user", "id")] "" ∧
      normalize (normalize tangledUri swappedNames "") swappedNames "" =
        normalize tangledUri [] "" ∧
      normalize (normalize tangledUri swappedNames "") [] "" =
        normalize tangledUri swappedNames "" := by
  have hgives : GivesNames swappedNames := by
    intro entry hentry
    simp only [swappedNames, List.mem_cons, List.not_mem_nil, or_false] at hentry
    rcases hentry with rfl | rfl
    · exact IsName.of_isAlphanum (by decide) (by decide)
    · exact IsName.of_isAlphanum (by decide) (by decide)
  have hnames : names tangledUri = ["user", "post", "user"] := by decide +kernel
  obtain ⟨hrenamed, hcomposes, hsame⟩ := normalize_composes tangledUri hgives
  refine ⟨hrenamed, by decide +kernel, (hcomposes _).2 _ ?_, (hcomposes _).2 _ ?_, hsame⟩
  · rw [Composes, hnames]
    decide
  · rw [Composes, hnames]
    decide

end RouteAtlas.Template
