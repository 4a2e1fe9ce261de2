/-
What renaming the placeholders of a template leaves of it.

Renaming writes new text between braces, next to braces and question marks that belong to no
placeholder.  Read again, the text has the pieces it had, each placeholder under its new name.

* `Template.IsName`: the words that can stand between the braces of a placeholder.
* `Template.placeholder?_eq_some_iff`: a text goes on as a placeholder exactly if it starts with a
  name that a brace closes, perhaps behind a question mark.
* `Template.IsTail`: the text of a placeholder behind its opening brace.
* `Template.pieces_append`: text without an opening brace in front of a template is literal.
* `Template.of_rename_eq_append`: renamed text that starts without an opening brace starts as the
  text did.
* `Template.pieces_rename`: **the pieces of a renamed text** are the pieces of the text, renamed.
* `Template.names_normalize`: the names in a path are those of the route, renamed.
-/
import Mathlib.Data.List.TakeWhile
import RouteAtlas.Route.Template

namespace RouteAtlas.Template

/-! ### Names -/

/-- A word that can stand between the braces of a placeholder. -/
def IsName (name : List Char) : Prop :=
  name ≠ [] ∧ ∀ c ∈ name, Text.isWord c = true

/-- Letters and digits of ASCII make a name. -/
lemma IsName.of_isAlphanum {name : List Char} (hne : name ≠ [])
    (h : name.all Char.isAlphanum = true) : IsName name :=
  ⟨hne, fun c hc => Text.isWord_of_isAlphanum (List.all_eq_true.mp h c hc)⟩

lemma not_isWord_question : Text.isWord '?' = false := by decide

lemma not_isWord_open : Text.isWord '\x7b' = false := by decide

lemma not_isWord_close : Text.isWord '\x7d' = false := by decide

/-- No name holds an opening brace. -/
lemma IsName.not_mem_open {name : List Char} (h : IsName name) : '\x7b' ∉ name := by
  intro hmem
  have hword := h.2 _ hmem
  rw [not_isWord_open] at hword
  cases hword

/-- A name is what a reader of words takes from a text that goes on without a word. -/
lemma IsName.span {name : List Char} {c : Char} (h : IsName name) (hc : Text.isWord c = false)
    (rest : List Char) :
    (name ++ c :: rest).takeWhile Text.isWord = name ∧
      (name ++ c :: rest).dropWhile Text.isWord = c :: rest := by
  rw [List.takeWhile_append_of_pos h.2, List.dropWhile_append_of_pos h.2]
  simp [hc]

/-- A name with a closing brace is a placeholder. -/
lemma placeholder?_close {name : List Char} (h : IsName name) (rest : List Char) :
    placeholder? (name ++ '\x7d' :: rest) = some (name, rest) := by
  obtain ⟨htake, hdrop⟩ := h.span not_isWord_close rest
  simp only [placeholder?, htake, hdrop]
  rw [if_neg (by simpa using h.1)]

/-- A name with a question mark and a closing brace is a placeholder. -/
lemma placeholder?_optional {name : List Char} (h : IsName name) (rest : List Char) :
    placeholder? (name ++ '?' :: '\x7d' :: rest) = some (name, rest) := by
  obtain ⟨htake, hdrop⟩ := h.span not_isWord_question ('\x7d' :: rest)
  simp only [placeholder?, htake, hdrop]
  rw [if_neg (by simpa using h.1)]

/-- A text goes on as a placeholder exactly if it starts with a name that a brace closes, perhaps
behind a question mark. -/
lemma placeholder?_eq_some_iff {cs name rest : List Char} :
    placeholder? cs = some (name, rest) ↔
      IsName name ∧ (cs = name ++ '\x7d' :: rest ∨ cs = name ++ '?' :: '\x7d' :: rest) := by
  constructor
  · intro h
    have hsplit := List.takeWhile_append_dropWhile (p := Text.isWord) (l := cs)
    have hall : ∀ c ∈ cs.takeWhile Text.isWord, Text.isWord c = true :=
      fun c hc => List.mem_takeWhile_imp hc
    rw [placeholder?] at h
    split at h
    · cases h
    · next hne =>
      have hname : IsName (cs.takeWhile Text.isWord) := ⟨by simpa using hne, hall⟩
      split at h
      · next hrest =>
        cases h
        exact ⟨hname, Or.inr (by rw [← hrest, hsplit])⟩
      · next hrest =>
        cases h
        exact ⟨hname, Or.inl (by rw [← hrest, hsplit])⟩
      · cases h
  · rintro ⟨hname, rfl | rfl⟩
    · exact placeholder?_close hname rest
    · exact placeholder?_optional hname rest

/-- **The text of a placeholder behind its opening brace**: its name and a closing brace, perhaps with
a question mark between them. -/
def IsTail (name text : List Char) : Prop :=
  IsName name ∧ (text = name ++ ['\x7d'] ∨ text = name ++ ['?', '\x7d'])

/-- The text of a placeholder holds no other opening brace. -/
lemma IsTail.not_mem_open {name text : List Char} (h : IsTail name text) : '\x7b' ∉ text := by
  obtain ⟨hname, rfl | rfl⟩ := h
  · simp [hname.not_mem_open]
  · simp [hname.not_mem_open]

/-- The text of a placeholder is longer than its name. -/
lemma IsTail.length_lt {name text : List Char} (h : IsTail name text) :
    name.length < text.length := by
  obtain ⟨-, rfl | rfl⟩ := h
  · simp
  · simp

/-- A text goes on as a placeholder exactly if it starts with the text of one. -/
lemma placeholder?_eq_some_iff_isTail {cs name rest : List Char} :
    placeholder? cs = some (name, rest) ↔ ∃ text, IsTail name text ∧ cs = text ++ rest := by
  rw [placeholder?_eq_some_iff]
  constructor
  · rintro ⟨hname, rfl | rfl⟩
    · exact ⟨name ++ ['\x7d'], ⟨hname, Or.inl rfl⟩, by simp⟩
    · exact ⟨name ++ ['?', '\x7d'], ⟨hname, Or.inr rfl⟩, by simp⟩
  · rintro ⟨_, ⟨hname, rfl | rfl⟩, rfl⟩
    · exact ⟨hname, Or.inl (by simp)⟩
    · exact ⟨hname, Or.inr (by simp)⟩

/-! ### Pieces -/

@[simp] lemma pieces_nil : pieces [] = [] := by
  rw [pieces]

/-- A character other than an opening brace stands for itself. -/
lemma pieces_literal {c : Char} (h : c ≠ '\x7b') (cs : List Char) :
    pieces (c :: cs) = .literal c :: pieces cs := by
  rw [pieces, if_neg h]

/-- A brace that starts no placeholder stands for itself. -/
lemma pieces_open {cs : List Char} (h : placeholder? cs = none) :
    pieces ('\x7b' :: cs) = .literal '\x7b' :: pieces cs := by
  rw [pieces, if_pos rfl]
  split
  · next hsome => rw [h] at hsome; cases hsome
  · rfl

/-- A brace that starts a placeholder is read with it. -/
lemma pieces_placeholder {cs name rest : List Char} (h : placeholder? cs = some (name, rest)) :
    pieces ('\x7b' :: cs) = .placeholder name :: pieces rest := by
  rw [pieces, if_pos rfl]
  split
  · next hsome => rw [h] at hsome; cases hsome; rfl
  · next hnone => rw [h] at hnone; cases hnone

/-- Text without an opening brace in front of a template is literal. -/
lemma pieces_append {text : List Char} (h : '\x7b' ∉ text) (cs : List Char) :
    pieces (text ++ cs) = text.map .literal ++ pieces cs := by
  induction text with
  | nil => rfl
  | cons c text ih =>
      rw [List.mem_cons, not_or] at h
      rw [List.cons_append, pieces_literal (Ne.symm h.1), ih h.2, List.map_cons, List.cons_append]

/-- **Induction along the pieces of a text**: an empty text, a character that stands for itself, or
a placeholder with what follows it. -/
@[elab_as_elim]
theorem piecesInduction {motive : List Char → Prop} (nil : motive [])
    (literal : ∀ c cs, pieces (c :: cs) = .literal c :: pieces cs →
      (c = '\x7b' → placeholder? cs = none) → motive cs → motive (c :: cs))
    (placeholder : ∀ cs name rest, placeholder? cs = some (name, rest) → motive rest →
      motive ('\x7b' :: cs))
    (cs : List Char) : motive cs := by
  induction cs using pieces.induct with
  | case1 => exact nil
  | case2 cs name rest h _ ih => exact placeholder cs name rest h ih
  | case3 cs h ih => exact literal _ _ (pieces_open h) (fun _ => h) ih
  | case4 c cs hc ih => exact literal _ _ (pieces_literal hc cs) (fun h => absurd h hc) ih

/-- The placeholders that are read from a text have names. -/
lemma isName_of_mem_pieces {cs name : List Char} (h : Piece.placeholder name ∈ pieces cs) :
    IsName name := by
  induction cs using piecesInduction with
  | nil => simp at h
  | literal c cs hpieces _ ih =>
      rw [hpieces] at h
      exact ih (by simpa using h)
  | placeholder cs found rest hfound ih =>
      rw [pieces_placeholder hfound] at h
      rcases List.mem_cons.mp h with heq | hrest
      · cases heq
        exact (placeholder?_eq_some_iff.mp hfound).1
      · exact ih hrest

/-! ### Renamed text -/

variable {aliases : Listing String}

/-- The piece with its name replaced. -/
def Piece.renamed (aliases : Listing String) : Piece → Piece
  | literal c => literal c
  | placeholder name => placeholder (aliasOf aliases (String.ofList name)).toList

@[simp] lemma rename_nil : rename aliases [] = [] := by
  rw [rename, pieces_nil, List.flatMap_nil]

/-- A character that stands for itself stays. -/
lemma rename_literal {c : Char} {cs : List Char} (h : pieces (c :: cs) = .literal c :: pieces cs) :
    rename aliases (c :: cs) = c :: rename aliases cs := by
  rw [rename, h, List.flatMap_cons, rename]
  rfl

/-- A placeholder is written with its new name and without a question mark. -/
lemma rename_placeholder {cs name rest : List Char} (h : placeholder? cs = some (name, rest)) :
    rename aliases ('\x7b' :: cs) =
      '\x7b' :: ((aliasOf aliases (String.ofList name)).toList ++
        '\x7d' :: rename aliases rest) := by
  rw [rename, pieces_placeholder h, List.flatMap_cons, rename]
  simp [Piece.rename]

/-- A character that renamed text starts with, other than an opening brace, is the one that the
text starts with. -/
lemma of_rename_eq_cons {cs rest : List Char} {c : Char} (h : rename aliases cs = c :: rest)
    (hc : c ≠ '\x7b') : ∃ after, cs = c :: after ∧ rename aliases after = rest := by
  cases cs using piecesInduction with
  | nil => simp at h
  | literal d after hpieces _ _ =>
      rw [rename_literal hpieces, List.cons.injEq] at h
      exact ⟨after, by rw [h.1], h.2⟩
  | placeholder after name tail hfound _ =>
      rw [rename_placeholder hfound, List.cons.injEq] at h
      exact absurd h.1.symm hc

/-- **Renamed text that starts without an opening brace starts as the text did.** -/
lemma of_rename_eq_append {text cs rest : List Char} (h : rename aliases cs = text ++ rest)
    (htext : '\x7b' ∉ text) : ∃ after, cs = text ++ after ∧ rename aliases after = rest := by
  induction text generalizing cs with
  | nil => exact ⟨cs, rfl, h⟩
  | cons c text ih =>
      rw [List.mem_cons, not_or] at htext
      obtain ⟨after, rfl, hafter⟩ := of_rename_eq_cons h (Ne.symm htext.1)
      obtain ⟨last, rfl, hlast⟩ := ih hafter htext.2
      exact ⟨last, rfl, hlast⟩

/-- Renaming makes no placeholder behind a brace that started none. -/
lemma placeholder?_rename {cs : List Char} (h : placeholder? cs = none) :
    placeholder? (rename aliases cs) = none := by
  cases hsome : placeholder? (rename aliases cs) with
  | none => rfl
  | some found =>
      obtain ⟨text, htail, htext⟩ := placeholder?_eq_some_iff_isTail.mp hsome
      -- the closing brace belongs to the text, which therefore had the placeholder
      obtain ⟨after, rfl, -⟩ := of_rename_eq_append htext htail.not_mem_open
      rw [placeholder?_eq_some_iff_isTail.mpr ⟨text, htail, rfl⟩] at h
      cases h

/-- **The pieces of a renamed text** are the pieces of the text, renamed, if the new names are
names. -/
theorem pieces_rename {cs : List Char}
    (h : ∀ name, Piece.placeholder name ∈ pieces cs →
      IsName (aliasOf aliases (String.ofList name)).toList) :
    pieces (rename aliases cs) = (pieces cs).map (Piece.renamed aliases) := by
  induction cs using piecesInduction with
  | nil => simp
  | literal c cs hpieces hopen ih =>
      rw [rename_literal hpieces, hpieces, List.map_cons]
      have hrest : pieces (rename aliases cs) = (pieces cs).map (Piece.renamed aliases) :=
        ih fun name hname => h name (by rw [hpieces]; exact List.mem_cons_of_mem _ hname)
      by_cases hc : c = '\x7b'
      · subst hc
        rw [pieces_open (placeholder?_rename (hopen rfl)), hrest]
        rfl
      · rw [pieces_literal hc, hrest]
        rfl
  | placeholder cs name rest hfound ih =>
      have hpieces := pieces_placeholder hfound
      have hnew := h name (by rw [hpieces]; exact List.mem_cons_self)
      have hrest : pieces (rename aliases rest) = (pieces rest).map (Piece.renamed aliases) :=
        ih fun other hother => h other (by rw [hpieces]; exact List.mem_cons_of_mem _ hother)
      rw [rename_placeholder hfound, pieces_placeholder (placeholder?_close hnew _), hpieces,
        List.map_cons, hrest]
      rfl

/-- The name of a renamed piece. -/
lemma name?_renamed (p : Piece) :
    (p.renamed aliases).name? = p.name?.map (aliasOf aliases) := by
  cases p with
  | literal c => rfl
  | placeholder name => simp [Piece.renamed, Piece.name?]

/-! ### Paths -/

/-- The names of the placeholders of a text are names. -/
lemma isName_of_mem_names {uri name : String} (h : name ∈ names uri) : IsName name.toList := by
  obtain ⟨piece, hpiece, hname⟩ := List.mem_filterMap.mp h
  cases piece with
  | literal c => cases hname
  | placeholder found =>
      cases hname
      simpa using isName_of_mem_pieces hpiece

/-- What is dropped in front of a path holds no opening brace, if the shared part holds none. -/
lemma exists_append_dropShared {shared : List Char} (h : '\x7b' ∉ shared) (uri : List Char) :
    ∃ text, '\x7b' ∉ text ∧ uri = text ++ dropShared shared uri := by
  have hslashes : '\x7b' ∉ uri.takeWhile (· == '/') := by
    intro hmem
    have hslash := List.mem_takeWhile_imp hmem
    simp at hslash
  have hsplit : uri = uri.takeWhile (· == '/') ++ dropSlashes uri :=
    (List.takeWhile_append_dropWhile (p := (· == '/')) (l := uri)).symm
  rw [dropShared]
  cases hcut : Text.cutPrefix? (dropSlashes shared) (dropSlashes uri) with
  | none => exact ⟨_, hslashes, hsplit⟩
  | some rest =>
      have hshared : '\x7b' ∉ dropSlashes shared :=
        fun hmem => h ((List.dropWhile_suffix _).subset hmem)
      refine ⟨uri.takeWhile (· == '/') ++ dropSlashes shared, by simp [hslashes, hshared], ?_⟩
      rw [Option.getD_some, List.append_assoc, ← Text.cutPrefix?_eq_some_iff.mp hcut]
      exact hsplit

/-- **The names in a path are those of the route, renamed**: nothing is cut out of a placeholder,
and no placeholder is lost or made. -/
theorem names_normalize {uri shared : String} (hshared : '\x7b' ∉ shared.toList)
    (h : ∀ name ∈ names uri, IsName (aliasOf aliases name).toList) :
    names (normalize uri aliases shared) = (names uri).map (aliasOf aliases) := by
  obtain ⟨text, htext, hsplit⟩ := exists_append_dropShared hshared uri.toList
  have hpieces : pieces uri.toList =
      text.map .literal ++ pieces (dropShared shared.toList uri.toList) :=
    (congrArg pieces hsplit).trans (pieces_append htext _)
  have hliteral : (text.map Piece.literal).filterMap Piece.name? = [] := by
    simp [Piece.name?]
  have hnames : names uri =
      (pieces (dropShared shared.toList uri.toList)).filterMap Piece.name? := by
    rw [names, hpieces, List.filterMap_append, hliteral, List.nil_append]
  have hnew : ∀ name, Piece.placeholder name ∈ pieces (dropShared shared.toList uri.toList) →
      IsName (aliasOf aliases (String.ofList name)).toList := by
    intro name hname
    apply h
    rw [hnames]
    exact List.mem_filterMap.mpr ⟨_, hname, rfl⟩
  rw [hnames, names, normalize, String.toList_ofList, pieces_literal (by decide),
    pieces_rename hnew, List.filterMap_cons_none rfl, List.filterMap_map, List.map_filterMap]
  congr 1
  funext p
  exact name?_renamed p

end RouteAtlas.Template
