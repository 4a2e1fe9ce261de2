/-
The forms of a rule specification.

A specification can be a text with bars between its words, or a row of its words, in which any word
may be an object that stands for it. A text is cut where the bars are. So it has the words that were
put together, with one exception: without words it is empty, and has a single empty word, which says
nothing.

* `Rule.StandsFor`, `Rule.FormOf`: the tokens that stand for a word, and the specifications that have
  given words.
* `Rule.words_of_forall₂`, `Rule.words_joined`: the words of rows and of texts.
* `Rule.interpret_of_form`: every form means what the row of its words means.
* `Rule.interpret_forms`: **the form does not count**, and rows of tokens stay as they are.
-/
import Mathlib.Data.List.Forall2
import RouteAtlas.Proofs.QualifiedName
import RouteAtlas.Proofs.RuleMeaning

namespace RouteAtlas.Rule

/-! ### Forms -/

/-- **The tokens that stand for a word**: the word itself, and any rule object with this text. -/
inductive StandsFor (word : String) : Value → Prop
  | text : StandsFor word (.text word)
  | object (className : String) : StandsFor word (.ruleObject className (some word))

/-- **The forms of a specification**: a text with bars between the words, or a list or tuple of
tokens that stand for them. -/
inductive FormOf (ws : List String) : Value → Prop
  | joined : FormOf ws (.text ("|".intercalate ws))
  | list {ts : List Value} : List.Forall₂ StandsFor ws ts → FormOf ws (.list ts)
  | tuple {ts : List Value} : List.Forall₂ StandsFor ws ts → FormOf ws (.tuple ts)

/-! ### The words of a form -/

variable {ws : List String} {ts : List Value} {spec : Value}

/-- A token has the word that it stands for. -/
lemma StandsFor.word?_token {word : String} {t : Value} (h : StandsFor word t) :
    word? (token t) = some word := by
  cases h <;> rfl

/-- Tuples are read as lists are. -/
lemma words_tuple (ts : List Value) : words (.tuple ts) = words (.list ts) := rfl

/-- **A row has the words that its tokens stand for.** -/
lemma words_of_forall₂ (h : List.Forall₂ StandsFor ws ts) : words (.list ts) = ws := by
  rw [words_list]
  induction h with
  | nil => rfl
  | cons hword _ ih => rw [List.filterMap_cons, hword.word?_token, ih]

/-- **A text has the words with bars between them**, if there are any. -/
lemma words_joined (hne : ws ≠ []) (hbars : ∀ w ∈ ws, '|' ∉ w.toList) :
    words (.text ("|".intercalate ws)) = ws := by
  rw [words, tokens, Text.splitOn_intercalate rfl hne hbars, List.map_map, List.filterMap_map]
  simp [Function.comp_def, word?]

/-- The empty word says nothing. -/
lemma not_recognised_empty : ¬Recognised "" := by
  rw [Recognised]
  decide

/-- The words of a form tell the same facts as those from which it was made. -/
lemma FormOf.sameFacts (h : FormOf ws spec) (hbars : ∀ w ∈ ws, '|' ∉ w.toList) :
    SameFacts (words spec) ws := by
  cases h with
  | joined =>
      by_cases hempty : ws = []
      · subst hempty
        exact @SameFacts.insert [] [] "" (Or.inl not_recognised_empty)
      · rw [words_joined hempty hbars]
        exact SameFacts.refl ws
  | list htokens =>
      rw [words_of_forall₂ htokens]
      exact SameFacts.refl ws
  | tuple htokens =>
      rw [words_tuple, words_of_forall₂ htokens]
      exact SameFacts.refl ws

/-- **Every form means what the row of its words means.** -/
lemma interpret_of_form (field : String) (h : FormOf ws spec) (hbars : ∀ w ∈ ws, '|' ∉ w.toList) :
    interpret field spec = interpret field (.list (ws.map .text)) := by
  have hwords : words (.list (ws.map .text)) = ws := by
    refine words_of_forall₂ (List.forall₂_map_right_iff.mpr ?_)
    exact List.forall₂_same.mpr fun _ _ => .text
  refine interpret_congr field ?_
  rw [hwords]
  exact h.sameFacts hbars

/-- **The form of a specification does not count.** All forms of words without bars, of which there
may be none, give the same parameter or the same failure. And rows of tokens stay as they are: the
tokens of a specification are their own tokens, also those without a text. -/
theorem interpret_forms (field : String) :
    (∀ ws : List String, (∀ w ∈ ws, '|' ∉ w.toList) → ∀ spec spec' : Value,
      FormOf ws spec → FormOf ws spec' → interpret field spec = interpret field spec') ∧
    ∀ spec : Value, tokens (.list (tokens spec)) = tokens spec := by
  refine ⟨fun ws hbars spec spec' hspec hspec' => ?_, tokens_tokens⟩
  rw [interpret_of_form field hspec hbars, interpret_of_form field hspec' hbars]

/-- **Forms of one specification**: an empty word, an object for a limit that is bad, and no words
at all. -/
theorem badLimit_forms :
    interpret "age" (.text "required||int|min:low") =
        interpret "age" (.tuple [.text "required", .ruleObject "Blank" (some ""), .text "int",
          .ruleObject "Min" (some "min:low")]) ∧
      interpret "age" (.text "required||int|min:low") = .error (.badBound "age" "min:" "low") ∧
      interpret "age" (.text "") = interpret "age" (.list []) ∧
      tokens (.list (tokens (.ruleObject "Opaque" none))) = [.ruleObject "Opaque" none] := by
  obtain ⟨hforms, htokens⟩ := interpret_forms "age"
  refine ⟨hforms ["required", "", "int", "min:low"] (by decide) _ _ .joined (.tuple ?_), rfl,
    hforms [] (by decide) _ _ .joined (.list .nil), htokens _⟩
  exact .cons .text <| .cons (.object _) <| .cons .text <| .cons (.object _) .nil

end RouteAtlas.Rule
