/-
What a rule specification means.

A specification is read in many scans over its words: some look for a word, one for a form of words,
and some for the first word that starts with the name of a rule. All that they find is collected in
a few facts, and specifications with the same facts mean the same.

* `Rule.HasForeignKeyForm`, `Rule.StartsWith`: the forms of words that are looked for.
* `Rule.first?`, `Rule.firstArgument?_eq`: the first word of a rule, and its argument.
* `Rule.SameFacts`: rows of words in which all scans find the same.
* `Rule.interpret_congr`: **specifications with the same facts mean the same**, also where they fail.
* `Rule.SameFacts.of_mem`: rows with the same recognised words and the same first words of each rule
  have the same facts; so do a row and the row without a word that says nothing or was there before.
* `Rule.interpret_insensitive`: **noise, order and repetition do not count**.
-/
import Mathlib.Data.List.Basic
import RouteAtlas.Rule.Field

namespace RouteAtlas.Rule

/-! ### Forms of words -/

/-- Whether a word has the form that says that a field is the key of another table: the name of the
rule, any text, a comma with `id` behind it, and any text. -/
def HasForeignKeyForm (word : String) : Prop :=
  ∃ table column, word.toList = "exists:".toList ++ (table ++ ",id".toList ++ column)

/-- The form is recognised. -/
lemma isForeignKey_iff {word : String} : isForeignKey word = true ↔ HasForeignKeyForm word := by
  rw [isForeignKey, HasForeignKeyForm, Option.any_eq_true]
  constructor
  · rintro ⟨rest, hrest, hid⟩
    obtain ⟨table, column, hparts⟩ := Text.contains_eq_true_iff.mp hid
    exact ⟨table, column, by rw [Text.cutPrefix?_eq_some_iff.mp hrest, hparts]⟩
  · rintro ⟨table, column, hword⟩
    exact ⟨_, Text.cutPrefix?_eq_some_iff.mpr hword,
      Text.contains_eq_true_iff.mpr ⟨table, column, rfl⟩⟩

instance : DecidablePred HasForeignKeyForm := fun _ => decidable_of_iff _ isForeignKey_iff

/-- Whether a word starts with the name of a rule. -/
def StartsWith (rule word : String) : Prop :=
  rule.toList <+: word.toList

instance (rule word : String) : Decidable (StartsWith rule word) :=
  inferInstanceAs (Decidable (_ <+: _))

/-- A word has an argument under a rule exactly if it starts with its name. -/
lemma isSome_argument? (rule word : String) :
    (argument? rule word).isSome = decide (StartsWith rule word) := by
  rw [argument?, Option.isSome_map, Bool.eq_iff_iff, Option.isSome_iff_exists, decide_eq_true_eq]
  exact exists_congr fun rest => Text.cutPrefix?_eq_some_iff.trans eq_comm

/-- The first word that starts with the name of a rule. -/
def first? (rule : String) (ws : List String) : Option String :=
  ws.find? fun w => StartsWith rule w

/-- The argument of a rule is that of the first word of the rule. -/
lemma firstArgument?_eq (rule : String) (ws : List String) :
    firstArgument? rule ws = (first? rule ws).bind (argument? rule) := by
  rw [firstArgument?, first?]
  induction ws with
  | nil => rfl
  | cons w rest ih =>
      have hsome := isSome_argument? rule w
      rw [List.findSome?_cons, List.find?_cons, ← hsome]
      cases hargument : argument? rule w with
      | none => exact ih
      | some argument => exact hargument.symm

/-- The choices are those of the first word that lists some. -/
lemma choicesOf_eq (ws : List String) : choicesOf ws = ((first? "in:" ws).map choices).getD [] := by
  have hfirst : (ws.find? fun w => (argument? "in:" w).isSome) = first? "in:" ws := by
    simp only [isSome_argument?, first?]
  rw [choicesOf, hfirst]
  cases first? "in:" ws <;> rfl

/-! ### The facts of a row of words -/

/-- The rules of which the first word counts. -/
def argumentRules : List String := ["in:", "min:", "max:"]

/-- **Rows of words with the same facts**: of the words for kinds, for null and for presence the
same ones occur in both, as does the form of a foreign key, and both have the same first word of
each rule with an argument. -/
structure SameFacts (ws ws' : List String) : Prop where
  truthValue : ("bool" ∈ ws ∨ "boolean" ∈ ws) ↔ ("bool" ∈ ws' ∨ "boolean" ∈ ws')
  numeric : "numeric" ∈ ws ↔ "numeric" ∈ ws'
  whole : ("integer" ∈ ws ∨ "int" ∈ ws) ↔ ("integer" ∈ ws' ∨ "int" ∈ ws')
  nullable : "nullable" ∈ ws ↔ "nullable" ∈ ws'
  required : "required" ∈ ws ↔ "required" ∈ ws'
  foreignKey : (∃ w ∈ ws, HasForeignKeyForm w) ↔ ∃ w ∈ ws', HasForeignKeyForm w
  first : ∀ rule ∈ argumentRules, first? rule ws = first? rule ws'

/-- A word is found in both rows or in none. -/
lemma contains_congr {ws ws' : List String} {w : String} (h : w ∈ ws ↔ w ∈ ws') :
    ws.contains w = ws'.contains w := by
  rw [Bool.eq_iff_iff]
  simpa using h

/-- One of two words is found in both rows or in none. -/
lemma contains_or_congr {ws ws' : List String} {w v : String}
    (h : (w ∈ ws ∨ v ∈ ws) ↔ (w ∈ ws' ∨ v ∈ ws')) :
    (ws.contains w || ws.contains v) = (ws'.contains w || ws'.contains v) := by
  rw [Bool.eq_iff_iff]
  simpa using h

namespace SameFacts

variable {ws ws' : List String} (h : SameFacts ws ws')
include h

/-- The same words give the same kind. -/
lemma kindOf_eq : kindOf ws = kindOf ws' := by
  have hkey : ws.any isForeignKey = ws'.any isForeignKey := by
    rw [Bool.eq_iff_iff, List.any_eq_true, List.any_eq_true]
    simpa only [isForeignKey_iff] using h.foreignKey
  rw [kindOf, kindOf, hkey, contains_or_congr h.truthValue, contains_congr h.numeric,
    contains_or_congr h.whole]

/-- The same words allow null, and the same first word lists the choices. -/
lemma modifiers_eq : modifiers ws = modifiers ws' := by
  have hchoices : choicesOf ws = choicesOf ws' := by
    rw [choicesOf_eq, choicesOf_eq, h.first "in:" (by decide)]
  rw [modifiers, modifiers, contains_congr h.nullable, hchoices]

/-- The same first word of a rule gives the same limit, or the same failure. -/
lemma limit_eq (field rule : String) (hrule : rule ∈ argumentRules) :
    limit field rule ws = limit field rule ws' := by
  have hargument : firstArgument? rule ws = firstArgument? rule ws' := by
    rw [firstArgument?_eq, firstArgument?_eq, h.first rule hrule]
  rw [limit, limit, hargument]

/-- **The same facts give the same schema**, or the same failure. -/
lemma schema_eq (field : String) : schema field ws = schema field ws' := by
  rw [schema, schema, h.kindOf_eq, h.modifiers_eq, h.limit_eq field "min:" (by decide),
    h.limit_eq field "max:" (by decide)]

end SameFacts

/-- **Specifications with the same facts mean the same.** -/
lemma interpret_congr (field : String) {spec spec' : Value}
    (h : SameFacts (words spec) (words spec')) : interpret field spec = interpret field spec' := by
  rw [interpret, interpret, h.schema_eq field, contains_congr h.required]

/-! ### Noise, order and repetition -/

/-- Whether a word says something about a field. -/
def Recognised (word : String) : Prop :=
  word ∈ ["bool", "boolean", "numeric", "integer", "int", "nullable", "required"] ∨
    HasForeignKeyForm word ∨ ∃ rule ∈ argumentRules, StartsWith rule word

/-- Whether a token says nothing: it has no text, or its text is no word that says something. -/
def SaysNothing (t : Value) : Prop :=
  ∀ w, word? (token t) = some w → ¬Recognised w

/-- Rows with the same recognised words and the same first words of each rule have the same
facts. -/
lemma SameFacts.of_mem {ws ws' : List String} (hmem : ∀ w, Recognised w → (w ∈ ws ↔ w ∈ ws'))
    (hfirst : ∀ rule ∈ argumentRules, first? rule ws = first? rule ws') : SameFacts ws ws' := by
  have hword : ∀ w ∈ ["bool", "boolean", "numeric", "integer", "int", "nullable", "required"],
      (w ∈ ws ↔ w ∈ ws') := fun w hw => hmem w (Or.inl hw)
  constructor
  case truthValue => rw [hword "bool" (by decide), hword "boolean" (by decide)]
  case numeric => exact hword "numeric" (by decide)
  case whole => rw [hword "integer" (by decide), hword "int" (by decide)]
  case nullable => exact hword "nullable" (by decide)
  case required => exact hword "required" (by decide)
  case foreignKey =>
    exact exists_congr fun w => and_congr_left fun hform => hmem w (Or.inr (Or.inl hform))
  case first => exact hfirst

/-- **A word that says nothing, or was there before, can be left out.** -/
lemma SameFacts.insert {before after : List String} {w : String}
    (hw : ¬Recognised w ∨ w ∈ before) : SameFacts (before ++ w :: after) (before ++ after) := by
  refine SameFacts.of_mem (fun u hu => ?_) (fun rule hrule => ?_)
  · have hsame : u = w → u ∈ before := by
      rintro rfl
      exact hw.resolve_left (not_not_intro hu)
    simp only [List.mem_append, List.mem_cons]
    tauto
  · rw [first?, first?, List.find?_append, List.find?_append]
    by_cases hstart : StartsWith rule w
    · -- the word was there before, so the first word of the rule is not behind it
      have hbefore : w ∈ before :=
        hw.resolve_left (not_not_intro (Or.inr (Or.inr ⟨rule, hrule, hstart⟩)))
      have hfound : (before.find? fun w => StartsWith rule w).isSome = true :=
        List.find?_isSome.mpr ⟨w, hbefore, decide_eq_true hstart⟩
      obtain ⟨u, hu⟩ := Option.isSome_iff_exists.mp hfound
      rw [hu, Option.some_or, Option.some_or]
    · rw [List.find?_cons_of_neg (by simpa using hstart)]

/-- The order of words does not count, as long as the first words of each rule stay first. -/
lemma SameFacts.of_perm {ws ws' : List String} (hperm : ws.Perm ws')
    (hfirst : ∀ rule ∈ argumentRules, first? rule ws = first? rule ws') : SameFacts ws ws' :=
  SameFacts.of_mem (fun _ _ => hperm.mem_iff) hfirst

/-- Rows without a difference have the same facts. -/
lemma SameFacts.refl (ws : List String) : SameFacts ws ws :=
  SameFacts.of_mem (fun _ _ => Iff.rfl) fun _ _ => rfl

/-- The words of a row of tokens are the texts of its tokens, one by one. -/
lemma words_list (ts : List Value) : words (.list ts) = ts.filterMap fun t => word? (token t) := by
  rw [words, tokens, List.filterMap_map]
  rfl

/-- **What tokens mean does not hang on noise, order and repetition.** Specifications with the same
facts give the same parameter or the same failure. So a token that says nothing, or that repeats an
earlier one, can be left out anywhere, and tokens can be put in any order in which the first words
of the rules with an argument stay first. -/
theorem interpret_insensitive (field : String) :
    (∀ spec spec' : Value, SameFacts (words spec) (words spec') →
      interpret field spec = interpret field spec') ∧
    (∀ (before after : List Value) (t : Value),
      (SaysNothing t ∨ ∃ u ∈ before, token u = token t) →
        interpret field (.list (before ++ t :: after)) = interpret field (.list (before ++ after))) ∧
    ∀ ts ts' : List Value, ts.Perm ts' →
      (∀ rule ∈ argumentRules, first? rule (words (.list ts)) = first? rule (words (.list ts'))) →
        interpret field (.list ts) = interpret field (.list ts') := by
  refine ⟨fun _ _ => interpret_congr field, fun before after t ht => ?_, fun ts ts' hperm h => ?_⟩
  · refine interpret_congr field ?_
    rw [words_list, words_list, List.filterMap_append, List.filterMap_append, List.filterMap_cons]
    cases hword : word? (token t) with
    | none => exact SameFacts.refl _
    | some w =>
        refine SameFacts.insert (ht.imp (fun hnothing => hnothing w hword) ?_)
        rintro ⟨u, hu, hsame⟩
        exact List.mem_filterMap.mpr ⟨u, hu, by rw [hsame, hword]⟩
  · refine interpret_congr field (SameFacts.of_perm ?_ h)
    rw [words_list, words_list]
    exact hperm.filterMap _

/-- Tokens that look like several at once: a foreign key with more behind it, a choice that is the
word of another rule, and a limit whose argument is no number. -/
def tangledTokens : List Value :=
  [.ruleObject "Exists" (some "exists:a,b,idx"), .text "in:required", .text "min:in:", .text "int"]

/-- A specification with the same facts, in another order and with more words. -/
def tangledText : Value :=
  .text "min:in:|integer|sometimes|in:required|in:min:3|min:5|exists:t,id"

/-- **Tangled tokens**: in another form, with noise, with a repetition and backwards they fail for
the same limit. -/
theorem tangledTokens_insensitive :
    interpret "role" tangledText = interpret "role" (.list tangledTokens) ∧
      interpret "role" (.list (tangledTokens ++ [.ruleObject "Opaque" none])) =
        interpret "role" (.list tangledTokens) ∧
      interpret "role" (.list (tangledTokens ++ [.text "exists:a,b,idx"])) =
        interpret "role" (.list tangledTokens) ∧
      interpret "role" (.list tangledTokens.reverse) = interpret "role" (.list tangledTokens) ∧
      interpret "role" (.list tangledTokens) = .error (.badBound "role" "min:" "in:") := by
  obtain ⟨hfacts, hleft, hperm⟩ := interpret_insensitive "role"
  have htext : words tangledText =
      ["min:in:", "integer", "sometimes", "in:required", "in:min:3", "min:5", "exists:t,id"] := by
    decide +kernel
  have hlist : words (.list tangledTokens) =
      ["exists:a,b,idx", "in:required", "min:in:", "int"] := by decide +kernel
  have hback : words (.list tangledTokens.reverse) =
      ["int", "min:in:", "in:required", "exists:a,b,idx"] := by decide +kernel
  refine ⟨hfacts _ _ ?_, hleft tangledTokens [] _ (Or.inl ?_), hleft tangledTokens [] _ (Or.inr ?_),
    hperm _ _ (List.reverse_perm _) ?_, rfl⟩
  · rw [htext, hlist]
    constructor <;> decide +kernel
  · intro w hw
    cases hw
  · exact ⟨_, List.mem_cons_self, rfl⟩
  · rw [hlist, hback]
    decide +kernel

end RouteAtlas.Rule
