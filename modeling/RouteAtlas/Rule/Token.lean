/-
The tokens of a rule specification.

A specification is a text with bars between its tokens, a row of tokens, or a single token. Tokens
that have a textual form stand for it; other tokens are kept and mean nothing.

* `Rule.tokens`, `Rule.words`: the tokens of a specification, and those that are texts.
* `Rule.argument?`: what follows the name of a rule in a token.
* `Rule.tokens_tokens`: the tokens of a row of tokens are the row itself.
-/
import RouteAtlas.Value
import RouteAtlas.Text.Pieces

namespace RouteAtlas.Rule

/-- A token, as a text if it has a textual form. -/
def token : Value → Value
  | .ruleObject _ (some text) => .text text
  | .bytes bs => .text (Text.quotedBytes bs)
  | .date d => .text d.text
  | .moment m => .text m.text
  | value => value

/-- The tokens of a specification. -/
def tokens : Value → List Value
  | .text s => (Text.splitOn '|' s.toList).map fun piece => .text (String.ofList piece)
  | .list items => items.map token
  | .tuple items => items.map token
  | value => [token value]

/-- The text of a token that is one. -/
def word? : Value → Option String
  | .text s => some s
  | _ => none

/-- The tokens of a specification that are texts. -/
def words (spec : Value) : List String :=
  (tokens spec).filterMap word?

/-- What follows the name of a rule in a token. -/
def argument? (rule word : String) : Option String :=
  (Text.cutPrefix? rule.toList word.toList).map String.ofList

/-- What follows the name of a rule in the first token that starts with it. -/
def firstArgument? (rule : String) (words : List String) : Option String :=
  words.findSome? (argument? rule)

/-- A token that stands for its text is a text from then on. -/
theorem token_token (value : Value) : token (token value) = token value := by
  cases value with
  | ruleObject _ text => cases text <;> rfl
  | _ => rfl

/-- Tokens stand for their texts. -/
theorem token_of_mem_tokens {spec value : Value} (h : value ∈ tokens spec) :
    token value = value := by
  unfold tokens at h
  split at h
  · obtain ⟨piece, _, rfl⟩ := List.mem_map.1 h
    rfl
  · obtain ⟨item, _, rfl⟩ := List.mem_map.1 h
    exact token_token item
  · obtain ⟨item, _, rfl⟩ := List.mem_map.1 h
    exact token_token item
  · rw [List.mem_singleton.1 h]
    exact token_token _

/-- The tokens of a row of tokens are the row itself. -/
theorem tokens_tokens (spec : Value) : tokens (.list (tokens spec)) = tokens spec := by
  rw [tokens, List.map_congr_left fun _ h => token_of_mem_tokens h, List.map_id']

end RouteAtlas.Rule
