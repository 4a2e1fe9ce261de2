/-
The limits of a field.

Tokens name limits as texts. They count for numbers only, and of several tokens of one rule only the
first; an empty text is no limit, and any other one has to show a finite number.

* `Schema.limits`, `Schema.part?_limits`: the limits of a schema, and where they are written.
* `Rule.AsksForNumber`, `Rule.isNumeric_make_kindOf`: the words that make a field a number.
* `Rule.Gives`, `Rule.Shows`, `Rule.IsBad`: the argument of a rule, the number that it shows, and
  arguments that show none.
* `Rule.limit_eq_error_iff`, `Rule.isLimit_limit`: a rule fails exactly for a bad argument, and else
  sets what its argument shows.
* `Rule.schema_eq_error_iff`, `Rule.isLimit_schema`: a field fails as its least value does, or else
  as its greatest value does, and only if it is a number.
* `Rule.interpret_limits`: **when limits fail, and what they are**.
-/
import RouteAtlas.Proofs.Components
import RouteAtlas.Proofs.RuleMeaning

namespace RouteAtlas

/-! ### Where limits are written -/

namespace Schema

/-- The least and the greatest value of a schema. -/
def limits : Schema → Option Limit × Option Limit
  | numeric _ _ minimum maximum => (minimum, maximum)
  | _ => (none, none)

/-- No name but those of the kind, of null and of the choices stands in the common part of a tree. -/
lemma get?_commonTree (s : Schema) {name : String} (h : name ∉ ["type", "nullable", "enum"]) :
    Listing.get? (commonTree s) name = none := by
  rw [Listing.get?_eq_none_iff]
  intro hmem
  refine h ?_
  obtain ⟨entry, hentry, rfl⟩ := List.mem_map.mp hmem
  simp only [commonTree, kindTree, nullableTree, choicesTree, List.mem_append] at hentry
  rcases hentry with (hkind | hnull) | hchoices
  · split at hkind <;> simp_all
  · split at hnull <;> simp_all
  · split at hchoices <;> simp_all

/-- A limit stands under its own name. -/
lemma get?_limitTree (rule name : String) (limit : Option Limit) :
    Listing.get? (limitTree rule limit) name = if rule = name then limit.map Limit.tree else none := by
  cases limit <;> simp [limitTree, Listing.get?]

/-- **The limits of a schema stand in its tree** under their names, and nothing else does. -/
lemma part?_limits (s : Schema) :
    s.tree.part? ["minimum"] = s.limits.1.map Limit.tree ∧
      s.tree.part? ["maximum"] = s.limits.2.map Limit.tree := by
  have hpart : ∀ (fields : Listing Value) (name : String),
      (Value.record fields).part? [name] = Listing.get? fields name := by
    intro fields name
    rw [Value.part?_record]
    cases Listing.get? fields name <;> rfl
  have hminimum := s.get?_commonTree (show "minimum" ∉ _ by decide)
  have hmaximum := s.get?_commonTree (show "maximum" ∉ _ by decide)
  cases s with
  | numeric m isWhole minimum maximum =>
      rw [tree, hpart, hpart]
      simp only [Listing.get?_append, get?_limitTree, hminimum, hmaximum]
      simp [limits]
  | object m properties required =>
      rw [tree, hpart, hpart]
      simp only [Listing.get?_append, hminimum, hmaximum]
      constructor <;> split <;> split <;> rfl
  | reference m target =>
      rw [tree, hpart, hpart, nullableTree]
      constructor <;> split <;> rfl
  | _ =>
      rw [tree, hpart, hpart]
      exact ⟨hminimum, hmaximum⟩

end Schema

namespace Rule

/-! ### Fields that are numbers -/

/-- **Whether words ask for a number**: one of them is a foreign key, or there is a word for numbers
and none for truth values. -/
def AsksForNumber (ws : List String) : Prop :=
  (∃ w ∈ ws, HasForeignKeyForm w) ∨
    ("bool" ∉ ws ∧ "boolean" ∉ ws) ∧ ("numeric" ∈ ws ∨ "integer" ∈ ws ∨ "int" ∈ ws)

instance (ws : List String) : Decidable (AsksForNumber ws) :=
  inferInstanceAs (Decidable (_ ∨ _))

/-- The kind of a field is that of a number exactly if its words ask for one. -/
lemma isNumeric_make_kindOf (ws : List String) :
    (Schema.make (kindOf ws)).isNumeric = true ↔ AsksForNumber ws := by
  have hkey : ws.any isForeignKey = true ↔ ∃ w ∈ ws, HasForeignKeyForm w := by
    rw [List.any_eq_true]
    simp only [isForeignKey_iff]
  rw [AsksForNumber, ← hkey, kindOf]
  simp only [Bool.or_eq_true, List.contains_eq_mem, decide_eq_true_eq]
  split_ifs with hforeign htruth hnumber hwhole
  · exact iff_of_true rfl (Or.inl hforeign)
  · exact iff_of_false Bool.false_ne_true (by tauto)
  · exact iff_of_true rfl (by tauto)
  · exact iff_of_true rfl (by tauto)
  · exact iff_of_false Bool.false_ne_true (by tauto)

/-! ### Arguments -/

/-- **The argument that words give to a rule**: that of the first word that starts with the name of
the rule, unless it is empty. -/
def Gives (ws : List String) (rule argument : String) : Prop :=
  argument ≠ "" ∧ ∃ before after, ws = before ++ (rule ++ argument) :: after ∧
    ∀ w ∈ before, ¬StartsWith rule w

/-- **The number that an argument shows**, which is finite. -/
def Shows (argument : String) (x : Binary64) : Prop :=
  Binary64.ofChars? argument.toList = some x ∧ x.isFinite = true

/-- **Whether words give a rule a bad argument**, which shows no finite number. -/
def IsBad (ws : List String) (rule argument : String) : Prop :=
  Gives ws rule argument ∧ ∀ x, ¬Shows argument x

/-- A word has an argument exactly if it is the name of the rule with the argument behind it. -/
lemma argument?_eq_some_iff {rule word argument : String} :
    argument? rule word = some argument ↔ word = rule ++ argument := by
  rw [argument?, Option.map_eq_some_iff]
  constructor
  · rintro ⟨rest, hrest, rfl⟩
    rw [← String.toList_inj, String.toList_append, String.toList_ofList]
    exact Text.cutPrefix?_eq_some_iff.mp hrest
  · rintro rfl
    exact ⟨argument.toList, Text.cutPrefix?_eq_some_iff.mpr String.toList_append,
      String.ofList_toList⟩

/-- The given argument is the first one, unless it is empty. -/
lemma gives_iff {ws : List String} {rule argument : String} :
    Gives ws rule argument ↔ firstArgument? rule ws = some argument ∧ argument ≠ "" := by
  have hnone : ∀ w, argument? rule w = none ↔ ¬StartsWith rule w := by
    intro w
    rw [← Option.not_isSome_iff_eq_none, isSome_argument?, decide_eq_true_eq]
  rw [Gives, firstArgument?, List.findSome?_eq_some_iff, and_comm]
  refine and_congr_left fun _ => ?_
  constructor
  · rintro ⟨before, after, hws, hbefore⟩
    exact ⟨before, _, after, hws, argument?_eq_some_iff.mpr rfl,
      fun w hw => (hnone w).mpr (hbefore w hw)⟩
  · rintro ⟨before, word, after, hws, hword, hbefore⟩
    rw [argument?_eq_some_iff.mp hword] at hws
    exact ⟨before, after, hws, fun w hw => (hnone w).mp (hbefore w hw)⟩

/-- Words give a rule at most one argument. -/
lemma Gives.unique {ws : List String} {rule argument argument' : String}
    (h : Gives ws rule argument) (h' : Gives ws rule argument') : argument' = argument :=
  Option.some.inj ((gives_iff.mp h').1.symm.trans (gives_iff.mp h).1)

/-! ### Limits -/

section Limits

variable {field rule argument : String} {ws : List String} {failure : Failure}

/-- An argument is a limit exactly if it shows a finite number. -/
lemma bound_eq_ok_iff {x : Binary64} : bound field rule argument = .ok x ↔ Shows argument x := by
  rw [bound, Shows]
  cases Binary64.ofChars? argument.toList with
  | none => simp
  | some y =>
      by_cases hy : y.isFinite = true
      · simp only [hy, if_true, Except.ok.injEq, Option.some.injEq]
        constructor
        · rintro rfl
          exact ⟨rfl, hy⟩
        · exact And.left
      · simp only [hy, if_false, reduceCtorEq, Option.some.injEq, false_iff, not_and]
        rintro rfl
        exact hy

/-- An argument is no limit exactly if it shows no finite number. -/
lemma bound_eq_error_iff :
    bound field rule argument = .error failure ↔
      (∀ x, ¬Shows argument x) ∧ failure = .badBound field rule argument := by
  cases hbound : bound field rule argument with
  | ok x =>
      have hshows := bound_eq_ok_iff.mp hbound
      simp only [reduceCtorEq, false_iff, not_and]
      exact fun hnone => absurd hshows (hnone x)
  | error cause =>
      have hcause : cause = .badBound field rule argument := by
        rw [bound] at hbound
        split at hbound
        · split at hbound <;> cases hbound
          rfl
        · cases hbound
          rfl
      have hnone : ∀ x, ¬Shows argument x := by
        intro x hx
        rw [bound_eq_ok_iff.mpr hx] at hbound
        cases hbound
      rw [hcause, Except.error.injEq]
      exact ⟨fun h => ⟨hnone, h.symm⟩, fun h => h.2.symm⟩

/-- A rule without an argument sets no limit. -/
lemma limit_of_not_gives (h : ∀ argument, ¬Gives ws rule argument) :
    limit field rule ws = .ok none := by
  rw [limit]
  split
  · next argument hargument =>
    have hempty : argument = "" := by
      by_contra hne
      exact h argument (gives_iff.mpr ⟨hargument, hne⟩)
    rw [if_pos hempty]
  · rfl

/-- A rule with an argument sets what the argument shows. -/
lemma limit_of_gives (h : Gives ws rule argument) :
    limit field rule ws = (bound field rule argument).map fun x => some (.real x) := by
  obtain ⟨hargument, hne⟩ := gives_iff.mp h
  rw [limit, hargument]
  exact if_neg hne

/-- **A rule fails exactly for a bad argument.** -/
lemma limit_eq_error_iff :
    limit field rule ws = .error failure ↔
      ∃ argument, IsBad ws rule argument ∧ failure = .badBound field rule argument := by
  by_cases hgives : ∃ argument, Gives ws rule argument
  · obtain ⟨argument, hgives⟩ := hgives
    have hmap : limit field rule ws = .error failure ↔
        bound field rule argument = .error failure := by
      rw [limit_of_gives hgives]
      cases bound field rule argument <;> simp [Except.map]
    rw [hmap, bound_eq_error_iff]
    constructor
    · rintro ⟨hnone, hfailure⟩
      exact ⟨argument, ⟨hgives, hnone⟩, hfailure⟩
    · rintro ⟨other, ⟨hother, hnone⟩, hfailure⟩
      obtain rfl := hgives.unique hother
      exact ⟨hnone, hfailure⟩
  · have hnone := not_exists.mp hgives
    rw [limit_of_not_gives hnone]
    simp only [reduceCtorEq, false_iff]
    rintro ⟨argument, ⟨hargument, -⟩, -⟩
    exact hnone argument hargument

/-- A rule does not fail exactly if its argument is not bad. -/
lemma exists_limit_iff :
    (∃ l, limit field rule ws = .ok l) ↔ ∀ argument, ¬IsBad ws rule argument := by
  cases hlimit : limit field rule ws with
  | ok l =>
      simp only [Except.ok.injEq, exists_eq', true_iff]
      intro argument hbad
      rw [limit_eq_error_iff.mpr ⟨argument, hbad, rfl⟩] at hlimit
      cases hlimit
  | error failure =>
      obtain ⟨argument, hbad, -⟩ := limit_eq_error_iff.mp hlimit
      simp only [reduceCtorEq, exists_false, false_iff, not_forall, not_not]
      exact ⟨argument, hbad⟩

/-- **What is written as a limit is what words ask for** under a rule: there is a limit exactly if
they ask for a number and give the rule an argument, and it is the number that the argument shows. -/
structure IsLimit (ws : List String) (rule : String) (written : Option Value) : Prop where
  isSome_iff : written.isSome = true ↔ AsksForNumber ws ∧ ∃ argument, Gives ws rule argument
  shown : ∀ argument, AsksForNumber ws → Gives ws rule argument →
    ∃ x, Shows argument x ∧ written = some (.float x)

/-- Where no number is asked for, no limit is. -/
lemma isLimit_none (h : ¬AsksForNumber ws) : IsLimit ws rule none where
  isSome_iff := by simp [h]
  shown argument hasks := absurd hasks h

/-- **A rule sets the limit that is asked for.** -/
lemma isLimit_limit (h : AsksForNumber ws) {l : Option Limit} (hlimit : limit field rule ws = .ok l) :
    IsLimit ws rule (l.map Limit.tree) := by
  by_cases hgives : ∃ argument, Gives ws rule argument
  · obtain ⟨argument, hargument⟩ := hgives
    obtain ⟨x, hx, rfl⟩ : ∃ x, Shows argument x ∧ l = some (.real x) := by
      rw [limit_of_gives hargument] at hlimit
      cases hbound : bound field rule argument with
      | error failure => rw [hbound] at hlimit; cases hlimit
      | ok x =>
          rw [hbound] at hlimit
          cases hlimit
          exact ⟨x, bound_eq_ok_iff.mp hbound, rfl⟩
    constructor
    case isSome_iff => simpa using ⟨h, argument, hargument⟩
    case shown =>
      intro other _ hother
      obtain rfl := hargument.unique hother
      exact ⟨x, hx, rfl⟩
  · rw [limit_of_not_gives (not_exists.mp hgives)] at hlimit
    cases hlimit
    constructor
    case isSome_iff => simpa using fun _ => not_exists.mp hgives
    case shown =>
      intro argument _ hargument
      exact absurd ⟨argument, hargument⟩ hgives

end Limits

/-! ### Fields -/

section Fields

variable {field : String} {ws : List String} {failure : Failure} {s : Schema}

/-- The schema of a number has the limits of its two rules, of which the least value comes first. -/
lemma schema_of_asks (h : AsksForNumber ws) (field : String) :
    ∃ isWhole, schema field ws =
      limit field "min:" ws >>= fun minimum => limit field "max:" ws >>= fun maximum =>
        .ok (.numeric (modifiers ws) isWhole minimum maximum) := by
  have hnumeric := (isNumeric_make_kindOf ws).mpr h
  rw [schema]
  cases hmake : Schema.make (kindOf ws) with
  | numeric m isWhole minimum maximum => exact ⟨isWhole, rfl⟩
  | _ =>
      rw [hmake] at hnumeric
      cases hnumeric

/-- The schema of any other field has none, whatever its rules name. -/
lemma schema_of_not_asks (h : ¬AsksForNumber ws) (field : String) :
    schema field ws = .ok (.string (modifiers ws)) ∨
      schema field ws = .ok (.boolean (modifiers ws)) := by
  have hnumeric := mt (isNumeric_make_kindOf ws).mp h
  have hobject : kindOf ws ≠ .object := by
    rw [kindOf]
    split_ifs <;> decide
  rw [schema]
  cases hkind : kindOf ws with
  | string => exact Or.inl rfl
  | boolean => exact Or.inr rfl
  | object => exact absurd hkind hobject
  | _ =>
      rw [hkind] at hnumeric
      exact absurd rfl hnumeric

/-- **A field fails as its least value does, or else as its greatest value does**, and only if it is
a number. -/
lemma schema_eq_error_iff :
    schema field ws = .error failure ↔
      AsksForNumber ws ∧ (limit field "min:" ws = .error failure ∨
        (∃ l, limit field "min:" ws = .ok l) ∧ limit field "max:" ws = .error failure) := by
  by_cases hasks : AsksForNumber ws
  · obtain ⟨isWhole, hschema⟩ := schema_of_asks hasks field
    rw [hschema]
    cases limit field "min:" ws with
    | error cause => simp [hasks, bind, Except.bind]
    | ok minimum =>
        cases limit field "max:" ws <;> simp [hasks, bind, Except.bind]
  · simp only [hasks, false_and, iff_false]
    rcases schema_of_not_asks hasks field with hschema | hschema <;> simp [hschema]

/-- **The schema of a field has the limits that its words ask for.** -/
lemma isLimit_schema (h : schema field ws = .ok s) :
    (s.isNumeric = true ↔ AsksForNumber ws) ∧
      IsLimit ws "min:" (s.tree.part? ["minimum"]) ∧
      IsLimit ws "max:" (s.tree.part? ["maximum"]) := by
  obtain ⟨hminimum, hmaximum⟩ := s.part?_limits
  rw [hminimum, hmaximum]
  by_cases hasks : AsksForNumber ws
  · obtain ⟨isWhole, hschema⟩ := schema_of_asks hasks field
    rw [hschema] at h
    cases hleast : limit field "min:" ws with
    | error cause => rw [hleast] at h; cases h
    | ok minimum =>
        cases hgreatest : limit field "max:" ws with
        | error cause => rw [hleast, hgreatest] at h; cases h
        | ok maximum =>
            rw [hleast, hgreatest] at h
            cases h
            exact ⟨iff_of_true rfl hasks, isLimit_limit hasks hleast, isLimit_limit hasks hgreatest⟩
  · rcases schema_of_not_asks hasks field with hschema | hschema
    · rw [hschema] at h
      cases h
      exact ⟨iff_of_false Bool.false_ne_true hasks, isLimit_none hasks, isLimit_none hasks⟩
    · rw [hschema] at h
      cases h
      exact ⟨iff_of_false Bool.false_ne_true hasks, isLimit_none hasks, isLimit_none hasks⟩

end Fields

/-- A truth value that is the key of another table, with a least value of zero below zero, a second
one that does not count, and a given greatest value in front. -/
def limitedKey (maximum : String) : Value :=
  .list [.text ("max:" ++ maximum), .text "bool",
    .ruleObject "Exists" (some "exists:users,id"), .text "min:-0", .text "min:low"]

end Rule

end RouteAtlas
