import CardQuery.Operator.Usage
import Mathlib.Tactic.Tauto

/-!
# Accepted conditions

Three places judge a condition: the check of conditions, the check of values
and the registry's own `accepts`.  The first two divide the findings of one
grammar between them, for a comparison that the grammar refuses belongs to the
check of conditions.  Together they report nothing exactly if the registry
accepts the condition.
-/

namespace CardQuery

@[simp] theorem Comparison.ofSymbol?_symbol (comparison : Comparison) :
    ofSymbol? comparison.symbol = some comparison := by
  cases comparison <;> decide

namespace Registry

/-- What the registry asks of a condition that it accepts. -/
theorem accepts_iff {registry : Registry} {name value : Text}
    {comparison : Option Comparison} :
    registry.accepts name value comparison = true ↔
      ∃ operator, registry.get? name = some operator ∧ value ≠ [] ∧
        (∀ sign ∈ comparison, sign.isOrdering = true →
          operator.allowsOrdering = true) ∧
        (operator.grammar.check value
          (comparison.map Comparison.symbol)).errors = [] := by
  have signRead : (comparison.map Comparison.symbol).bind Comparison.ofSymbol? =
      comparison := by
    cases comparison <;> simp
  rw [accepts, acceptsSign, signRead]
  cases found : registry.get? name with
  | none => simp
  | some operator =>
      cases comparison with
      | none => simp [ValueCheck.isClean]
      | some sign =>
          simp only [Bool.and_eq_true, Bool.not_eq_true', Option.any_some,
            Bool.or_eq_true, ValueCheck.isClean, List.isEmpty_iff,
            Option.some.injEq, exists_eq_left', Option.mem_def, forall_eq',
            ne_eq, and_assoc, Option.map_some, ← Bool.not_eq_true]
          tauto

theorem contains_of_accepts {registry : Registry} {name value : Text}
    {comparison : Option Comparison}
    (accepted : registry.accepts name value comparison = true) :
    registry.contains name = true := by
  obtain ⟨operator, found, _⟩ := accepts_iff.mp accepted
  simp [contains, found]

end Registry

namespace Usage

private theorem unsupportedComparison_eq_nil_iff {token : Token}
    {condition : Condition} {operator : Operator} :
    unsupportedComparison token condition operator = [] ↔
      ∀ sign ∈ condition.comparison, sign.isOrdering = true →
        operator.allowsOrdering = true := by
  rw [unsupportedComparison]
  cases comparison : condition.comparison with
  | none => simp
  | some sign =>
      cases ordering : sign.isOrdering <;>
        cases allowed : operator.allowsOrdering <;> simp [ordering]

private theorem refusedComparison_eq_nil_iff {token : Token}
    {condition : Condition}
    {operator : Operator} :
    refusedComparison token condition operator = [] ↔
      ∀ issue ∈ (operator.grammar.check condition.value
        condition.sign?).errors, issue.code ≠ .comparisonNotAllowed := by
  simp [refusedComparison]

/-- The findings about the value of one condition. -/
def valueErrors (registry : Registry) (token : Token) (condition : Condition) :
    List Finding :=
  match registry.get? condition.name with
  | none => []
  | some operator =>
      if condition.value.isEmpty then []
      else
        ((operator.grammar.check condition.value condition.sign?).errors.filter
          (·.code != .comparisonNotAllowed)).map (place token)

theorem checkValues_errors (registry : Registry) (tokens : List Token) :
    (checkValues registry tokens).errors =
      (Token.conditions tokens).flatMap fun (token, condition) =>
        valueErrors registry token condition := by
  simp only [checkValues, known, List.flatMap_map]
  induction Token.conditions tokens with
  | nil => rfl
  | cons first rest ih =>
      rw [List.flatMap_cons, ← ih, List.filterMap_cons]
      cases found : registry.get? first.2.name <;>
        cases empty : first.2.value.isEmpty <;>
          simp [valueErrors, found, empty]

private theorem errors_eq_nil_iff_accepts {registry : Registry}
    {maxDistance : Int}
    {token : Token} {condition : Condition} :
    conditionErrors registry maxDistance token condition = [] ∧
        valueErrors registry token condition = [] ↔
      registry.accepts condition.name condition.value condition.comparison =
        true := by
  rw [conditionErrors, valueErrors, Registry.accepts_iff]
  cases found : registry.get? condition.name with
  | none => simp
  | some operator =>
      by_cases empty : condition.value = []
      · simp [empty]
      · have filled : condition.value.isEmpty = false := by simpa using empty
        simp only [filled, Bool.false_eq_true, if_false, Option.some.injEq,
          exists_eq_left', ne_eq, empty, not_false_eq_true, true_and]
        rw [← @unsupportedComparison_eq_nil_iff token]
        by_cases supported : unsupportedComparison token condition operator = []
        · simp only [supported, List.isEmpty_nil, if_true, true_and,
            refusedComparison_eq_nil_iff, List.map_eq_nil_iff,
            List.filter_eq_nil_iff]
          constructor
          · rintro ⟨noneRefused, noneElse⟩
            apply List.eq_nil_iff_forall_not_mem.mpr
            intro issue member
            have notRefused := noneRefused issue member
            have refused := noneElse issue member
            simp_all
          · intro none
            rw [Condition.sign?, none]
            simp
        · simp [supported]

/-- A query has no fault in its conditions and their values exactly if the
registry accepts every condition. -/
theorem errors_eq_nil_iff {registry : Registry} {maxDistance : Int}
    {tokens : List Token} :
    (checkConditions registry maxDistance tokens).errors = [] ∧
        (checkValues registry tokens).errors = [] ↔
      ∀ entry ∈ Token.conditions tokens,
        registry.accepts entry.2.name entry.2.value entry.2.comparison =
          true := by
  simp only [checkConditions, checkValues_errors, List.flatMap_eq_nil_iff,
    ← forall_and, errors_eq_nil_iff_accepts]

end Usage

theorem Token.mem_conditions_iff {tokens : List Token} {token : Token}
    {condition : Condition} :
    (token, condition) ∈ Token.conditions tokens ↔
      token ∈ tokens ∧ token.form = .condition condition := by
  simp only [Token.conditions, List.mem_filterMap, Option.map_eq_some_iff,
    Prod.mk.injEq]
  constructor
  · rintro ⟨other, member, asked, isAsked, rfl, rfl⟩
    refine ⟨member, ?_⟩
    cases form : other.form <;> simp_all [Form.condition?]
  · rintro ⟨member, form⟩
    exact ⟨token, member, condition, by simp [form, Form.condition?], rfl, rfl⟩

end CardQuery
