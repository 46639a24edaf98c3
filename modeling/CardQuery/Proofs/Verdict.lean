import CardQuery.Proofs.Operator.Acceptance
import CardQuery.Proofs.Repair.Advice

/-!
# The verdict of a validation

A validation can fail in three places besides its checks: a name cannot be
compared with the known ones, a fix does not find its place, and a number of
results is no number.  Fixes always find their place, and a number of results
that is whole or not known can be compared.  The names of a query without errors
are all known, so such a query is valid exactly if the checks of its structure,
its quotes and its conditions report nothing.
-/

namespace CardQuery

private theorem Usage.isMeasurable_of_accepts {registry : Registry}
    {maxDistance : Int} {tokens : List Token}
    (accepted : ∀ entry ∈ Token.conditions tokens,
      registry.accepts entry.2.name entry.2.value entry.2.comparison = true) :
    isMeasurable registry maxDistance tokens = true := by
  rw [isMeasurable, List.all_eq_true]
  rintro ⟨token, condition⟩ member
  rw [Bool.or_eq_true]
  exact Or.inr (Registry.contains_of_accepts (accepted _ member))

private theorem Structure.check_isValid {tokens : List Token} :
    (check tokens).isValid = true ↔ findings tokens = [] := by
  simp [check, CheckResult.isValid]

namespace Validator

theorem make_registry {registry : Registry}
    (nonempty : registry.operators ≠ []) (settings : Settings) :
    (make registry settings).registry = registry := by
  simp [make, Registry.orElse, nonempty]

theorem errors_eq_nil_iff {validator : Validator} {query : Text} :
    validator.errors query = [] ↔
      Structure.findings (Token.read query) = [] ∧
        Quotation.findings query = [] ∧
        ∀ entry ∈ Token.conditions (Token.read query),
          validator.registry.accepts entry.2.name entry.2.value
            entry.2.comparison = true := by
  rw [errors]
  simp only [List.append_eq_nil_iff, and_assoc, Usage.errors_eq_nil_iff]

theorem refinements_isOk (validator : Validator) (query : Text)
    (count : Option Int) :
    ∃ refined,
      validator.refinements query (count.map .number) = .ok refined := by
  cases count with
  | none => exact ⟨[], rfl⟩
  | some number =>
      change ∃ refined, Refine.suggestions validator.registry
        validator.settings.refinementThreshold query (.number number) =
          .ok refined
      rw [Refine.suggestions]
      split
      · exact ⟨_, rfl⟩
      · change ∃ refined,
          (if decide (validator.settings.refinementThreshold < number) = true
            then .ok (Refine.narrow validator.registry query)
            else .ok []) = Except.ok refined
        split
        · exact ⟨_, rfl⟩
        · exact ⟨_, rfl⟩

/-- A validation goes wrong only where names cannot be compared. -/
theorem run_isOk_iff (validator : Validator) (query : Text)
    (count : Option Int) :
    (∃ validation,
        validator.run query (count.map .number) = .ok validation) ↔
      Usage.isMeasurable validator.registry
        validator.settings.suggestionDistance (Token.read query) = true := by
  rw [run, Usage.requireMeasurable]
  split
  next measurable =>
    obtain ⟨fixes, fixed⟩ := Fix.suggestions_isOk (validator.allInside query)
    obtain ⟨refined, isRefined⟩ := validator.refinements_isOk query count
    simp only [fixed, isRefined, measurable, iff_true]
    exact ⟨_, rfl⟩
  next unmeasurable =>
    refine iff_of_false ?_ unmeasurable
    rintro ⟨_, impossible⟩
    cases impossible

private theorem run_isOk {validator : Validator} {query : Text}
    (faultless : validator.errors query = []) (count : Option Int) :
    ∃ validation, validator.run query (count.map .number) = .ok validation := by
  obtain ⟨_, _, accepted⟩ := errors_eq_nil_iff.mp faultless
  exact (run_isOk_iff validator query count).mpr
    (Usage.isMeasurable_of_accepts accepted)

theorem findings_of_run_eq_ok {validator : Validator} {query : Text}
    {count : Option Refine.ResultCount} {validation : Validation}
    (ran : validator.run query count = .ok validation) :
    validation.errors = validator.errors query ∧
      validation.warnings = validator.warnings query := by
  simp only [run, bind, Except.bind] at ran
  split at ran
  · cases ran
  · split at ran
    · cases ran
    · split at ran
      · cases ran
      · cases ran
        exact ⟨rfl, rfl⟩

theorem errors_of_run_eq_ok {validator : Validator} {query : Text}
    {count : Option Refine.ResultCount} {validation : Validation}
    (ran : validator.run query count = .ok validation) :
    validation.errors = validator.errors query :=
  (findings_of_run_eq_ok ran).1

/-- A query is valid exactly if the checks find no error in it. -/
theorem isValid_iff_errors_eq_nil (validator : Validator) (query : Text)
    (count : Option Int) :
    (validator.validate query (count.map .number)).isValid = true ↔
      validator.errors query = [] := by
  rw [validate, Validation.isValid, List.isEmpty_iff]
  constructor
  · intro valid
    cases ran : validator.run query (count.map .number) with
    | error fault =>
        rw [ran] at valid
        cases valid
    | ok validation =>
        rw [ran] at valid
        exact errors_of_run_eq_ok ran ▸ valid
  · intro faultless
    obtain ⟨validation, ran⟩ := run_isOk faultless count
    rw [ran]
    exact (errors_of_run_eq_ok ran).trans faultless

/-- The verdict of a validation comes down to its three parts: the structure,
the quotes and what the registry accepts.  Neither the settings nor a number
of results has a say in it. -/
theorem validate_isValid_iff_accepts {registry : Registry}
    (nonempty : registry.operators ≠ []) (settings : Settings) (query : Text)
    (count : Option Int) :
    ((make registry settings).validate query
        (count.map .number)).isValid = true ↔
      (Structure.check (Token.read query)).isValid = true ∧
        Quotation.findings query = [] ∧
        ∀ token ∈ Token.read query, ∀ condition : Condition,
          token.form = .condition condition →
            registry.accepts condition.name condition.value
              condition.comparison = true := by
  rw [isValid_iff_errors_eq_nil, errors_eq_nil_iff, Structure.check_isValid,
    make_registry nonempty]
  simp only [Prod.forall, Token.mem_conditions_iff, and_imp]
  constructor
  · rintro ⟨structured, quoted, accepted⟩
    exact ⟨structured, quoted, fun token member condition form =>
      accepted token condition member form⟩
  · rintro ⟨structured, quoted, accepted⟩
    exact ⟨structured, quoted, fun token condition member form =>
      accepted token member condition form⟩

theorem validate_isValid_iff_accepts_two_colors :
    Registry.standard.operators ≠ [] ∧
      (((make Registry.standard Settings.standard).validate "c:red c:xyz"
          (some (.number 0))).isValid = true ↔
        (Structure.check (Token.read "c:red c:xyz")).isValid = true ∧
          Quotation.findings "c:red c:xyz" = [] ∧
          ∀ token ∈ Token.read "c:red c:xyz", ∀ condition : Condition,
            token.form = .condition condition →
              Registry.standard.accepts condition.name condition.value
                condition.comparison = true) :=
  ⟨by decide, validate_isValid_iff_accepts (by decide) Settings.standard
    "c:red c:xyz" (some 0)⟩

end Validator

end CardQuery
