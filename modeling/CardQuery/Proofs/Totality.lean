import CardQuery.Proofs.Operator.Shape
import CardQuery.Proofs.Verdict

/-!
# Validation goes wrong nowhere else

The one step of a validation that may be impossible is the comparison of an
unknown name with the known ones at a distance beyond the largest.  All other
steps that are partial are taken where they are defined: an open quote is where
its finding says, the span of two connectives holds a word, and the shapes of
years and numerals are asked for before they are read.  No check reports an
internal error of its own, so one is reported exactly if names cannot be
compared.
-/

namespace CardQuery

/-- An error with the code is reported. -/
def Validation.Reports (validation : Validation) (code : Code) : Prop :=
  ∃ error ∈ validation.errors, error.code = code

instance (validation : Validation) (code : Code) :
    Decidable (validation.Reports code) :=
  inferInstanceAs (Decidable (∃ error ∈ validation.errors, error.code = code))

private theorem Spelling.isMeasurable_of_le {word : Text}
    {candidates : List Text}
    {maxDistance : Int} (small : maxDistance ≤ largestDistance) :
    isMeasurable word candidates maxDistance = true := by
  rw [isMeasurable, decide_eq_true small, Bool.true_or]

private theorem Usage.isMeasurable_of_le {registry : Registry}
    {maxDistance : Int}
    (small : maxDistance ≤ Spelling.largestDistance) (tokens : List Token) :
    isMeasurable registry maxDistance tokens = true := by
  rw [isMeasurable, List.all_eq_true]
  intro entry _
  rw [Bool.or_eq_true]
  exact Or.inl (Spelling.isMeasurable_of_le small)

namespace Validator

theorem validate_errors {validator : Validator} {query : Text}
    (measurable : Usage.isMeasurable validator.registry
      validator.settings.suggestionDistance (Token.read query) = true)
    (count : Option Int) :
    (validator.validate query (count.map .number)).errors =
      validator.errors query := by
  obtain ⟨validation, ran⟩ :=
    (run_isOk_iff validator query count).mpr measurable
  rw [validate, ran]
  exact errors_of_run_eq_ok ran

private theorem validate_eq_failed {validator : Validator} {query : Text}
    (unmeasurable : Usage.isMeasurable validator.registry
      validator.settings.suggestionDistance (Token.read query) ≠ true)
    (count : Option Int) :
    validator.validate query (count.map .number) = .failed query := by
  cases ran : validator.run query (count.map .number) with
  | error fault => rw [validate, ran]
  | ok validation =>
      exact absurd ((run_isOk_iff validator query count).mp ⟨validation, ran⟩)
        unmeasurable

/-- An error that is no failure of the validation itself is reported by one that
comes to its end. -/
theorem reports_iff {validator : Validator} {query : Text} {code : Code}
    (other : code ≠ .internalError) (count : Option Int) :
    (validator.validate query (count.map .number)).Reports code ↔
      Usage.isMeasurable validator.registry
          validator.settings.suggestionDistance (Token.read query) = true ∧
        ∃ error ∈ validator.errors query, error.code = code := by
  by_cases measurable : Usage.isMeasurable validator.registry
      validator.settings.suggestionDistance (Token.read query) = true
  · rw [Validation.Reports, validate_errors measurable]
    exact (and_iff_right measurable).symm
  · refine iff_of_false ?_ fun both => measurable both.1
    rw [validate_eq_failed measurable]
    rintro ⟨error, member, isCode⟩
    rw [List.mem_singleton.mp member] at isCode
    exact other isCode.symm

private theorem origin_of_mem_errors {validator : Validator} {query : Text}
    {finding : Finding} (member : finding ∈ validator.errors query) :
    finding.code.origin ≠ .fault := by
  intro isFault
  cases mem_findingsOf_of_mem_errors member isFault

private theorem reports_internalError_iff (validator : Validator) (query : Text)
    (count : Option Int) :
    (validator.validate query (count.map .number)).Reports .internalError ↔
      Usage.isMeasurable validator.registry
        validator.settings.suggestionDistance (Token.read query) ≠ true := by
  by_cases measurable : Usage.isMeasurable validator.registry
      validator.settings.suggestionDistance (Token.read query) = true
  · refine iff_of_false ?_ (not_not.mpr measurable)
    rintro ⟨error, member, code⟩
    rw [validate_errors measurable] at member
    exact origin_of_mem_errors member (congrArg Code.origin code)
  · refine iff_of_true ?_ measurable
    rw [validate_eq_failed measurable]
    exact ⟨_, List.mem_singleton_self _, rfl⟩

/-- With a distance at which names can be compared, a validation is never kept
from its end, whatever the query, the registry, the settings and the number of
results are.  Each of its partial steps is taken where it is defined. -/
theorem validation_goes_through (registry : Registry) (settings : Settings)
    (query : Text) (count : Option Int) :
    let validator := make registry settings
    ((∃ validation,
        validator.run query (count.map .number) = .ok validation) ↔
      Usage.isMeasurable validator.registry settings.suggestionDistance
        (Token.read query) = true) ∧
    ((validator.validate query (count.map .number)).Reports .internalError ↔
      Usage.isMeasurable validator.registry settings.suggestionDistance
        (Token.read query) ≠ true) ∧
    (settings.suggestionDistance ≤ Spelling.largestDistance →
      Usage.isMeasurable validator.registry settings.suggestionDistance
        (Token.read query) = true) ∧
    Fix.AllInside query (validator.errors query ++ validator.warnings query) ∧
    (∀ value sign, (Grammar.year.check value sign).errors = [] ↔
      (Grammar.line value).length = 4 ∧
        ∀ character ∈ Grammar.line value, Text.isDigit character = true) ∧
    ∀ operator value sign,
      ((Grammar.number operator).check value sign).errors = [] ↔
        Grammar.isStatName value = true ∨
          Numeral.HasShape (Grammar.line value) := by
  intro validator
  refine ⟨run_isOk_iff validator query count,
    reports_internalError_iff validator query count, ?_,
    allInside validator query, ?_, ?_⟩
  · intro small
    exact Usage.isMeasurable_of_le (by exact_mod_cast small) _
  · intro value sign
    exact Grammar.checkYear_errors_eq_nil_iff
  · intro operator value sign
    exact Grammar.checkNumber_errors_eq_nil_iff

end Validator

end CardQuery
