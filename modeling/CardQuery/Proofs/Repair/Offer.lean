import CardQuery.Proofs.Totality

/-!
# What is suggested

A fix is what one finding about a query leads to.  The suggestions of a
validation are the fixes of its findings in their order, each query once and
the query itself never, and the refinements behind them.  Whatever fixes a
finding is therefore suggested, by itself or by an earlier fix with the same
query.
-/

namespace CardQuery

namespace Fix

private theorem exists_mem_fresh {seen : List Text}
    {suggestions : List Suggestion}
    {suggestion : Suggestion} (member : suggestion ∈ suggestions)
    (isNew : suggestion.query ∉ seen) :
    ∃ offered ∈ fresh seen suggestions, offered.query = suggestion.query := by
  induction suggestions generalizing seen with
  | nil => cases member
  | cons first rest ih =>
      rw [fresh]
      by_cases same : first.query = suggestion.query
      · have isFresh : ¬ seen.contains first.query = true := by
          rwa [same, List.contains_iff_mem]
        rw [if_neg isFresh]
        exact ⟨first, List.mem_cons_self, same⟩
      · have later : suggestion ∈ rest :=
          (List.mem_cons.mp member).resolve_left fun isFirst =>
            same (congrArg Suggestion.query isFirst.symm)
        split
        · exact ih later isNew
        · obtain ⟨offered, among, isQuery⟩ :=
            @ih (first.query :: seen) later (by
              rw [List.mem_cons, not_or]
              exact ⟨fun other => same other.symm, isNew⟩)
          exact ⟨offered, List.mem_cons_of_mem first among, isQuery⟩

private theorem exists_suggestion {query : Text} {findings : List Finding}
    {suggested : List Suggestion}
    (isSuggested : suggestions query findings = .ok suggested)
    {finding : Finding} (member : finding ∈ findings) {fix : Suggestion}
    (fixes : ofFinding? query
      (findings.countP (·.code == .unmatchedOpeningBracket)) finding =
        .ok (some fix))
    (differs : fix.query ≠ query) :
    ∃ suggestion ∈ suggested, suggestion.query = fix.query := by
  rw [suggestions, Outcome.bind_eq_ok_iff] at isSuggested
  obtain ⟨all, walked, same⟩ := isSuggested
  cases same
  have among := Outcome.mem_of_mapM_eq_ok walked member fixes
  exact exists_mem_fresh (List.mem_filterMap.mpr ⟨_, among, rfl⟩)
    (by simpa using differs)

end Fix

namespace Validator

/-- The suggestion is what a finding about the query leads to. -/
structure Fixes (validator : Validator) (query : Text) (finding : Finding)
    (fix : Suggestion) : Prop where
  found : finding ∈ validator.errors query ++ validator.warnings query
  fixed : Fix.ofFinding? query
    ((validator.errors query ++ validator.warnings query).countP
      (·.code == .unmatchedOpeningBracket)) finding = .ok (some fix)

variable {validator : Validator} {query : Text} {finding : Finding}
  {fix : Suggestion}

theorem Fixes.unique {other : Suggestion}
    (fixes : validator.Fixes query finding fix)
    (also : validator.Fixes query finding other) : fix = other := by
  have same := fixes.fixed.symm.trans also.fixed
  cases same
  rfl

theorem Fixes.exists_openings (fixes : validator.Fixes query finding fix)
    {span : Span} (located : finding.span = some span) :
    ∃ openings, Fix.fix? finding.code
      ⟨query, span, finding.corrections, openings⟩ = .ok (some fix) := by
  have fixed := fixes.fixed
  rw [Fix.ofFinding?, located] at fixed
  exact ⟨_, fixed⟩

theorem Fixes.exists_suggestion (fixes : validator.Fixes query finding fix)
    (measurable : Usage.isMeasurable validator.registry
      validator.settings.suggestionDistance (Token.read query) = true)
    (differs : fix.query ≠ query) (count : Option Int) :
    ∃ suggestion ∈
        (validator.validate query (count.map .number)).suggestions,
      suggestion.query = fix.query := by
  obtain ⟨suggested, isSuggested⟩ :=
    Fix.suggestions_isOk (validator.allInside query)
  obtain ⟨refined, isRefined⟩ := validator.refinements_isOk query count
  obtain ⟨suggestion, among, isQuery⟩ :=
    Fix.exists_suggestion isSuggested fixes.found fixes.fixed differs
  refine ⟨suggestion, ?_, isQuery⟩
  rw [validate, run, Usage.requireMeasurable, if_pos measurable]
  simp only [isSuggested, isRefined]
  exact List.mem_append_left refined among

end Validator

end CardQuery
