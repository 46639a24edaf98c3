import CardQuery.Proofs.Operator.Acceptance
import CardQuery.Proofs.Operator.Correction
import CardQuery.Proofs.Origin

/-!
# What is blamed

Every finding about the operator or the value of a condition has the span of
the token that is the condition, and every finding about the spelling of a
connective has that of the symbol.  Corrections of an operator are names of the
registry, and corrections of a value are words of the grammar of an operator.
-/

namespace CardQuery

/-- The finding is about a condition, in its place in the query. -/
structure Finding.Blames (finding : Finding) (registry : Registry)
    (token : Token) (asked : Condition) : Prop where
  isCondition : token.form = .condition asked
  span : finding.span = some token.span
  names : finding.code = .unknownOperator →
    ∀ correction ∈ finding.corrections, correction ∈ registry.names
  words : finding.code.blamesValue = true →
    ∀ correction ∈ finding.corrections, ∃ operator ∈ registry.operators,
      correction ∈ operator.grammar.words

theorem Code.blamesValue_iff (code : Code) :
    code.blamesValue = true ↔ code.origin = .values := by
  cases code <;> decide

namespace Usage

variable {registry : Registry} {maxDistance : Int} {token : Token}
  {asked : Condition} {finding : Finding}

private theorem blames_of_onToken (isCondition : token.form = .condition asked)
    {code : Code} (known : code ≠ .unknownOperator)
    (noValue : code.blamesValue = false) (message : Text)
    (corrections : List Text) :
    (Finding.onToken token code message corrections).Blames registry token
      asked where
  isCondition := isCondition
  span := rfl
  names := fun unknown => absurd unknown known
  words := by simp [Finding.onToken, noValue]

private theorem blames_of_mem_conditionErrors
    (isCondition : token.form = .condition asked)
    (member : finding ∈ conditionErrors registry maxDistance token asked) :
    finding.Blames registry token asked := by
  have ofUnsupported {operator : Operator}
      (among : finding ∈ unsupportedComparison token asked operator) :
      finding.Blames registry token asked := by
    unfold unsupportedComparison at among
    split at among
    · rw [List.mem_ite_nil_right, List.mem_singleton] at among
      rw [among.2]
      exact blames_of_onToken isCondition (by decide) rfl _ _
    · cases among
  unfold conditionErrors at member
  split at member
  · rw [List.mem_singleton.mp member]
    exact ⟨isCondition, rfl, fun _ _ => Spelling.mem_of_mem_closest,
      fun blames => by cases blames⟩
  next operator _ =>
    dsimp only at member
    split at member
    · rcases List.mem_append.mp member with unsupported | missing
      · exact ofUnsupported unsupported
      · rw [List.mem_singleton.mp missing]
        exact blames_of_onToken isCondition (by decide) rfl _ _
    · split at member
      · obtain ⟨issue, among, rfl⟩ := List.mem_map.mp member
        have refused : issue.code = .comparisonNotAllowed :=
          beq_iff_eq.mp (List.mem_filter.mp among).2
        exact blames_of_onToken isCondition (by rw [refused]; decide)
          (by rw [refused]; rfl) _ _
      · exact ofUnsupported member

private theorem blames_of_mem_valueErrors
    (isCondition : token.form = .condition asked)
    (member : finding ∈ valueErrors registry token asked) :
    finding.Blames registry token asked := by
  unfold valueErrors at member
  split at member
  · cases member
  next operator isOperator =>
    split at member
    · cases member
    · obtain ⟨issue, among, rfl⟩ := List.mem_map.mp member
      obtain ⟨among, other⟩ := List.mem_filter.mp among
      have isValue := ((Grammar.check_isSorted _ _ _).errors issue
        among).resolve_left (by simpa using other)
      refine ⟨isCondition, rfl, fun unknown => ?_, fun _ correction among' => ?_⟩
      · have isUnknown : issue.code = .unknownOperator := unknown
        rw [isUnknown] at isValue
        cases isValue
      · exact ⟨operator, List.mem_of_find?_eq_some isOperator,
          (Grammar.correctsBy_check _ _ _).errors issue among correction among'⟩

end Usage

namespace Validator

variable {validator : Validator} {query : Text} {finding : Finding}

theorem mem_meaningful_of_condition {tokens : List Token} {token : Token}
    {asked : Condition} (member : (token, asked) ∈ Token.conditions tokens) :
    token ∈ Token.meaningful tokens ∧ token.form = .condition asked := by
  obtain ⟨isToken, isCondition⟩ := Token.mem_conditions_iff.mp member
  refine ⟨List.mem_filter.mpr ⟨isToken, ?_⟩, isCondition⟩
  rw [Token.isMeaningful, isCondition]
  rfl

theorem exists_blamed_of_mem_findingsOf {origin : Origin}
    (about : origin = .conditions ∨ origin = .values)
    (member : finding ∈ validator.findingsOf query origin) :
    ∃ token ∈ Token.meaningful (Token.read query), ∃ asked,
      finding.Blames validator.registry token asked := by
  rcases about with rfl | rfl
  · obtain ⟨⟨token, asked⟩, isEntry, among⟩ := List.mem_flatMap.mp member
    obtain ⟨isToken, isCondition⟩ := mem_meaningful_of_condition isEntry
    exact ⟨token, isToken, asked,
      Usage.blames_of_mem_conditionErrors isCondition among⟩
  · rw [findingsOf, Usage.checkValues_errors] at member
    obtain ⟨⟨token, asked⟩, isEntry, among⟩ := List.mem_flatMap.mp member
    obtain ⟨isToken, isCondition⟩ := mem_meaningful_of_condition isEntry
    exact ⟨token, isToken, asked,
      Usage.blames_of_mem_valueErrors isCondition among⟩

/-- The question whether another operator was meant blames the same condition as
the error that it is about. -/
theorem exists_blamed_of_mem_meantWarnings
    (member : finding ∈ meantWarnings (validator.findingsOf query .conditions)) :
    ∃ token ∈ Token.meaningful (Token.read query), ∃ asked,
      finding.Blames validator.registry token asked := by
  obtain ⟨error, isError, asks⟩ := List.mem_filterMap.mp member
  split at asks
  next unknown =>
    obtain ⟨correction, _, rfl⟩ := Option.map_eq_some_iff.mp asks
    obtain ⟨token, isToken, asked, blames⟩ :=
      exists_blamed_of_mem_findingsOf (Or.inl rfl) isError
    exact ⟨token, isToken, asked, blames.isCondition, blames.span, blames.names,
      blames.words⟩
  next => cases asks

/-- Whatever is found about a condition or its value blames a condition of the
query. -/
theorem exists_blamed
    (member : finding ∈ validator.errors query ++ validator.warnings query)
    (about : finding.code.origin = .conditions ∨
      finding.code.origin = .values) :
    ∃ token ∈ Token.meaningful (Token.read query), ∃ asked,
      finding.Blames validator.registry token asked := by
  rcases List.mem_append.mp member with isError | isWarning
  · exact exists_blamed_of_mem_findingsOf about
      (mem_findingsOf_of_mem_errors isError rfl)
  · rcases cases_of_mem_warnings isWarning with meant | style | advice
    · exact exists_blamed_of_mem_meantWarnings meant
    · have isStyle := styleWarnings_allFrom _ _ style
      simp [isStyle] at about
    · simp [advice] at about

theorem exists_symbol_of_mem_styleWarnings {tokens : List Token}
    (member : finding ∈ styleWarnings tokens) :
    ∃ token ∈ tokens, ∃ name,
      token.form = .word ∧ Fix.symbolName? token.text = some name ∧
      finding.span = some token.span := by
  obtain ⟨token, isToken, asks⟩ := List.mem_filterMap.mp member
  split at asks
  next isWord =>
    obtain ⟨name, isName, rfl⟩ := Option.map_eq_some_iff.mp asks
    exact ⟨token, isToken, name, isWord, isName, rfl⟩
  next => cases asks

/-- Whatever is found about the spelling of a connective has the span of a
symbol. -/
theorem exists_symbol
    (member : finding ∈ validator.errors query ++ validator.warnings query)
    (about : finding.code = .symbolicConnective) :
    ∃ token ∈ Token.meaningful (Token.read query), ∃ name,
      token.form = .word ∧ Fix.symbolName? token.text = some name ∧
      finding.span = some token.span := by
  have isStyle : finding.code.origin = .style := congrArg Code.origin about
  rcases List.mem_append.mp member with isError | isWarning
  · cases mem_findingsOf_of_mem_errors isError isStyle
  · rcases cases_of_mem_warnings isWarning with meant | style | advice
    · rw [meantWarnings_code meant] at about
      cases about
    · exact exists_symbol_of_mem_styleWarnings style
    · rw [isStyle] at advice
      cases advice

end Validator

end CardQuery
