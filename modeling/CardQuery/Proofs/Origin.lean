import CardQuery.Proofs.Search.Faults
import CardQuery.Validation

/-!
# Where findings come from

A code is reported by one part of a validation and by no other.  The errors of
a query are therefore sorted by their codes alone, and what one part has found
can be read off from the report as a whole.

Warnings are advice, on the query or on how its connectives are spelled, apart
from the question whether another operator was meant, which repeats the code of
the error that it is about.
-/

namespace CardQuery

/-- The parts of a validation that find something. -/
inductive Origin where
  | brackets
  | connectives
  /-- What there is of the query, and how it ends. -/
  | extent
  | quotes
  | conditions
  | values
  | advice
  /-- Connectives that are spelled by symbols. -/
  | style
  /-- Nothing that was found in a query. -/
  | fault
deriving DecidableEq, Repr, Inhabited

/-- The part of a validation that reports the code. -/
def Code.origin : Code → Origin
  | .unmatchedOpeningBracket | .unmatchedClosingBracket | .emptyBrackets =>
      .brackets
  | .connectiveAtStart | .connectiveAtEnd | .consecutiveConnectives
  | .orphanedConnective | .connectiveAfterOpening => .connectives
  | .emptyQuery | .trailingOpening => .extent
  | .unclosedQuote => .quotes
  | .unknownOperator | .comparisonNotSupported | .comparisonNotAllowed
  | .missingValue => .conditions
  | .invalidColor | .invalidNumber | .invalidSetCode | .invalidRarity
  | .invalidFormat | .invalidChoice | .invalidPowerToughness | .invalidLoyalty
  | .invalidManaCost | .invalidYear => .values
  | .internalError => .fault
  | .conflictingColors | .duplicateOperator | .duplicateColor
  | .multipleFormats | .powerWithoutToughness | .toughnessWithoutPower
  | .overlySpecific | .longValue | .unusualRange | .costly => .advice
  | .symbolicConnective => .style

/-- The finding is advice on a token. -/
structure Finding.Advises (finding : Finding) (token : Token) : Prop where
  span : finding.span = some token.span
  origin : finding.code.origin = .advice

/-- All the findings are made by one part of the validation. -/
def AllFrom (origin : Origin) (findings : List Finding) : Prop :=
  ∀ finding ∈ findings, finding.code.origin = origin

namespace AllFrom

variable {origin : Origin} {first : Finding} {findings others : List Finding}

@[simp] theorem nil : AllFrom origin [] := by
  simp [AllFrom]

@[simp] theorem cons_iff :
    AllFrom origin (first :: findings) ↔
      first.code.origin = origin ∧ AllFrom origin findings := by
  simp [AllFrom]

@[simp] theorem append_iff :
    AllFrom origin (findings ++ others) ↔
      AllFrom origin findings ∧ AllFrom origin others := by
  simp [AllFrom, or_imp, forall_and]

private theorem single (isFrom : first.code.origin = origin) :
    AllFrom origin [first] := by
  simp [isFrom]

private theorem ite {holds : Prop} [Decidable holds]
    (isFrom : first.code.origin = origin) :
    AllFrom origin (if holds then [first] else []) := by
  split <;> simp [isFrom]

private theorem filter_eq (allFrom : AllFrom origin findings) (other : Origin) :
    findings.filter (·.code.origin == other) =
      if origin = other then findings else [] := by
  split
  next same =>
    subst same
    exact List.filter_eq_self.mpr fun finding member => by
      simp [allFrom finding member]
  next differs =>
    exact List.filter_eq_nil_iff.mpr fun finding member => by
      simp [allFrom finding member, differs]

end AllFrom

namespace Structure

private theorem bracketFindings_allFrom (tokens : List Token) :
    AllFrom .brackets (bracketFindings [] tokens) := by
  intro finding member
  cases bracketFault_of_mem member <;> rfl

theorem connectiveFindings_allFrom (tokens : List Token) :
    AllFrom .connectives (connectiveFindings tokens) := by
  have ofAlone : ∀ code ∈ Code.ofOneConnective, code.origin = .connectives := by
    decide
  intro finding member
  cases connectiveFault_of_mem member with
  | alone _ _ isAlone => exact ofAlone _ isAlone
  | consecutive => rfl

/-- The faults in what there is of a query: nothing at all, or an opening
bracket at its end. -/
def extentFindings (tokens : List Token) : List Finding :=
  if (Token.meaningful tokens).isEmpty then [emptyQuery tokens]
  else trailingOpening (Token.meaningful tokens)

theorem cases_of_mem_extentFindings {tokens : List Token} {finding : Finding}
    (member : finding ∈ extentFindings tokens) :
    finding = emptyQuery tokens ∨
      ∃ last, (Token.meaningful tokens).getLast? = some last ∧
        last.isOpening = true ∧ finding.code = .trailingOpening ∧
        finding.span = some last.span := by
  unfold extentFindings at member
  split at member
  · exact Or.inl (List.mem_singleton.mp member)
  · exact Or.inr (exists_last_of_mem_trailingOpening member)

theorem extentFindings_allFrom (tokens : List Token) :
    AllFrom .extent (extentFindings tokens) := by
  intro finding member
  rcases cases_of_mem_extentFindings member with rfl | ⟨_, _, _, code, _⟩
  · rfl
  · exact congrArg Code.origin code

theorem findings_eq (tokens : List Token) :
    findings tokens =
      bracketFindings [] (Token.meaningful tokens) ++
        connectiveFindings (Token.meaningful tokens) ++
        extentFindings tokens := by
  rw [findings, extentFindings]
  cases Token.meaningful tokens with
  | nil => rfl
  | cons first rest => rfl

end Structure

private theorem Quotation.findings_allFrom (text : Text) :
    AllFrom .quotes (findings text) := by
  unfold findings
  split
  · exact AllFrom.single rfl
  · exact AllFrom.nil

/-- The issues of a value have the codes that errors and warnings of values
have. -/
structure ValueCheck.IsSorted (check : ValueCheck) : Prop where
  errors : ∀ issue ∈ check.errors,
    issue.code = .comparisonNotAllowed ∨ issue.code.origin = .values
  warnings : ∀ issue ∈ check.warnings, issue.code.origin = .advice

namespace ValueCheck

variable {code : Code} {message : Text}

private theorem isSorted_clean : clean.IsSorted :=
  ⟨by simp [clean], by simp [clean]⟩

private theorem isSorted_refused (isValue : code.origin = .values)
    (corrections : List Text) : (refused code message corrections).IsSorted :=
  ⟨by simp [refused, isValue], by simp [refused]⟩

private theorem isSorted_doubtful (isAdvice : code.origin = .advice) :
    (doubtful code message).IsSorted :=
  ⟨by simp [doubtful], by simp [doubtful, isAdvice]⟩

private theorem isSorted_require (isValue : code.origin = .values)
    (holds : Bool) :
    (require holds code message).IsSorted := by
  unfold require
  split
  · exact isSorted_clean
  · exact isSorted_refused isValue []

end ValueCheck

namespace Grammar

theorem code_of_mem_refuseInequality {kind : Text} {sign : Option Text}
    {issue : Issue} (member : issue ∈ refuseInequality kind sign) :
    issue.code = .comparisonNotAllowed := by
  rw [refuseInequality, List.mem_ite_nil_right, List.mem_singleton] at member
  rw [member.2]
  rfl

private theorem code_of_mem_refuseAllButEquality {kind : Text}
    {sign : Option Text}
    {issue : Issue} (member : issue ∈ refuseAllButEquality kind sign) :
    issue.code = .comparisonNotAllowed := by
  unfold refuseAllButEquality at member
  split at member
  · cases member
  · rw [List.mem_ite_nil_left, List.mem_singleton] at member
    rw [member.2]
    rfl

private theorem code_of_mem_checkWord {words : List Text} {code : Code}
    {value message : Text} {issue : Issue}
    (member : issue ∈ checkWord words code value message) :
    issue.code = code := by
  unfold checkWord at member
  dsimp only at member
  rw [List.mem_ite_nil_left, List.mem_singleton] at member
  rw [member.2]

theorem check_isSorted (grammar : Grammar) (value : Text)
    (sign : Option Text) : (grammar.check value sign).IsSorted := by
  cases grammar with
  | text =>
      refine ⟨fun issue member =>
        Or.inl (code_of_mem_refuseInequality member), ?_⟩
      intro issue member
      simp only [check, checkText] at member
      rw [List.mem_ite_nil_right, List.mem_singleton] at member
      rw [member.2]
      rfl
  | color =>
      simp only [check, checkColor]
      split
      · exact ValueCheck.isSorted_clean
      · split
        · exact ValueCheck.isSorted_refused rfl _
        · split
          · exact ValueCheck.isSorted_clean
          · exact ValueCheck.isSorted_doubtful rfl
  | manaCost => exact ValueCheck.isSorted_require rfl _
  | number operator =>
      simp only [check, checkNumber]
      split
      · exact ValueCheck.isSorted_clean
      · split
        · exact ValueCheck.isSorted_refused rfl []
        · split
          · exact ValueCheck.isSorted_clean
          · split
            · exact ValueCheck.isSorted_clean
            · exact ValueCheck.isSorted_doubtful rfl
  | powerToughness => exact ValueCheck.isSorted_require rfl _
  | loyalty => exact ValueCheck.isSorted_require rfl _
  | setCode =>
      refine ⟨fun issue member => ?_, by simp [check, checkSetCode]⟩
      rcases List.mem_append.mp member with sign | shape
      · exact Or.inl (code_of_mem_refuseInequality sign)
      · exact (ValueCheck.isSorted_require rfl _).errors issue shape
  | collectorNumber => exact ValueCheck.isSorted_require rfl _
  | rarity =>
      simp only [check, checkRarity]
      split
      · exact ValueCheck.isSorted_clean
      · exact ValueCheck.isSorted_refused rfl _
  | format =>
      refine ⟨fun issue member => ?_, by simp [check, checkFormat]⟩
      rcases List.mem_append.mp member with sign | word
      · exact Or.inl (code_of_mem_refuseAllButEquality sign)
      · exact Or.inr (congrArg Code.origin (code_of_mem_checkWord word))
  | choice name values =>
      refine ⟨fun issue member => ?_, by simp [check, checkChoice]⟩
      rcases List.mem_append.mp member with sign | word
      · exact Or.inl (code_of_mem_refuseAllButEquality sign)
      · exact Or.inr (congrArg Code.origin (code_of_mem_checkWord word))
  | year =>
      simp only [check, checkYear]
      split
      · exact ValueCheck.isSorted_refused rfl []
      · split
        · exact ValueCheck.isSorted_clean
        · exact ValueCheck.isSorted_doubtful rfl

end Grammar

namespace Usage

private theorem conditionErrors_allFrom (registry : Registry)
    (maxDistance : Int)
    (token : Token) (condition : Condition) :
    AllFrom .conditions
      (conditionErrors registry maxDistance token condition) := by
  have unsupported (operator : Operator) :
      AllFrom .conditions (unsupportedComparison token condition operator) := by
    unfold unsupportedComparison
    split
    · exact AllFrom.ite rfl
    · exact AllFrom.nil
  have refused (operator : Operator) :
      AllFrom .conditions (refusedComparison token condition operator) := by
    intro finding member
    simp only [refusedComparison, List.mem_map, List.mem_filter,
      beq_iff_eq] at member
    obtain ⟨issue, ⟨_, code⟩, rfl⟩ := member
    exact congrArg Code.origin code
  unfold conditionErrors
  split
  · exact AllFrom.single rfl
  next operator _ =>
    dsimp only
    split
    · exact AllFrom.append_iff.mpr ⟨unsupported operator, AllFrom.single rfl⟩
    · split
      · exact refused operator
      · exact unsupported operator

private theorem checkConditions_errors_allFrom (registry : Registry)
    (maxDistance : Int) (tokens : List Token) :
    AllFrom .conditions
      (checkConditions registry maxDistance tokens).errors := by
  intro finding member
  obtain ⟨⟨token, condition⟩, _, among⟩ := List.mem_flatMap.mp member
  exact conditionErrors_allFrom registry maxDistance token condition finding
    among

private theorem exists_advised_of_mem_pairWarnings {formats printing : Bool}
    {pairs : List (Known × Known)} {warning : Finding}
    (member : warning ∈ pairWarnings formats printing pairs) :
    ∃ pair ∈ pairs, warning.Advises pair.2.token := by
  induction pairs generalizing formats printing with
  | nil => cases member
  | cons pair rest ih =>
      simp only [pairWarnings, List.mem_append, List.mem_ite_nil_right,
        List.mem_singleton] at member
      rcases member with
        (((⟨_, rfl⟩ | ⟨_, rfl⟩) | ⟨_, rfl⟩) | ⟨_, rfl⟩) | later
      · exact ⟨pair, List.mem_cons_self, rfl, rfl⟩
      · exact ⟨pair, List.mem_cons_self, rfl, rfl⟩
      · exact ⟨pair, List.mem_cons_self, rfl, rfl⟩
      · exact ⟨pair, List.mem_cons_self, rfl, rfl⟩
      · obtain ⟨other, isLater, advises⟩ := ih later
        exact ⟨other, List.mem_cons_of_mem pair isLater, advises⟩

private theorem exists_advised_of_mem_statWarnings {usable : List Known}
    {warning : Finding} (member : warning ∈ statWarnings usable) :
    ∃ item ∈ usable, warning.Advises item.token := by
  have onFirst {required : Known → Bool} {first : Known} {rest : List Known}
      (isFirst : usable.filter required = first :: rest) : first ∈ usable := by
    have member : first ∈ usable.filter required := by simp [isFirst]
    exact (List.mem_filter.mp member).1
  unfold statWarnings at member
  dsimp only at member
  split at member
  · cases member
  · split at member
    next first _ isPower _ =>
      rw [List.mem_singleton.mp member]
      exact ⟨first, onFirst isPower, rfl, rfl⟩
    next first _ _ isToughness =>
      rw [List.mem_singleton.mp member]
      exact ⟨first, onFirst isToughness, rfl, rfl⟩
    next => cases member

private theorem snd_mem_of_mem_laterPairs {α : Type} {items : List α}
    {pair : α × α}
    (member : pair ∈ laterPairs items) : pair.2 ∈ items := by
  induction items with
  | nil => cases member
  | cons first rest ih =>
      rcases List.mem_append.mp member with here | later
      · obtain ⟨second, isLater, rfl⟩ := List.mem_map.mp here
        exact List.mem_cons_of_mem first isLater
      · exact List.mem_cons_of_mem first (ih later)

theorem exists_advised_of_mem_checkConditions {registry : Registry}
    {maxDistance : Int} {tokens : List Token} {warning : Finding}
    (member : warning ∈ (checkConditions registry maxDistance tokens).warnings) :
    ∃ item ∈ known registry tokens, warning.Advises item.token := by
  rcases List.mem_append.mp member with ofPair | ofStats
  · obtain ⟨pair, isPair, advises⟩ := exists_advised_of_mem_pairWarnings ofPair
    exact ⟨pair.2, snd_mem_of_mem_laterPairs isPair, advises⟩
  · exact exists_advised_of_mem_statWarnings ofStats

private theorem checkValues_errors_allFrom (registry : Registry)
    (tokens : List Token) :
    AllFrom .values (checkValues registry tokens).errors := by
  intro finding member
  simp only [checkValues, List.mem_flatMap, List.mem_map, List.mem_filter,
    bne_iff_ne] at member
  obtain ⟨_, ⟨item, _, rfl⟩, issue, ⟨among, other⟩, rfl⟩ := member
  exact ((Grammar.check_isSorted _ _ _).errors issue among).resolve_left other

theorem exists_advised_of_mem_checkValues {registry : Registry}
    {tokens : List Token} {warning : Finding}
    (member : warning ∈ (checkValues registry tokens).warnings) :
    ∃ item ∈ known registry tokens, warning.Advises item.token := by
  simp only [checkValues, List.mem_flatMap, List.mem_map] at member
  obtain ⟨_, ⟨item, isKnown, rfl⟩, issue, among, rfl⟩ := member
  exact ⟨item, isKnown, rfl, (Grammar.check_isSorted _ _ _).warnings issue among⟩

end Usage

namespace Validator

/-- The errors that one part of the validation finds. -/
def findingsOf (validator : Validator) (query : Text) :
    Origin → List Finding
  | .brackets =>
      Structure.bracketFindings [] (Token.meaningful (Token.read query))
  | .connectives =>
      Structure.connectiveFindings (Token.meaningful (Token.read query))
  | .extent => Structure.extentFindings (Token.read query)
  | .quotes => Quotation.findings query
  | .conditions =>
      (Usage.checkConditions validator.registry
        validator.settings.suggestionDistance (Token.read query)).errors
  | .values => (Usage.checkValues validator.registry (Token.read query)).errors
  | .advice | .style | .fault => []

theorem errors_filter_origin (validator : Validator) (query : Text)
    (origin : Origin) :
    (validator.errors query).filter (·.code.origin == origin) =
      validator.findingsOf query origin := by
  simp only [errors, Structure.findings_eq, List.filter_append,
    (Structure.bracketFindings_allFrom _).filter_eq,
    (Structure.connectiveFindings_allFrom _).filter_eq,
    (Structure.extentFindings_allFrom _).filter_eq,
    (Quotation.findings_allFrom _).filter_eq,
    (Usage.checkConditions_errors_allFrom _ _ _).filter_eq,
    (Usage.checkValues_errors_allFrom _ _).filter_eq]
  cases origin <;> simp [findingsOf]

theorem mem_findingsOf_of_mem_errors {validator : Validator} {query : Text}
    {finding : Finding} (member : finding ∈ validator.errors query)
    {origin : Origin} (isFrom : finding.code.origin = origin) :
    finding ∈ validator.findingsOf query origin := by
  rw [← errors_filter_origin]
  exact List.mem_filter.mpr ⟨member, by simp [isFrom]⟩

theorem meantWarnings_code {errors : List Finding} {warning : Finding}
    (member : warning ∈ meantWarnings errors) :
    warning.code = .unknownOperator := by
  simp only [meantWarnings, List.mem_filterMap] at member
  obtain ⟨error, _, asked⟩ := member
  split at asked
  next unknown =>
    obtain ⟨correction, _, rfl⟩ := Option.map_eq_some_iff.mp asked
    exact unknown
  next => cases asked

theorem styleWarnings_allFrom (tokens : List Token) :
    AllFrom .style (styleWarnings tokens) := by
  intro warning member
  simp only [styleWarnings, List.mem_filterMap] at member
  obtain ⟨token, _, asked⟩ := member
  split at asked
  · obtain ⟨name, _, rfl⟩ := Option.map_eq_some_iff.mp asked
    rfl
  · cases asked

private theorem sizeWarnings_allFrom (settings : Settings) (query : Text)
    (tokens : List Token) :
    AllFrom .advice (sizeWarnings settings query tokens) := by
  simp only [sizeWarnings, AllFrom.append_iff, warnAbove]
  exact ⟨⟨AllFrom.ite rfl, AllFrom.ite rfl⟩, AllFrom.ite rfl⟩

/-- A warning asks whether another operator was meant, is about the spelling of
a connective or is other advice. -/
theorem cases_of_mem_warnings {validator : Validator} {query : Text}
    {warning : Finding} (member : warning ∈ validator.warnings query) :
    warning ∈ meantWarnings (validator.findingsOf query .conditions) ∨
      warning ∈ styleWarnings (Token.meaningful (Token.read query)) ∨
      warning.code.origin = .advice := by
  simp only [warnings, List.mem_append] at member
  rcases member with (((meant | usage) | value) | style) | size
  · exact Or.inl meant
  · obtain ⟨_, _, advises⟩ := Usage.exists_advised_of_mem_checkConditions usage
    exact Or.inr (Or.inr advises.origin)
  · obtain ⟨_, _, advises⟩ := Usage.exists_advised_of_mem_checkValues value
    exact Or.inr (Or.inr advises.origin)
  · exact Or.inr (Or.inl style)
  · exact Or.inr (Or.inr (sizeWarnings_allFrom _ _ _ _ size))

theorem code_of_mem_warnings {validator : Validator} {query : Text}
    {warning : Finding} (member : warning ∈ validator.warnings query) :
    warning.code = .unknownOperator ∨ warning.code.origin = .style ∨
      warning.code.origin = .advice := by
  rcases cases_of_mem_warnings member with meant | style | advice
  · exact Or.inl (meantWarnings_code meant)
  · exact Or.inr (Or.inl (styleWarnings_allFrom _ _ style))
  · exact Or.inr (Or.inr advice)

/-- Whatever no warning says is an error. -/
theorem mem_findingsOf_of_mem {validator : Validator} {query : Text}
    {finding : Finding}
    (member : finding ∈ validator.errors query ++ validator.warnings query)
    {origin : Origin} (isFrom : finding.code.origin = origin)
    (known : finding.code ≠ .unknownOperator)
    (noWarning : origin ≠ .style ∧ origin ≠ .advice) :
    finding ∈ validator.findingsOf query origin := by
  rcases List.mem_append.mp member with isError | isWarning
  · exact mem_findingsOf_of_mem_errors isError isFrom
  · rcases code_of_mem_warnings isWarning with unknown | style | advice
    · contradiction
    · exact absurd (isFrom.symm.trans style) noWarning.1
    · exact absurd (isFrom.symm.trans advice) noWarning.2

end Validator

end CardQuery
