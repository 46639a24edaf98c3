import CardQuery.Proofs.Operator.Blame
import CardQuery.Proofs.Search.Covering
import CardQuery.Proofs.Verdict

/-!
# What findings point at

The span of a finding is put together in five places: from the tokens that
count, from a quote in the text, from conditions, from pairs of conditions and
from symbols.  Wherever it comes from, it starts where a token starts and ends
where the same or a later token ends.  There is one exception: an open quote
points at the quote, and in a condition the quote stands behind the operator.
Findings about a query that holds nothing or could not be checked point at the
whole of it.
-/

namespace CardQuery

private theorem Usage.mem_meaningful_of_known {registry : Registry}
    {tokens : List Token} {item : Known}
    (member : item ∈ known registry tokens) :
    item.token ∈ Token.meaningful tokens := by
  obtain ⟨⟨token, condition⟩, isEntry, makes⟩ := List.mem_filterMap.mp member
  dsimp only at makes
  split at makes
  · cases makes
  · obtain ⟨operator, _, rfl⟩ := Option.map_eq_some_iff.mp makes
    exact (Validator.mem_meaningful_of_condition isEntry).1

private theorem Structure.emptyQuery_span (query : Text) :
    (emptyQuery (Token.read query)).span = some ⟨0, query.length⟩ := by
  simp [emptyQuery, Token.read_eq]

private theorem Span.covers_read (query : Text) :
    Covers ⟨0, query.length⟩ (Token.read query) := by
  obtain ⟨pieces, isRead, _, starts, _⟩ := Token.read_partition query
  obtain ⟨first, isFirst⟩ : ∃ first, first ∈ (Token.read query).head? := by
    rw [isRead]
    cases pieces <;> simp
  refine ⟨first, isFirst, _, by rw [isRead, List.getLast?_concat]; rfl, ?_, ?_⟩
  · simp [starts first isFirst]
  · simp [stop, Token.stop, Token.length]

/-- What the finding points at in a query. -/
inductive Finding.PointsInto (finding : Finding) (query : Text) : Prop where
  /-- A row of tokens that starts and ends with tokens that count. -/
  | row : finding.CoversAmong (Token.meaningful (Token.read query)) →
      PointsInto finding query
  /-- The quote in a condition, behind its operator, and all that follows. -/
  | openQuote {token : Token} {asked : Condition} {quote : Nat} :
      finding.code = .unclosedQuote → token ∈ (Token.pieces query).getLast? →
      token.form = .condition asked → token.LeavesOpen quote →
      finding.span = some ⟨quote, query.length - quote⟩ →
      PointsInto finding query
  /-- The query as a whole. -/
  | whole : finding.code = .emptyQuery ∨ finding.code = .internalError →
      finding.span = some ⟨0, query.length⟩ → PointsInto finding query

theorem Comparison.separator_ne_nil (comparison : Option Comparison) :
    separator comparison ≠ [] := by
  rcases comparison with _ | comparison
  · decide
  · cases comparison <;> decide

theorem Head.text_ne_nil (head : Head) : head.text ≠ [] := by
  simp [text, Comparison.separator_ne_nil]

private theorem Token.LeavesOpen.position_lt {token : Token} {asked : Condition}
    {quote : Nat} (leaves : token.LeavesOpen quote)
    (isCondition : token.form = .condition asked) : token.position < quote := by
  cases leaves with
  | phrase => cases isCondition
  | @condition other =>
      have operator := List.length_pos_iff.mpr (Head.text_ne_nil other.toHead)
      exact Nat.lt_add_of_pos_right operator

private theorem Quotation.pointsInto_of_mem_findings {query : Text}
    {finding : Finding}
    (member : finding ∈ findings query) : finding.PointsInto query := by
  obtain ⟨quote, isOpen, rfl⟩ := exists_openQuote_of_mem_findings member
  rw [openQuote?_eq_last] at isOpen
  obtain ⟨last, isLast, isQuote⟩ := Option.bind_eq_some_iff.mp isOpen
  have isPiece := List.mem_of_getLast? isLast
  have leaves := (Token.leavesOpen_of_openQuote? isPiece isQuote).2
  have stop := Token.stop_eq_of_last_piece isLast
  cases leaves with
  | phrase value text =>
      refine .row ?_
      rw [Token.meaningful_read]
      exact Finding.coversAmong_of_mem
        (List.mem_filter.mpr ⟨isPiece, rfl⟩) (by rw [Token.span_eq, stop])
  | condition position quoted unclosed =>
      exact .openQuote rfl isLast rfl (.condition position quoted unclosed) rfl

namespace Validator

variable {validator : Validator} {query : Text} {finding : Finding}

private theorem pointsInto_of_mem_errors
    (member : finding ∈ validator.errors query) :
    finding.PointsInto query := by
  simp only [errors, Structure.findings_eq, List.mem_append] at member
  rcases member with ((((brackets | connectives) | extent) | quotes) |
    conditions) | values
  · exact .row (Structure.bracketFault_of_mem brackets).coversAmong
  · exact .row (Structure.connectiveFault_of_mem connectives).coversAmong
  · rcases Structure.cases_of_mem_extentFindings extent with
      rfl | ⟨last, isLast, _, _, span⟩
    · exact .whole (Or.inl rfl) (Structure.emptyQuery_span query)
    · exact .row (Finding.coversAmong_of_mem (List.mem_of_getLast? isLast) span)
  · exact Quotation.pointsInto_of_mem_findings quotes
  · obtain ⟨token, isToken, _, blames⟩ :=
      exists_blamed_of_mem_findingsOf (Or.inl rfl) conditions
    exact .row (Finding.coversAmong_of_mem isToken blames.span)
  · obtain ⟨token, isToken, _, blames⟩ :=
      exists_blamed_of_mem_findingsOf (Or.inr rfl) values
    exact .row (Finding.coversAmong_of_mem isToken blames.span)

private theorem span_of_mem_sizeWarnings {settings : Settings}
    {tokens : List Token}
    (member : finding ∈ sizeWarnings settings query tokens) :
    finding.span = none := by
  simp only [sizeWarnings, warnAbove, List.mem_append, List.mem_ite_nil_right,
    List.mem_singleton] at member
  rcases member with (⟨_, rfl⟩ | ⟨_, rfl⟩) | ⟨_, rfl⟩ <;> rfl

private theorem pointsInto_of_mem_warnings
    (member : finding ∈ validator.warnings query)
    (located : finding.span ≠ none) : finding.PointsInto query := by
  simp only [warnings, List.mem_append] at member
  rcases member with (((meant | usage) | value) | style) | size
  · obtain ⟨token, isToken, _, blames⟩ := exists_blamed_of_mem_meantWarnings meant
    exact .row (Finding.coversAmong_of_mem isToken blames.span)
  · obtain ⟨_, isKnown, advises⟩ :=
      Usage.exists_advised_of_mem_checkConditions usage
    exact .row (Finding.coversAmong_of_mem
      (Usage.mem_meaningful_of_known isKnown) advises.span)
  · obtain ⟨_, isKnown, advises⟩ := Usage.exists_advised_of_mem_checkValues value
    exact .row (Finding.coversAmong_of_mem
      (Usage.mem_meaningful_of_known isKnown) advises.span)
  · obtain ⟨_, isToken, _, _, _, span⟩ := exists_symbol_of_mem_styleWarnings style
    exact .row (Finding.coversAmong_of_mem isToken span)
  · exact absurd (span_of_mem_sizeWarnings size) located

private theorem span_of_emptyQuery
    (member : finding ∈ validator.errors query ++ validator.warnings query)
    (code : finding.code = .emptyQuery) :
    finding.span = some ⟨0, query.length⟩ := by
  have found : finding ∈ Structure.extentFindings (Token.read query) :=
    mem_findingsOf_of_mem member (congrArg Code.origin code) (by simp [code])
      (by decide)
  rcases Structure.cases_of_mem_extentFindings found with
    rfl | ⟨_, _, _, trailing, _⟩
  · exact Structure.emptyQuery_span query
  · rw [code] at trailing
    cases trailing

end Validator

namespace Finding.PointsInto

variable {finding : Finding} {query : Text} {span : Span}

private theorem isSome_span (points : finding.PointsInto query) :
    finding.span.isSome = true := by
  cases points with
  | row covers =>
      obtain ⟨span, located, _⟩ := covers
      simp [located]
  | openQuote _ _ _ _ located => simp [located]
  | whole _ located => simp [located]

/-- The span covers a row of tokens, or the finding is about an open quote in a
condition. -/
theorem cases_of_span (points : finding.PointsInto query)
    (located : finding.span = some span) :
    (∃ row, row <:+: Token.read query ∧ span.Covers row) ∨
      finding.code = .unclosedQuote ∧
        ∃ token ∈ Token.read query, ∃ asked quote,
          token.form = .condition asked ∧ token.LeavesOpen quote ∧
          query[quote]? = some '"' ∧ token.position < quote ∧
          token.stop = query.length ∧ span = ⟨quote, token.stop - quote⟩ := by
  cases points with
  | row covers =>
      obtain ⟨_, same, row, among, covers⟩ := covers
      cases same.symm.trans located
      exact Or.inl (covers.exists_row (among.trans List.filter_sublist))
  | whole _ same =>
      cases same.symm.trans located
      exact Or.inl ⟨_, List.infix_rfl, Span.covers_read query⟩
  | @openQuote token asked quote code isLast isCondition leaves same =>
      cases same.symm.trans located
      have isPiece := List.mem_of_getLast? isLast
      have stop := Token.stop_eq_of_last_piece isLast
      refine Or.inr ⟨code, token, ?_, asked, quote, isCondition, leaves,
        ?_, ?_, stop, by rw [stop]⟩
      · rw [Token.read_eq]
        exact List.mem_append_left _ isPiece
      · exact (Token.leavesOpen_of_openQuote? isPiece
          leaves.openQuote?_eq).1
      · exact leaves.position_lt isCondition

end Finding.PointsInto

namespace Validator

variable {validator : Validator} {query : Text}
  {count : Option Refine.ResultCount} {finding : Finding}

private theorem validate_cases (validator : Validator) (query : Text)
    (count : Option Refine.ResultCount) :
    (validator.validate query count).errors = validator.errors query ∧
        (validator.validate query count).warnings = validator.warnings query ∨
      validator.validate query count = .failed query := by
  rw [validate]
  cases ran : validator.run query count with
  | ok validation => exact Or.inl (findings_of_run_eq_ok ran)
  | error fault => exact Or.inr rfl

private theorem pointsInto_of_mem_validate_errors
    (member : finding ∈ (validator.validate query count).errors) :
    finding.PointsInto query := by
  rcases validator.validate_cases query count with ⟨errors, _⟩ | failed
  · rw [errors] at member
    exact pointsInto_of_mem_errors member
  · rw [failed] at member
    rw [List.mem_singleton.mp member]
    exact .whole (Or.inr rfl) rfl

private theorem pointsInto_of_mem_validate_warnings
    (member : finding ∈ (validator.validate query count).warnings)
    (located : finding.span ≠ none) : finding.PointsInto query := by
  rcases validator.validate_cases query count with ⟨_, warnings⟩ | failed
  · rw [warnings] at member
    exact pointsInto_of_mem_warnings member located
  · rw [failed] at member
    cases member

private theorem span_of_emptyQuery_of_mem_validate
    (member : finding ∈ (validator.validate query count).errors ++
      (validator.validate query count).warnings)
    (code : finding.code = .emptyQuery) :
    finding.span = some ⟨0, query.length⟩ := by
  rcases validator.validate_cases query count with ⟨errors, warnings⟩ | failed
  · rw [errors, warnings] at member
    exact span_of_emptyQuery member code
  · rw [failed] at member
    rw [List.mem_singleton.mp member] at code
    cases code

/-- Findings point at tokens.  Every error has a span.  The span of an error or
a warning lies in the query and covers a row of its tokens, whose text it cuts
out of the query, but for one case: an open quote in a condition points from the
quote, which stands behind the operator, to the end of the condition.  A query
with nothing to read is pointed at as a whole. -/
theorem findings_point_at_tokens (validator : Validator)
    (query : Text) (count : Option Refine.ResultCount) :
    let validation := validator.validate query count
    (∀ error ∈ validation.errors, error.span.isSome = true) ∧
    ∀ finding ∈ validation.errors ++ validation.warnings,
      ∀ span ∈ finding.span,
        (0 ≤ span.position ∧ 0 ≤ span.length ∧ span.stop ≤ query.length) ∧
        ((∃ row, row <:+: Token.read query ∧ span.Covers row ∧
            Text.slice query span.position span.stop = row.flatMap (·.text)) ∨
          finding.code = .unclosedQuote ∧
            ∃ token ∈ Token.read query, ∃ asked quote,
              token.form = .condition asked ∧ token.LeavesOpen quote ∧
              query[quote]? = some '"' ∧ token.position < quote ∧
              span = ⟨quote, token.stop - quote⟩) ∧
        (finding.code = .emptyQuery → span = ⟨0, query.length⟩) := by
  intro validation
  refine ⟨fun error member =>
    (pointsInto_of_mem_validate_errors member).isSome_span, ?_⟩
  intro finding member span located
  have located : finding.span = some span := located
  have points : finding.PointsInto query := by
    rcases List.mem_append.mp member with isError | isWarning
    · exact pointsInto_of_mem_validate_errors isError
    · exact pointsInto_of_mem_validate_warnings isWarning (by simp [located])
  have ofEmpty (code : finding.code = .emptyQuery) : span = ⟨0, query.length⟩ :=
    Option.some.inj (located.symm.trans
      (span_of_emptyQuery_of_mem_validate member code))
  rcases points.cases_of_span located with ⟨row, isRow, covers⟩ |
      ⟨code, token, isToken, asked, quote, isCondition, leaves, isQuote, behind,
        stop, isSpan⟩
  · obtain ⟨start, length, inside, cut⟩ := covers.isInside isRow
    exact ⟨⟨start, length, inside⟩, Or.inl ⟨row, isRow, covers, cut⟩, ofEmpty⟩
  · refine ⟨?_, Or.inr ⟨code, token, isToken, asked, quote, isCondition, leaves,
      isQuote, behind, isSpan⟩, ofEmpty⟩
    have inside : quote < query.length :=
      (List.getElem?_eq_some_iff.mp isQuote).1
    rw [isSpan, stop]
    simp only [Span.stop]
    omega

end Validator

end CardQuery
