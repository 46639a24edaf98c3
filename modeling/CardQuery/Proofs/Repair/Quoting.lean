import CardQuery.Proofs.Repair.Offer
import CardQuery.Proofs.Repair.Removal

/-!
# Adding the closing quote that is missing

The fix strips the query at its end and writes a quote behind it.  Inside an
open phrase a backslash hides the character behind it, so the backslashes at the
end of the stripped query are read in pairs.  The quote closes the phrase if
none of them is left over, and is hidden by the last of them otherwise.
-/

namespace CardQuery

/-- How many backslashes a text ends in. -/
def Text.finalBackslashes (text : Text) : Nat :=
  (text.rtakeWhile (· == '\\')).length

namespace Text

@[simp] theorem finalBackslashes_nil : finalBackslashes [] = 0 := rfl

theorem finalBackslashes_concat (text : Text) (last : Char) :
    finalBackslashes (text ++ [last]) =
      if last = '\\' then finalBackslashes text + 1 else 0 := by
  rw [finalBackslashes, List.rtakeWhile_concat]
  split <;> simp_all [finalBackslashes]

theorem finalBackslashes_cons (first : Char) (rest : Text) :
    finalBackslashes (first :: rest) =
      finalBackslashes rest +
        if (first :: rest).all (· == '\\') then 1 else 0 := by
  induction rest using List.reverseRecOn with
  | nil =>
      have single := finalBackslashes_concat [] first
      rw [List.nil_append] at single
      simp [single]
  | append_singleton rest last ih =>
      rw [← List.cons_append, finalBackslashes_concat, finalBackslashes_concat,
        ih, List.all_append]
      by_cases backslash : last = '\\'
      · simp [backslash]
        omega
      · simp [backslash]

private theorem even_finalBackslashes_hidden (hidden : Char) (rest : Text) :
    Even (finalBackslashes ('\\' :: hidden :: rest)) ↔
      Even (finalBackslashes rest) := by
  have same : ('\\' :: hidden :: rest).all (· == '\\') =
      (hidden :: rest).all (· == '\\') := by
    rw [List.all_cons, beq_self_eq_true, Bool.true_and]
  rw [finalBackslashes_cons, finalBackslashes_cons hidden, same, Nat.add_assoc,
    Nat.even_add]
  exact iff_true_right (Even.add_self _)

private theorem finalBackslashes_cons_of_mem {rest : Text} {character : Char}
    (first : Char) (member : character ∈ first :: rest)
    (other : character ≠ '\\') :
    finalBackslashes (first :: rest) = finalBackslashes rest := by
  have notAll : ¬ (first :: rest).all (· == '\\') = true := fun all =>
    other (beq_iff_eq.mp (List.all_eq_true.mp all character member))
  rw [finalBackslashes_cons, if_neg notAll, Nat.add_zero]

end Text

namespace Quotation

private theorem mem_of_openQuoteFrom {text : Text} {position quote : Nat}
    (isOpen : openQuoteFrom position none text = some quote) : '"' ∈ text := by
  by_contra noQuote
  have passed := isBalanced_of_noQuote noQuote position []
  rw [List.append_nil, isOpen] at passed
  cases passed

/-- A quote closes an open phrase if the backslashes in front of it are
paired. -/
theorem openQuoteFrom_append_quote_iff {text : Text} {opened : Option Nat}
    {position quote : Nat}
    (isOpen : openQuoteFrom position opened text = some quote) :
    openQuoteFrom position opened (text ++ ['"']) = none ↔
      Even (Text.finalBackslashes text) := by
  fun_induction openQuoteFrom position opened text with
  | case1 position opened => simp [isOpen, openQuoteFrom]
  | case2 position first rest ih =>
      rw [List.cons_append, openQuoteFrom, ih isOpen]
      by_cases opens : first = '"'
      · rw [Text.finalBackslashes_cons_of_mem first List.mem_cons_self
          (by simp [opens])]
      · rw [if_neg opens] at isOpen
        rw [Text.finalBackslashes_cons_of_mem first
          (List.mem_cons_of_mem first (mem_of_openQuoteFrom isOpen))
          (by decide)]
  | case3 position start =>
      have single : Text.finalBackslashes ['\\'] = 1 := rfl
      simp [openQuoteFrom, single]
  | case4 position start escaped rest ih =>
      rw [List.cons_append, List.cons_append, openQuoteFrom, ih isOpen,
        Text.even_finalBackslashes_hidden]
  | case5 position start first rest noEnd noEscape ih =>
      have noBackslash := ne_backslash noEnd noEscape
      rw [Text.finalBackslashes_cons_of_mem first List.mem_cons_self
        noBackslash, ← ih isOpen, List.cons_append,
        openQuoteFrom_cons noBackslash]

end Quotation

namespace Validator

variable {validator : Validator} {query : Text}

private theorem exists_unclosedQuote (validator : Validator)
    (unbalanced : Quotation.findings query ≠ []) :
    ∃ finding ∈ Quotation.findings query,
      finding ∈ validator.errors query ∧ finding.code = .unclosedQuote ∧
        ∃ span, finding.span = some span := by
  obtain ⟨finding, found⟩ := List.exists_mem_of_ne_nil _ unbalanced
  have among : finding ∈ validator.errors query := by simp [errors, found]
  obtain ⟨_, _, rfl⟩ := Quotation.exists_openQuote_of_mem_findings found
  exact ⟨_, found, among, rfl, _, rfl⟩

private theorem reports_unclosedQuote_iff (validator : Validator) (query : Text)
    (count : Option Int) :
    (validator.validate query (count.map .number)).Reports .unclosedQuote ↔
      Usage.isMeasurable validator.registry
          validator.settings.suggestionDistance (Token.read query) = true ∧
        Quotation.findings query ≠ [] := by
  rw [reports_iff (by decide)]
  refine and_congr_right fun _ => ⟨?_, fun unbalanced => ?_⟩
  · rintro ⟨error, member, code⟩
    exact List.ne_nil_of_mem
      (mem_findingsOf_of_mem_errors member (congrArg Code.origin code))
  · obtain ⟨finding, _, among, code, _⟩ :=
      exists_unclosedQuote validator unbalanced
    exact ⟨finding, among, code⟩

/-- The fix for the quote that a query leaves open is among the suggestions. -/
theorem exists_quoting_suggestion
    (measurable : Usage.isMeasurable validator.registry
      validator.settings.suggestionDistance (Token.read query) = true)
    (unbalanced : Quotation.findings query ≠ []) (count : Option Int) :
    ∃ suggestion ∈
        (validator.validate query (count.map .number)).suggestions,
      suggestion.query = Text.stripEnd query ++ ['"'] := by
  obtain ⟨finding, found, among, code, span, located⟩ :=
    exists_unclosedQuote validator unbalanced
  have fixes : validator.Fixes query finding (Fix.sure .addition
      ("Add the missing closing quote " ++ ['"'])
      (Text.stripEnd query ++ ['"'])) := by
    refine ⟨List.mem_append_left _ among, ?_⟩
    rw [Fix.ofFinding?, located, code]
    dsimp only [Fix.fix?, Fix.closeQuote]
    rw [Quotation.isInside_of_mem_findings found located]
    rfl
  exact fixes.exists_suggestion measurable
    (Text.stripEnd_append_ne (List.mem_singleton_self '"') (by decide)) count

/-- A query with an open quote is suggested with a closing quote behind its
stripped text.  It leaves no quote open exactly if the backslashes at the end of
the stripped text are paired. -/
theorem quoting_suggestion_closes_iff {validator : Validator} {query : Text}
    {count : Option Int}
    (reported : (validator.validate query (count.map .number)).Reports
      .unclosedQuote) :
    (∃ suggestion ∈
        (validator.validate query (count.map .number)).suggestions,
      suggestion.query = Text.stripEnd query ++ ['"']) ∧
    (Quotation.findings (Text.stripEnd query ++ ['"']) = [] ↔
      Even (Text.finalBackslashes (Text.stripEnd query))) := by
  obtain ⟨measurable, unbalanced⟩ :=
    (reports_unclosedQuote_iff validator query count).mp reported
  obtain ⟨quote, isOpen⟩ := Quotation.exists_openQuote?_stripEnd unbalanced
  refine ⟨exists_quoting_suggestion measurable unbalanced count, ?_⟩
  rw [Quotation.findings_eq_nil_iff]
  exact Quotation.openQuoteFrom_append_quote_iff isOpen

theorem quoting_suggestion_closes_iff_escaped_backslash :
    (standard.validate "o:\"draw a card\\\\ " none).Reports
        .unclosedQuote ∧
      Quotation.findings "o:\"draw a card\\\\\"" = [] := by
  have reported : (standard.validate "o:\"draw a card\\\\ " none).Reports
      .unclosedQuote := by
    decide +kernel
  have closes := (@quoting_suggestion_closes_iff standard
    "o:\"draw a card\\\\ " none reported).2
  have quoted : Text.stripEnd "o:\"draw a card\\\\ " ++ ['"'] =
      "o:\"draw a card\\\\\"" := by
    decide +kernel
  have paired : Even (Text.finalBackslashes
      (Text.stripEnd "o:\"draw a card\\\\ ")) := by
    decide +kernel
  rw [quoted] at closes
  exact ⟨reported, closes.mpr paired⟩

/-- A backslash at the end hides the quote that is added, so that the query that
is suggested has the same quote open. -/
theorem not_quoting_suggestion_closes_backslash :
    (standard.validate "\"abc\\" none).Reports .unclosedQuote ∧
      (∃ suggestion ∈ (standard.validate "\"abc\\" none).suggestions,
        suggestion.query = "\"abc\\\"" ∧
          suggestion.description = "Add the missing closing quote \"") ∧
      Quotation.findings "\"abc\\\"" ≠ [] := by
  decide +kernel

end Validator

end CardQuery
