import CardQuery.Proofs.Repair.Offer
import CardQuery.Proofs.Repair.Removal
import CardQuery.Proofs.Search.OpenBrackets
import CardQuery.Proofs.Search.OpenEnd

/-!
# Adding the closing brackets that are missing

The fix writes one closing bracket for each bracket that is left open to the end
of the query.  Where the quotes of the query are closed, each of them is read as
a bracket and closes one.  Where a quote is left open, they become part of the
phrase behind it, the query says the same as before up to the value of that
phrase, and the brackets are still left open.
-/

namespace CardQuery

open Structure

namespace Lexeme

private theorem separates_replicate_closing (count : Nat) :
    Separates (List.replicate count ')') := by
  cases count with
  | zero => exact separates_nil
  | succ count => exact separates_closing _

private theorem noQuote_replicate_closing (count : Nat) :
    '"' ∉ List.replicate count ')' := by
  intro member
  exact absurd (List.eq_of_mem_replicate member) (by decide)

private theorem readsAs_replicate_closing (count : Nat) :
    ReadsAs (List.replicate count ')')
      (List.replicate count (.bracket false)) := by
  rw [readsAs_iff]
  refine ⟨Quotation.isBalanced_of_noQuote (noQuote_replicate_closing count), ?_⟩
  induction count with
  | zero => exact forms_nil
  | succ count ih => rw [List.replicate_succ, forms_closing, ih]; rfl

end Lexeme

private theorem Structure.leftOpen_map_withoutValue (pending : Nat)
    (row : List Form) :
    leftOpen pending (row.map Form.withoutValue) = leftOpen pending row := by
  fun_induction leftOpen pending row with
  | case1 => rfl
  | case2 pending rest ih =>
      rw [List.map_cons, Form.withoutValue, leftOpen_opening, ih]
      all_goals simp
  | case3 pending rest ih =>
      rw [List.map_cons, Form.withoutValue, leftOpen_closing, ih]
      all_goals simp
  | case4 pending form rest noOpening noClosing ih =>
      have noOpening : form.withoutValue ≠ .bracket true := by
        cases form <;> simp_all [Form.withoutValue]
      have noClosing : form.withoutValue ≠ .bracket false := by
        cases form <;> simp_all [Form.withoutValue]
      rw [List.map_cons, leftOpen_other noOpening noClosing, ih]

/-- Whether a form holds no name, or one that can be compared or is known. -/
def Usage.hasMeasurableName (registry : Registry) (maxDistance : Int)
    (form : Form) : Bool :=
  form.condition?.all fun condition =>
    registry.isMeasurable condition.name maxDistance ||
      registry.contains condition.name

private theorem Usage.isMeasurable_read (registry : Registry)
    (maxDistance : Int)
    (query : Text) :
    isMeasurable registry maxDistance (Token.read query) =
      (Lexeme.forms query).all (hasMeasurableName registry maxDistance) := by
  rw [← meaningfulForms_read, Bool.eq_iff_iff, isMeasurable, List.all_eq_true,
    List.all_eq_true]
  constructor
  · intro measurable form member
    obtain ⟨token, isToken, rfl⟩ := List.mem_map.mp member
    cases asked : token.form.condition? with
    | none => rw [hasMeasurableName, asked]; rfl
    | some condition =>
        rw [hasMeasurableName, asked]
        exact measurable (token, condition) (List.mem_filterMap.mpr
          ⟨token, List.mem_of_mem_filter isToken, by rw [asked]; rfl⟩)
  · rintro measurable ⟨token, condition⟩ member
    obtain ⟨isToken, isCondition⟩ := Token.mem_conditions_iff.mp member
    have counts : token.form.isMeaningful = true := by rw [isCondition]; rfl
    have found := measurable token.form
      ((mem_meaningfulForms_iff counts).mpr ⟨token, isToken, rfl⟩)
    rwa [hasMeasurableName, isCondition] at found

private theorem Usage.hasMeasurableName_withoutValue (registry : Registry)
    (maxDistance : Int) (form : Form) :
    hasMeasurableName registry maxDistance form.withoutValue =
      hasMeasurableName registry maxDistance form := by
  cases form <;> rfl

/-- Values have no say in whether names can be compared. -/
theorem Usage.isMeasurable_congr {registry : Registry} {maxDistance : Int}
    {query other : Text}
    (same : (Lexeme.forms query).map Form.withoutValue =
      (Lexeme.forms other).map Form.withoutValue) :
    isMeasurable registry maxDistance (Token.read query) =
      isMeasurable registry maxDistance (Token.read other) := by
  have blind (row : List Form) :
      row.all (hasMeasurableName registry maxDistance) =
        (row.map Form.withoutValue).all
          (hasMeasurableName registry maxDistance) := by
    rw [List.all_map]
    congr 1
    exact funext fun form =>
      (hasMeasurableName_withoutValue registry maxDistance form).symm
  rw [isMeasurable_read, isMeasurable_read, blind, same, ← blind]

namespace Validator

variable {validator : Validator} {query : Text}

private theorem reports_unmatchedOpeningBracket_iff (validator : Validator)
    (query : Text) (count : Option Int) :
    (validator.validate query (count.map .number)).Reports
        .unmatchedOpeningBracket ↔
      Usage.isMeasurable validator.registry
          validator.settings.suggestionDistance (Token.read query) = true ∧
        0 < leftOpen 0 (Lexeme.forms query) := by
  rw [reports_iff (by decide), ← countP_errors validator query,
    List.countP_pos_iff]
  simp

/-- The fix for the brackets that a query leaves open is among the
suggestions. -/
theorem exists_closing_suggestion
    (measurable : Usage.isMeasurable validator.registry
      validator.settings.suggestionDistance (Token.read query) = true)
    (isOpen : 0 < leftOpen 0 (Lexeme.forms query)) (count : Option Int) :
    ∃ suggestion ∈
        (validator.validate query (count.map .number)).suggestions,
      suggestion.query = Text.stripEnd query ++
        List.replicate (leftOpen 0 (Lexeme.forms query)) ')' := by
  have openings : (validator.errors query ++ validator.warnings query).countP
      (·.code == .unmatchedOpeningBracket) =
        leftOpen 0 (Lexeme.forms query) := by
    rw [List.countP_append, countP_errors, countP_warnings, Nat.add_zero]
  obtain ⟨finding, member, code⟩ :=
    List.countP_pos_iff.mp (countP_errors validator query ▸ isOpen)
  rw [beq_iff_eq] at code
  have among := mem_findingsOf_of_mem_errors member (congrArg Code.origin code)
  obtain ⟨span, located⟩ := (bracketFault_of_mem among).exists_span
  have fixes : validator.Fixes query finding (Fix.closeBrackets
      ⟨query, span, finding.corrections, leftOpen 0 (Lexeme.forms query)⟩) := by
    refine ⟨List.mem_append_left _ member, ?_⟩
    rw [Fix.ofFinding?, located, openings, code]
    rfl
  have isAdded : ')' ∈ List.replicate (leftOpen 0 (Lexeme.forms query)) ')' :=
    List.mem_replicate.mpr ⟨Nat.ne_of_gt isOpen, rfl⟩
  exact fixes.exists_suggestion measurable
    (Text.stripEnd_append_ne isAdded (by decide)) count

/-- Behind closed quotes the brackets are closed. -/
theorem leftOpen_closed_of_balanced (balanced : Quotation.findings query = [])
    (count : Nat) :
    leftOpen 0 (Lexeme.forms
        (Text.stripEnd query ++ List.replicate count ')')) =
      leftOpen 0 (Lexeme.forms query) - count := by
  have reads := (Lexeme.readsAs_iff.mpr ⟨Quotation.isBalanced_iff.mpr
    (Quotation.findings_eq_nil_iff.mp balanced), rfl⟩).stripEnd
  have closed := reads.append (Lexeme.readsAs_replicate_closing count)
    (Or.inr (Or.inr (Lexeme.separates_replicate_closing count)))
  rw [closed.forms_eq, leftOpen_append, leftOpen_replicate_closing]

/-- Behind an open quote nothing is closed. -/
theorem map_withoutValue_closed_of_open
    (unbalanced : Quotation.findings query ≠ []) (count : Nat) :
    (Lexeme.forms (Text.stripEnd query ++ List.replicate count ')')).map
        Form.withoutValue =
      (Lexeme.forms query).map Form.withoutValue := by
  obtain ⟨blanks, split, blank⟩ := Text.exists_blanks query
  obtain ⟨quote, isQuote⟩ := Quotation.exists_openQuote?_stripEnd unbalanced
  have longer := Lexeme.map_withoutValue_forms_append isQuote
    (Lexeme.separates_blanks blank) (Text.quote_not_mem_of_blank blank)
  rw [← split] at longer
  rw [longer]
  exact Lexeme.map_withoutValue_forms_append isQuote
    (Lexeme.separates_replicate_closing count)
    (Lexeme.noQuote_replicate_closing count)

/-- The query with one closing bracket for each bracket that is reported as left
open is suggested.  It leaves no bracket open exactly if it leaves no quote
open. -/
theorem closing_suggestion_closes_iff {validator : Validator} {query : Text}
    {count : Option Int}
    (reported : (validator.validate query (count.map .number)).Reports
      .unmatchedOpeningBracket) :
    let missing := (validator.validate query
      (count.map .number)).errors.countP (·.code == .unmatchedOpeningBracket)
    let closed := Text.stripEnd query ++ List.replicate missing ')'
    (∃ suggestion ∈
        (validator.validate query (count.map .number)).suggestions,
      suggestion.query = closed) ∧
    ∀ again : Option Int,
      ¬ (validator.validate closed (again.map .number)).Reports
          .unmatchedOpeningBracket ↔
        Quotation.findings query = [] := by
  obtain ⟨measurable, isOpen⟩ :=
    (reports_unmatchedOpeningBracket_iff validator query count).mp reported
  dsimp only
  rw [validate_errors measurable, countP_errors]
  refine ⟨exists_closing_suggestion measurable isOpen count, fun again => ?_⟩
  rw [reports_unmatchedOpeningBracket_iff]
  by_cases balanced : Quotation.findings query = []
  · simp [leftOpen_closed_of_balanced balanced, balanced]
  · have same := map_withoutValue_closed_of_open balanced
      (leftOpen 0 (Lexeme.forms query))
    have still : leftOpen 0 (Lexeme.forms (Text.stripEnd query ++
          List.replicate (leftOpen 0 (Lexeme.forms query)) ')')) =
        leftOpen 0 (Lexeme.forms query) := by
      rw [← leftOpen_map_withoutValue, same, leftOpen_map_withoutValue]
    refine iff_of_false (not_not.mpr ⟨?_, ?_⟩) balanced
    · rw [Usage.isMeasurable_congr same]
      exact measurable
    · rw [still]
      exact isOpen

theorem closing_suggestion_closes_iff_two_brackets :
    (standard.validate "(c:red OR (t:elf " none).Reports
        .unmatchedOpeningBracket ∧
      ¬ (standard.validate "(c:red OR (t:elf))" none).Reports
          .unmatchedOpeningBracket := by
  have reported : (standard.validate "(c:red OR (t:elf " none).Reports
      .unmatchedOpeningBracket := by
    decide +kernel
  have closed : Text.stripEnd "(c:red OR (t:elf " ++ List.replicate
      ((standard.validate "(c:red OR (t:elf " none).errors.countP
        (·.code == .unmatchedOpeningBracket)) ')' = "(c:red OR (t:elf))" := by
    decide +kernel
  have closes := (@closing_suggestion_closes_iff standard
    "(c:red OR (t:elf " none reported).2 none
  rw [Option.map_none, closed] at closes
  exact ⟨reported, closes.mpr (by decide +kernel)⟩

/-- The bracket that is added behind an open quote becomes part of the phrase,
so that the same bracket is missing from the query that is suggested. -/
theorem not_closing_suggestion_closes_open_quote :
    (standard.validate "(c:red \"draw" none).Reports
        .unmatchedOpeningBracket ∧
      (standard.validate "(c:red \"draw" none).errors.countP
          (·.code == .unmatchedOpeningBracket) = 1 ∧
      (∃ suggestion ∈ (standard.validate "(c:red \"draw" none).suggestions,
        suggestion.query = "(c:red \"draw)" ∧
          suggestion.description = "Add 1 missing closing parenthesis") ∧
      (standard.validate "(c:red \"draw)" none).Reports
        .unmatchedOpeningBracket := by
  decide +kernel

end Validator

end CardQuery
