import CardQuery.Operator.Grammar
import CardQuery.Proofs.Number.Positional
import CardQuery.Proofs.Text.Steady

/-!
# Shapes of years and numbers

Years and numbers are refused for their shape alone, for each text of the right
shape has a value.  The text of a number is therefore refused exactly if it is
no numeral: it holds no line feed that would not count, and none of the names
that stand for a number.
-/

namespace CardQuery.Grammar

private theorem readYear?_isSome_iff {text : Text} :
    (readYear? text).isSome = true ↔
      text.length = 4 ∧ ∀ character ∈ text, Text.isDigit character = true := by
  unfold readYear?
  split
  next length =>
    simp only [length, true_and]
    constructor
    · intro found
      obtain ⟨year, value⟩ := Option.isSome_iff_exists.mp found
      exact Text.isDigit_of_digitsValue? value
    · exact Text.digitsValue?_isSome
  next length => simp [length]

theorem checkYear_errors_eq_nil_iff {value : Text} :
    (checkYear value).errors = [] ↔
      (line value).length = 4 ∧
        ∀ character ∈ line value, Text.isDigit character = true := by
  rw [← readYear?_isSome_iff, checkYear]
  cases readYear? (line value) with
  | none => simp [ValueCheck.refused]
  | some printed =>
      dsimp only
      split <;> simp [ValueCheck.clean, ValueCheck.doubtful]

/-- A number is refused for its shape alone. -/
theorem checkNumber_errors_eq_nil_iff {operator value : Text} :
    (checkNumber operator value).errors = [] ↔
      isStatName value = true ∨ Numeral.HasShape (line value) := by
  rw [← Numeral.read?_isSome_iff, checkNumber]
  split
  next stat => simp [ValueCheck.clean, stat]
  next noStat =>
    cases Numeral.read? (line value) with
    | none => simp [ValueCheck.refused, noStat]
    | some numeral =>
        dsimp only
        split
        · simp [ValueCheck.clean]
        · split <;> simp [ValueCheck.clean, ValueCheck.doubtful]

theorem line_of_not_mem {text : Text} (noFeed : '\n' ∉ text) :
    line text = text := by
  rw [line, if_neg]
  intro feed
  exact noFeed (List.mem_of_getLast? feed)

private theorem isStatName_plain (number : Binary64) :
    isStatName number.plain = false := by
  have steady : "0123456789.+-aefin".toList.all Text.isSteady = true := by
    decide
  have names : ∀ name ∈ Vocabulary.statNames,
      name.all Binary64.isMark = false := by
    decide
  have marks := number.all_isMark_plain
  have lowered : Text.lower number.plain = number.plain := by
    apply Text.lower_of_isSteady
    rw [List.all_eq_true] at marks ⊢
    intro character member
    exact List.all_eq_true.mp steady character
      (List.contains_iff_mem.mp (marks character member))
  rw [isStatName, lowered, Bool.eq_false_iff]
  intro isName
  rw [names _ (List.contains_iff_mem.mp isName)] at marks
  cases marks

/-- The text of a number is refused exactly if it is no numeral. -/
theorem checkNumber_plain_errors_eq_nil_iff {operator : Text}
    {number : Binary64} :
    (checkNumber operator number.plain).errors = [] ↔
      Numeral.HasShape number.plain := by
  have noFeed : '\n' ∉ number.plain := by
    intro feed
    have mark := List.all_eq_true.mp number.all_isMark_plain '\n' feed
    revert mark
    decide
  rw [checkNumber_errors_eq_nil_iff, line_of_not_mem noFeed, isStatName_plain,
    or_iff_right Bool.false_ne_true]

end CardQuery.Grammar
