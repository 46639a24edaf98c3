import CardQuery.Proofs.Origin
import CardQuery.Proofs.Search.Faultless
import CardQuery.Proofs.Search.Written

/-!
# Brackets that are left open

The stack of the bracket check is only as high as the number of brackets that
wait to be closed, and each of those that wait at the end is reported.  Counting
them takes no stack: a closing bracket takes one away as long as there is one.
-/

namespace CardQuery

open Structure

/-- How many brackets are left open at the end of a row of forms that `pending`
open ones stand in front of. -/
def Structure.leftOpen : (pending : Nat) → List Form → Nat
  | pending, [] => pending
  | pending, .bracket true :: rest => leftOpen (pending + 1) rest
  | pending, .bracket false :: rest => leftOpen (pending - 1) rest
  | pending, _ :: rest => leftOpen pending rest

namespace Structure

@[simp] theorem leftOpen_nil (pending : Nat) :
    leftOpen pending [] = pending := by
  simp [leftOpen]

@[simp] theorem leftOpen_opening (pending : Nat) (rest : List Form) :
    leftOpen pending (.bracket true :: rest) = leftOpen (pending + 1) rest := by
  simp [leftOpen]

@[simp] theorem leftOpen_closing (pending : Nat) (rest : List Form) :
    leftOpen pending (.bracket false :: rest) = leftOpen (pending - 1) rest := by
  simp [leftOpen]

theorem leftOpen_other {form : Form} (noOpening : form ≠ .bracket true)
    (noClosing : form ≠ .bracket false) (pending : Nat) (rest : List Form) :
    leftOpen pending (form :: rest) = leftOpen pending rest := by
  cases form with
  | bracket isOpen => cases isOpen <;> contradiction
  | _ => simp [leftOpen]

theorem leftOpen_append (pending : Nat) (row later : List Form) :
    leftOpen pending (row ++ later) = leftOpen (leftOpen pending row) later := by
  fun_induction leftOpen pending row with
  | case1 => rfl
  | case2 pending rest ih => rw [List.cons_append, leftOpen_opening, ih]
  | case3 pending rest ih => rw [List.cons_append, leftOpen_closing, ih]
  | case4 pending form rest noOpening noClosing ih =>
      rw [List.cons_append, leftOpen_other noOpening noClosing, ih]

theorem leftOpen_replicate_closing (pending count : Nat) :
    leftOpen pending (List.replicate count (.bracket false)) =
      pending - count := by
  induction count generalizing pending with
  | zero => simp
  | succ count ih =>
      rw [List.replicate_succ, leftOpen_closing, ih]
      omega

theorem filter_emptyBrackets {code : Code} (other : code ≠ .emptyBrackets)
    (token : Token) (rest : List Token) :
    (emptyBrackets token rest).filter (·.code == code) = [] := by
  rw [List.filter_eq_nil_iff]
  intro finding member same
  cases rest with
  | nil => cases member
  | cons next rest =>
      rw [emptyBrackets, List.mem_ite_nil_right, List.mem_singleton] at member
      rw [member.2, beq_iff_eq] at same
      exact other same.symm

/-- Every bracket that is left open is reported, and no other one is reported
for that. -/
theorem countP_bracketFindings (pending tokens : List Token) :
    (bracketFindings pending tokens).countP
        (·.code == .unmatchedOpeningBracket) =
      leftOpen pending.length (forms tokens) := by
  fun_induction bracketFindings pending tokens with
  | case1 pending =>
      rw [List.countP_map, List.countP_eq_length.mpr, List.length_reverse]
      · rfl
      · exact fun _ _ => rfl
  | case2 pending token rest opening ih =>
      rw [List.countP_append, List.countP_eq_length_filter,
        filter_emptyBrackets (by decide), ih, forms_cons,
        isOpening_iff.mp opening, leftOpen_opening]
      simp
  | case3 token rest opening closing ih =>
      rw [List.countP_cons_of_neg (by simp [unmatchedClosing, Finding.onToken]),
        ih, forms_cons, isClosing_iff.mp closing, leftOpen_closing]
      rfl
  | case4 token rest opening closing innermost outer ih =>
      rw [ih, forms_cons, isClosing_iff.mp closing, leftOpen_closing]
      rfl
  | case5 pending token rest opening closing ih =>
      rw [isOpening_iff] at opening
      rw [isClosing_iff] at closing
      rw [ih, forms_cons, leftOpen_other opening closing]

end Structure

namespace Validator

/-- The brackets that a query leaves open are counted by its errors. -/
theorem countP_errors (validator : Validator) (query : Text) :
    (validator.errors query).countP (·.code == .unmatchedOpeningBracket) =
      leftOpen 0 (Lexeme.forms query) := by
  have sorted (finding : Finding) :
      (finding.code == .unmatchedOpeningBracket &&
        finding.code.origin == .brackets) =
      (finding.code == .unmatchedOpeningBracket) := by
    cases code : finding.code <;> rfl
  have among : (validator.errors query).countP
        (·.code == .unmatchedOpeningBracket) =
      (validator.findingsOf query .brackets).countP
        (·.code == .unmatchedOpeningBracket) := by
    rw [← errors_filter_origin, List.countP_filter]
    simp only [sorted]
  rw [among, ← meaningfulForms_read]
  exact countP_bracketFindings [] _

theorem countP_warnings (validator : Validator) (query : Text) :
    (validator.warnings query).countP (·.code == .unmatchedOpeningBracket) =
      0 := by
  rw [List.countP_eq_zero]
  intro warning member opening
  have code := code_of_mem_warnings member
  rw [beq_iff_eq.mp opening] at code
  simp [Code.origin] at code

end Validator

end CardQuery
