import CardQuery.Proofs.Search.Unmatched
import CardQuery.Search.Measure
import Mathlib.Data.List.Infix
import Mathlib.Order.Bounds.Basic

/-!
# The depth of brackets

The depth is measured with a level that opening brackets raise and closing ones
lower, but never below zero.  It can be said without a level: the depth is the
greatest surplus of opening brackets over closing ones among all runs of
consecutive tokens, the empty one included.

The walk over the tokens keeps two such numbers.  The level is the greatest
surplus of the runs that end where the walk has come to, and it stops at zero
because the empty run ends there as well.  The deepest level is the greatest
surplus of the runs up to there.  One more token changes only the runs that it
ends.
-/

namespace CardQuery.Token

open Structure

/-- How many more opening brackets than closing ones the tokens have. -/
def surplus (tokens : List Token) : Int := openings tokens - closings tokens

@[simp] theorem surplus_nil : surplus [] = 0 := rfl

theorem surplus_append (left right : List Token) :
    surplus (left ++ right) = surplus left + surplus right := by
  simp only [surplus, openings, closings, List.countP_append, Int.natCast_add]
  omega

theorem surplus_singleton (token : Token) :
    surplus [token] = token.isOpening.toNat - token.isClosing.toNat := by
  simp [surplus, openings_cons, closings_cons]

/-- The level behind some tokens and the deepest level among them, as the
greatest surplus of the runs that end there and of all runs. -/
structure Levels (tokens : List Token) (level reached : Nat) : Prop where
  level_isGreatest : IsGreatest (surplus '' {run | run <:+ tokens}) level
  reached_isGreatest : IsGreatest (surplus '' {run | run <:+: tokens}) reached

namespace Levels

variable {tokens : List Token} {level reached : Nat}

theorem nil : Levels [] 0 0 := by
  constructor <;> simp [isGreatest_singleton]

private theorem le_reached (levels : Levels tokens level reached) : level ≤
    reached := by
  obtain ⟨run, isSuffix, same⟩ := levels.level_isGreatest.1
  have le := levels.reached_isGreatest.2 ⟨run, isSuffix.isInfix, same⟩
  exact Int.ofNat_le.mp le

theorem level_concat (levels : Levels tokens level reached) {token : Token}
    {next : Nat} (isNext : (next : Int) = max 0 (level + surplus [token])) :
    IsGreatest (surplus '' {run | run <:+ tokens ++ [token]}) next := by
  obtain ⟨⟨best, isSuffix, same⟩, greatest⟩ := levels.level_isGreatest
  constructor
  · rcases le_total 0 (level + surplus [token]) with positive | negative
    · refine ⟨best ++ [token],
        List.suffix_concat_iff.mpr (Or.inr ⟨best, rfl, isSuffix⟩), ?_⟩
      rw [surplus_append, same, isNext, max_eq_right positive]
    · refine ⟨[], List.nil_suffix, ?_⟩
      rw [isNext, max_eq_left negative, surplus_nil]
  · rintro _ ⟨run, isRun, rfl⟩
    rcases List.suffix_concat_iff.mp isRun with rfl | ⟨front, rfl, ofTokens⟩
    · rw [surplus_nil]
      exact Int.natCast_nonneg next
    · have le := greatest ⟨front, ofTokens, rfl⟩
      rw [surplus_append, isNext]
      omega

theorem concat (levels : Levels tokens level reached) {token : Token}
    {next : Nat} (isNext : (next : Int) = max 0 (level + surplus [token])) :
    Levels (tokens ++ [token]) next (max reached next) where
  level_isGreatest := levels.level_concat isNext
  reached_isGreatest := by
    obtain ⟨⟨last, isLast, sameLast⟩, greatestLast⟩ := levels.level_concat isNext
    obtain ⟨⟨best, isBest, same⟩, greatest⟩ := levels.reached_isGreatest
    constructor
    · rcases le_total reached next with le | ge
      · rw [max_eq_right le]
        exact ⟨last, isLast.isInfix, sameLast⟩
      · rw [max_eq_left ge]
        exact ⟨best, isBest.trans (List.prefix_append _ _).isInfix, same⟩
    · rintro _ ⟨run, isRun, rfl⟩
      rcases List.infix_concat_iff.mp isRun with isSuffix | earlier
      · have le := greatestLast ⟨run, isSuffix, rfl⟩
        omega
      · have le := greatest ⟨run, earlier, rfl⟩
        omega

private theorem deepest_isGreatest (levels : Levels tokens level reached)
    (more : List Token) :
    IsGreatest (surplus '' {run | run <:+: tokens ++ more})
      (deepest level reached more) := by
  induction more generalizing tokens level reached with
  | nil =>
      rw [List.append_nil]
      exact levels.reached_isGreatest
  | cons token more ih =>
      have le := levels.le_reached
      have step := surplus_singleton token
      rw [← List.singleton_append, ← List.append_assoc, List.singleton_append,
        deepest]
      split
      next opening =>
        rw [opening, not_isClosing_of_isOpening opening] at step
        exact ih (levels.concat (by rw [step]; simp; omega))
      next notOpening =>
        rw [Bool.eq_false_iff.mpr notOpening] at step
        split
        next closing =>
          rw [closing] at step
          have later : Levels (tokens ++ [token]) (level - 1)
              (max reached (level - 1)) :=
            levels.concat (by rw [step]; simp; omega)
          rw [max_eq_left (by omega)] at later
          exact ih later
        next notClosing =>
          rw [Bool.eq_false_iff.mpr notClosing] at step
          have later : Levels (tokens ++ [token]) level (max reached level) :=
            levels.concat (by rw [step]; simp)
          rw [max_eq_left le] at later
          exact ih later

end Levels

private theorem nestingDepth_isGreatest (tokens : List Token) :
    IsGreatest (surplus '' {run | run <:+: tokens}) (nestingDepth tokens) :=
  Levels.nil.deepest_isGreatest tokens

/-- Brackets around a run do not make it less deep. -/
theorem nestingDepth_mono {run tokens : List Token} (isRun : run <:+: tokens) :
    nestingDepth run ≤ nestingDepth tokens := by
  obtain ⟨best, isBest, same⟩ := (nestingDepth_isGreatest run).1
  have le := (nestingDepth_isGreatest tokens).2
    ⟨best, isBest.trans isRun, same⟩
  exact Int.ofNat_le.mp le

/-- The nesting depth is the greatest surplus of opening brackets over closing
ones in a run of consecutive tokens.  Hence more tokens never lower it, and each
of them adds at least one to the complexity. -/
theorem nestingDepth_isGreatest_surplus (tokens more : List Token) :
    IsGreatest (surplus '' {run | run <:+: tokens}) (nestingDepth tokens) ∧
      nestingDepth tokens ≤ nestingDepth (tokens ++ more) ∧
      complexityHalves tokens + 2 * more.length ≤
        complexityHalves (tokens ++ more) := by
  have deeper : nestingDepth tokens ≤ nestingDepth (tokens ++ more) :=
    nestingDepth_mono (List.prefix_append tokens more).isInfix
  refine ⟨nestingDepth_isGreatest tokens, deeper, ?_⟩
  simp only [complexityHalves, List.length_append, List.countP_append]
  omega

end CardQuery.Token
