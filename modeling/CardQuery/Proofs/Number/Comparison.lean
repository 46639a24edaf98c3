import CardQuery.Number.Binary64

/-!
# Comparing numbers

Of two numbers the larger one is not below either, whatever they are.  What is
read from decimal digits is never undefined, so it is comparable with every
number of that origin.
-/

namespace CardQuery.Binary64

theorem not_lt_self (number : Binary64) : ¬ number < number := by
  intro less
  obtain ⟨le, notGe⟩ := lt_iff_le_not_ge.mp less
  exact notGe le

theorem not_larger_lt_left {left right other : Binary64}
    (notLess : ¬ left < other) : ¬ left.larger right < other := by
  rw [larger]
  split
  next isRight =>
    intro less
    obtain ⟨leRight, notGe⟩ := lt_iff_le_not_ge.mp isRight
    obtain ⟨leOther, _⟩ := lt_iff_le_not_ge.mp less
    apply notLess
    exact lt_iff_le_not_ge.mpr ⟨le_trans leRight leOther, fun ge =>
      notGe (le_trans leOther ge)⟩
  next => exact notLess

theorem not_larger_lt_right (left right : Binary64) :
    ¬ left.larger right < right := by
  rw [larger]
  split
  next => exact not_lt_self right
  next notLess => exact notLess

theorem nearest_ne_undefined (negative : Bool) (numerator denominator : Nat) :
    nearest negative numerator denominator ≠ undefined := by
  unfold nearest
  dsimp only
  split
  · exact nofun
  · split
    · split <;> exact nofun
    · exact nofun

theorem ofDecimal_ne_undefined (negative : Bool) (digits : Nat)
    (exponent : Int) : ofDecimal negative digits exponent ≠ undefined := by
  unfold ofDecimal
  split
  · exact nearest_ne_undefined _ _ _
  · split
    · exact nofun
    · split
      · exact nearest_ne_undefined _ _ _
      · split <;> exact nearest_ne_undefined _ _ _

theorem le_of_not_lt {left right : Binary64} (leftDefined : left ≠ undefined)
    (rightDefined : right ≠ undefined) (notLess : ¬ left < right) :
    right ≤ left := by
  by_cases ge : right ≤ left
  · exact ge
  · have le := (le_total leftDefined rightDefined).resolve_right ge
    exact absurd (lt_iff_le_not_ge.mpr ⟨le, ge⟩) notLess

end CardQuery.Binary64
