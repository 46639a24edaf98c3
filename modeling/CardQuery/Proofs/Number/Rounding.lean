import CardQuery.Number.Binary64
import Mathlib.Tactic.Ring
import Mathlib.Tactic.Linarith
import Mathlib.Algebra.Order.Ring.Nat

/-!
# Rounding to binary numbers

A fraction is rounded to a multiple of the spacing of the numbers around it.
Rounding keeps the order of fractions, also across the places where the spacing
doubles, and leaves every number where it is that is a multiple of the spacing
and nearer than half of it.
-/

namespace CardQuery.Binary64

private theorem roundedQuotient_mul_right {factor : Nat} (positive : 0 < factor)
    (numerator denominator : Nat) :
    roundedQuotient (numerator * factor) (denominator * factor) =
      roundedQuotient numerator denominator := by
  have doubled (number : Nat) :
      2 * (number * factor) = 2 * number * factor := by
    ring
  simp only [roundedQuotient, Nat.mul_div_mul_right _ _ positive,
    Nat.mul_mod_mul_right, doubled, Nat.mul_lt_mul_right positive]

private theorem roundedQuotient_bounds {denominator : Nat}
    (positive : 0 < denominator)
    (numerator : Nat) :
    2 * numerator ≤
        (2 * roundedQuotient numerator denominator + 1) * denominator ∧
      2 * roundedQuotient numerator denominator * denominator ≤
        2 * numerator + denominator := by
  have split := Nat.div_add_mod numerator denominator
  have small := Nat.mod_lt numerator positive
  have parity := Nat.mod_two_eq_zero_or_one (numerator / denominator)
  rw [roundedQuotient]
  generalize numerator / denominator = quotient at *
  generalize numerator % denominator = remainder at *
  split_ifs with below above
  · constructor <;> nlinarith
  · constructor <;> nlinarith
  · have half : 2 * remainder = denominator := by omega
    rcases parity with even | odd
    · rw [even]
      constructor <;> nlinarith
    · rw [odd]
      constructor <;> nlinarith

private theorem roundedQuotient_mono_left {left right : Nat} (le : left ≤ right)
    (denominator : Nat) :
    roundedQuotient left denominator ≤ roundedQuotient right denominator := by
  have quotients : left / denominator ≤ right / denominator :=
    Nat.div_le_div_right le
  have ofLeft := Nat.div_add_mod left denominator
  have ofRight := Nat.div_add_mod right denominator
  rcases Nat.eq_or_lt_of_le quotients with same | less
  · have remainders : left % denominator ≤ right % denominator := by
      rw [same] at ofLeft
      omega
    unfold roundedQuotient
    rw [same]
    dsimp only
    split_ifs <;> omega
  · unfold roundedQuotient
    dsimp only
    split_ifs <;> omega

private theorem roundedQuotient_mono {left right below beneath : Nat}
    (le : left * beneath ≤ right * below) (positive : 0 < below)
    (alsoPositive : 0 < beneath) :
    roundedQuotient left below ≤ roundedQuotient right beneath := by
  calc
    roundedQuotient left below =
        roundedQuotient (left * beneath) (below * beneath) :=
      (roundedQuotient_mul_right alsoPositive _ _).symm
    _ ≤ roundedQuotient (right * below) (below * beneath) :=
      roundedQuotient_mono_left le _
    _ = roundedQuotient (right * below) (beneath * below) := by
      rw [Nat.mul_comm below]
    _ = roundedQuotient right beneath :=
      roundedQuotient_mul_right positive _ _

private theorem roundedQuotient_mul {denominator : Nat}
    (positive : 0 < denominator)
    (whole : Nat) : roundedQuotient (whole * denominator) denominator = whole := by
  simp [roundedQuotient, Nat.mul_div_cancel _ positive, positive]

private theorem roundedQuotient_eq {numerator denominator whole : Nat}
    (notAbove : 2 * (whole * denominator) < 2 * numerator + denominator)
    (notBelow : 2 * numerator < 2 * (whole * denominator) + denominator) :
    roundedQuotient numerator denominator = whole := by
  have positive : 0 < denominator := by
    rcases Nat.eq_zero_or_pos denominator with rfl | positive
    · omega
    · exact positive
  obtain ⟨lower, upper⟩ := roundedQuotient_bounds positive numerator
  apply Nat.le_antisymm
  · by_contra above
    nlinarith
  · by_contra below
    nlinarith

/-- The count of units that a fraction of units is rounded to. -/
def roundedUnits (numerator denominator : Nat) : Nat :=
  roundedQuotient numerator
      (denominator * spacing (numerator / denominator)) *
    spacing (numerator / denominator)

private theorem nearest_eq (negative : Bool) (numerator denominator : Nat) :
    nearest negative numerator denominator =
      if unitsLimit ≤ roundedUnits numerator denominator then infinite negative
      else if negative then
        if roundedUnits numerator denominator = 0 then negativeZero
        else finite (-roundedUnits numerator denominator)
      else finite (roundedUnits numerator denominator) := rfl

theorem nearest_false (numerator denominator : Nat) :
    nearest false numerator denominator =
      if unitsLimit ≤ roundedUnits numerator denominator then infinite false
      else finite (roundedUnits numerator denominator) := by
  rw [nearest_eq, if_neg Bool.false_ne_true]

theorem spacing_eq (units : Nat) : spacing units = 2 ^ (units.log2 - 52) := rfl

private theorem spacing_pos (units : Nat) : 0 < spacing units :=
  Nat.two_pow_pos _

theorem spacing_dvd_spacing {left right : Nat}
    (le : left.log2 ≤ right.log2) : spacing left ∣ spacing right := by
  rw [spacing_eq, spacing_eq]
  exact Nat.pow_dvd_pow 2 (Nat.sub_le_sub_right le 52)

variable {numerator denominator units : Nat}

private theorem roundedQuotient_of_spaced {step : Nat}
    (positive : 0 < denominator * step) (spaced : step ∣ units) :
    roundedQuotient (units * denominator) (denominator * step) * step =
      units := by
  obtain ⟨count, rfl⟩ := spaced
  have scaled : step * count * denominator = count * (denominator * step) := by
    ring
  rw [scaled, roundedQuotient_mul positive, Nat.mul_comm]

private theorem scaled_pos (positive : 0 < denominator) :
    0 < denominator * spacing (numerator / denominator) :=
  Nat.mul_pos positive (spacing_pos _)

private theorem roundedUnits_le (positive : 0 < denominator)
    (spaced : spacing (numerator / denominator) ∣ units)
    (le : numerator ≤ units * denominator) :
    roundedUnits numerator denominator ≤ units := by
  rw [← roundedQuotient_of_spaced (scaled_pos positive) spaced]
  exact Nat.mul_le_mul_right _ (roundedQuotient_mono_left le _)

private theorem le_roundedUnits (positive : 0 < denominator)
    (spaced : spacing (numerator / denominator) ∣ units)
    (le : units * denominator ≤ numerator) :
    units ≤ roundedUnits numerator denominator := by
  rw [← roundedQuotient_of_spaced (scaled_pos positive) spaced]
  exact Nat.mul_le_mul_right _ (roundedQuotient_mono_left le _)

/-- A multiple of the spacing is what is rounded to from nearer than half the
spacing. -/
theorem roundedUnits_eq
    (spaced : spacing (numerator / denominator) ∣ units)
    (notAbove : 2 * (units * denominator) <
      2 * numerator + denominator * spacing (numerator / denominator))
    (notBelow : 2 * numerator <
      2 * (units * denominator) +
        denominator * spacing (numerator / denominator)) :
    roundedUnits numerator denominator = units := by
  obtain ⟨count, rfl⟩ := spaced
  rw [roundedUnits, Nat.mul_comm (spacing (numerator / denominator)) count]
  apply congrArg (· * spacing (numerator / denominator))
  apply roundedQuotient_eq <;> linarith

private theorem log2_mono {left right : Nat} (le : left ≤ right) :
    left.log2 ≤ right.log2 := by
  rcases Nat.eq_zero_or_pos left with rfl | positive
  · simp
  · rw [Nat.le_log2 (by omega)]
    exact (Nat.log2_self_le (by omega)).trans le

theorem roundedUnits_mono {left right below beneath : Nat}
    (le : left * beneath ≤ right * below) (positive : 0 < below)
    (alsoPositive : 0 < beneath) :
    roundedUnits left below ≤ roundedUnits right beneath := by
  have quotients : left / below ≤ right / beneath := by
    rw [Nat.le_div_iff_mul_le alsoPositive]
    apply Nat.le_of_mul_le_mul_right _ positive
    calc
      left / below * beneath * below = left / below * below * beneath := by ring
      _ ≤ left * beneath :=
        Nat.mul_le_mul_right _ (Nat.div_mul_le_self left below)
      _ ≤ right * below := le
  by_cases same : spacing (left / below) = spacing (right / beneath)
  · rw [roundedUnits, roundedUnits, same]
    apply Nat.mul_le_mul_right
    have step := spacing_pos (right / beneath)
    apply roundedQuotient_mono _ (Nat.mul_pos positive step)
      (Nat.mul_pos alsoPositive step)
    calc
      left * (beneath * spacing (right / beneath)) =
          left * beneath * spacing (right / beneath) := by ring
      _ ≤ right * below * spacing (right / beneath) :=
        Nat.mul_le_mul_right _ le
      _ = right * (below * spacing (right / beneath)) := by ring
  · have less : (left / below).log2 + 1 ≤ (right / beneath).log2 ∧
        52 < (right / beneath).log2 := by
      have logs := log2_mono quotients
      simp only [spacing_eq] at same
      by_contra equal
      exact same (congrArg (2 ^ ·) (by omega))
    have between : ∀ number ≤ right / beneath,
        spacing number ∣ 2 ^ (right / beneath).log2 := by
      intro number le
      rw [spacing_eq]
      exact Nat.pow_dvd_pow 2 ((Nat.sub_le _ _).trans (log2_mono le))
    have nonzero : right / beneath ≠ 0 := by
      intro zero
      rw [zero] at less
      simp at less
    calc
      roundedUnits left below ≤ 2 ^ (right / beneath).log2 := by
        apply roundedUnits_le positive (between _ quotients)
        apply Nat.le_of_lt
        apply (Nat.div_lt_iff_lt_mul positive).mp
        exact Nat.lt_log2_self.trans_le
          (Nat.pow_le_pow_right (by decide) less.1)
      _ ≤ roundedUnits right beneath := by
        apply le_roundedUnits alsoPositive (between _ le_rfl)
        apply (Nat.le_div_iff_mul_le alsoPositive).mp
        exact Nat.log2_self_le nonzero

/-- The number is one that rounding can give: it has no more significant bits
than the spacing leaves it. -/
def IsRounded (number : Binary64) : Prop :=
  spacing number.units.natAbs ∣ number.units.natAbs

instance (number : Binary64) : Decidable number.IsRounded :=
  inferInstanceAs (Decidable (_ ∣ _))

private theorem spacing_roundedUnits_dvd (positive : 0 < denominator) :
    spacing (roundedUnits numerator denominator) ∣
      roundedUnits numerator denominator := by
  have power : roundedUnits numerator denominator ≤
      2 ^ ((numerator / denominator).log2 + 1) := by
    apply roundedUnits_le positive
    · rw [spacing_eq]
      exact Nat.pow_dvd_pow 2 (by omega)
    · apply Nat.le_of_lt
      exact (Nat.div_lt_iff_lt_mul positive).mp Nat.lt_log2_self
  rcases Nat.eq_or_lt_of_le power with isPower | below
  · rw [isPower, spacing_eq, Nat.log2_two_pow]
    exact Nat.pow_dvd_pow 2 (by omega)
  · have spaced : spacing (numerator / denominator) ∣
        roundedUnits numerator denominator := Dvd.intro_left _ rfl
    refine dvd_trans (spacing_dvd_spacing ?_) spaced
    rcases Nat.eq_zero_or_pos (roundedUnits numerator denominator) with
      zero | nonzero
    · simp [zero]
    · exact Nat.le_of_lt_succ ((Nat.log2_lt nonzero.ne').mpr below)

private theorem isRounded_nearest (positive : 0 < denominator)
    (negative : Bool) :
    (nearest negative numerator denominator).IsRounded := by
  have spaced := @spacing_roundedUnits_dvd numerator denominator positive
  rw [nearest_eq]
  split_ifs
  · exact dvd_zero _
  · exact dvd_zero _
  · simpa [IsRounded, Binary64.units] using spaced
  · simpa [IsRounded, Binary64.units] using spaced

theorem isRounded_ofDecimal (negative : Bool) (digits : Nat) (exponent : Int) :
    (ofDecimal negative digits exponent).IsRounded := by
  rw [ofDecimal]
  split_ifs
  · exact isRounded_nearest Nat.one_pos negative
  · exact dvd_zero _
  · exact isRounded_nearest Nat.one_pos negative
  · exact isRounded_nearest Nat.one_pos negative
  · exact isRounded_nearest (Nat.pow_pos (by decide)) negative

end CardQuery.Binary64
