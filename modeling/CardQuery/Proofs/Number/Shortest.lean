import CardQuery.Number.Decimal
import CardQuery.Proofs.Number.Rounding
import Mathlib.Tactic.NormNum

/-!
# Seventeen digits tell numbers apart

The decimal numbers of seventeen digits lie closer to each other than numbers of
53 significant bits do, so one of the two next to a number is rounded to it.
The search for the shortest digits of a number therefore always finds some that
read back as the number.
-/

namespace CardQuery.Binary64

private theorem unitsPerOne_pos : 0 < unitsPerOne := by decide +kernel

/-- One is counted by a power of two.  The exponent stands on its own, for the
power itself is too large to compute with. -/
theorem exists_unitsPerOne_eq : ∃ bits, bits = 1074 ∧ unitsPerOne = 2 ^ bits :=
  ⟨1074, rfl, by decide +kernel⟩

private theorem log2_unitsPerOne : unitsPerOne.log2 = 1074 := by decide +kernel

/-- The place of the point that the search starts from, for a count of units
with the given binary logarithm. -/
def pointEstimate (log : Nat) : Int := ((log : Int) - 1074) * 30103 / 100000 - 2

private theorem pointEstimate_le :
    ∀ log < 1127, unitsPerOne * 10 ^ (pointEstimate log - 1).toNat ≤
      2 ^ log * 10 ^ (1 - pointEstimate log).toNat := by
  decide +kernel

private theorem le_of_not_exceeds {units : Nat} {exponent : Int}
    (within : (if 0 ≤ exponent then
        decide (units < unitsPerOne * Nat.pow 10 exponent.toNat)
      else decide (units * Nat.pow 10 (-exponent).toNat < unitsPerOne)) =
        false) :
    unitsPerOne * 10 ^ exponent.toNat ≤ units * 10 ^ (-exponent).toNat := by
  split at within
  next positive =>
    have whole : (-exponent).toNat = 0 := by omega
    rw [whole, Nat.pow_zero, Nat.mul_one]
    exact Nat.le_of_not_lt (of_decide_eq_false within)
  next negative =>
    have whole : exponent.toNat = 0 := by omega
    rw [whole, Nat.pow_zero, Nat.mul_one]
    exact Nat.le_of_not_lt (of_decide_eq_false within)

private theorem exists_decimalPoint_eq (units : Nat) :
    ∃ step : Nat,
      decimalPoint units unitsPerOne = pointEstimate units.log2 + step ∧
        (step = 0 ∨ unitsPerOne *
            10 ^ (decimalPoint units unitsPerOne - 1).toNat ≤
          units * 10 ^ (1 - decimalPoint units unitsPerOne).toNat) := by
  unfold decimalPoint
  rw [log2_unitsPerOne]
  dsimp only
  split
  next step found =>
    refine ⟨step, rfl, ?_⟩
    cases step with
    | zero => exact Or.inl rfl
    | succ before =>
        right
        have notYet := (List.find?_range_eq_some.mp found).2.2 before
          (Nat.lt_succ_self before)
        rw [Bool.not_eq_true'] at notYet
        have within := le_of_not_exceeds notYet
        generalize ((units.log2 : Int) - 1074) * 30103 / 100000 - 2 =
          estimate at *
        have isBefore : estimate + Int.ofNat (before + 1) - 1 =
            estimate + Int.ofNat before := by
          simp only [Int.ofNat_eq_natCast]
          omega
        have isNegated : 1 - (estimate + Int.ofNat (before + 1)) =
            -(estimate + Int.ofNat before) := by
          simp only [Int.ofNat_eq_natCast]
          omega
        rw [isBefore, isNegated]
        exact within
  next => exact ⟨0, (add_zero _).symm, Or.inl rfl⟩

variable {units : Nat}

private theorem decimalPoint_le (positive : 0 < units)
    (small : units.log2 < 1127) :
    unitsPerOne * 10 ^ (decimalPoint units unitsPerOne - 1).toNat ≤
      units * 10 ^ (1 - decimalPoint units unitsPerOne).toNat := by
  obtain ⟨step, isStep, atOnce | within⟩ := exists_decimalPoint_eq units
  · rw [isStep, atOnce, Int.natCast_zero, add_zero]
    calc
      unitsPerOne * 10 ^ (pointEstimate units.log2 - 1).toNat ≤
          2 ^ units.log2 * 10 ^ (1 - pointEstimate units.log2).toNat :=
        pointEstimate_le units.log2 small
      _ ≤ units * 10 ^ (1 - pointEstimate units.log2).toNat :=
        Nat.mul_le_mul_right _ (Nat.log2_self_le positive.ne')
  · exact within

private theorem decimalPoint_bounds (positive : 0 < units)
    (small : units < 2 ^ 53 * unitsPerOne) (logs : units.log2 < 1127) :
    decimalPoint units unitsPerOne ≤ 16 ∧
      -326 ≤ decimalPoint units unitsPerOne := by
  constructor
  · by_contra large
    have within := decimalPoint_le positive logs
    have noFraction : (1 - decimalPoint units unitsPerOne).toNat = 0 := by
      omega
    rw [noFraction, Nat.pow_zero, Nat.mul_one] at within
    have power : 10 ^ 16 ≤ 10 ^ (decimalPoint units unitsPerOne - 1).toNat :=
      Nat.pow_le_pow_right (by decide) (by omega)
    have scaled := Nat.mul_le_mul_left unitsPerOne power
    omega
  · obtain ⟨step, isStep, _⟩ := exists_decimalPoint_eq units
    rw [isStep, pointEstimate]
    omega

private theorem le_scaled (positive : 0 < units)
    (small : units < 2 ^ 53 * unitsPerOne) (logs : units.log2 < 1127) :
    unitsPerOne * 10 ^ 16 ≤
      units * 10 ^ (17 - decimalPoint units unitsPerOne).toNat := by
  have within := decimalPoint_le positive logs
  obtain ⟨atMost, _⟩ := decimalPoint_bounds positive small logs
  generalize decimalPoint units unitsPerOne = point at *
  generalize unitsPerOne = ones at *
  rcases le_or_gt point 1 with isFraction | isWhole
  · have noWhole : (point - 1).toNat = 0 := by omega
    have places : (17 - point).toNat = (1 - point).toNat + 16 := by omega
    rw [noWhole, Nat.pow_zero, Nat.mul_one] at within
    rw [places, Nat.pow_add, ← Nat.mul_assoc]
    exact Nat.mul_le_mul_right _ within
  · have noFraction : (1 - point).toNat = 0 := by omega
    have places : (point - 1).toNat + (17 - point).toNat = 16 := by omega
    rw [noFraction, Nat.pow_zero, Nat.mul_one] at within
    rw [← places, Nat.pow_add, ← Nat.mul_assoc]
    exact Nat.mul_le_mul_right _ within

private theorem exists_near (scaled : Nat) {divisor : Nat}
    (positive : 0 < divisor) :
    ∃ count, (count = scaled / divisor ∨ count = scaled / divisor + 1) ∧
      2 * scaled ≤ 2 * (count * divisor) + divisor ∧
      2 * (count * divisor) ≤ 2 * scaled + divisor := by
  have split := Nat.div_add_mod' scaled divisor
  have small := Nat.mod_lt scaled positive
  rcases le_or_gt (2 * (scaled % divisor)) divisor with below | above
  · exact ⟨_, Or.inl rfl, by omega, by omega⟩
  · refine ⟨_, Or.inr rfl, ?_⟩
    rw [Nat.add_mul, Nat.one_mul]
    omega

private theorem lt_mul_spacing (units : Nat) : units < 2 ^ 53 * spacing units
    := by
  rw [spacing_eq, ← Nat.pow_add]
  exact Nat.lt_log2_self.trans_le (Nat.pow_le_pow_right (by decide) (by omega))

private theorem mul_spacing_le (positive : 0 < units) :
    2 ^ 52 * spacing units ≤ units + 2 ^ 52 := by
  rw [spacing_eq]
  rcases le_or_gt 52 units.log2 with large | small
  · rw [← Nat.pow_add, Nat.add_sub_cancel' large]
    exact (Nat.log2_self_le positive.ne').trans (Nat.le_add_right _ _)
  · rw [Nat.sub_eq_zero_of_le small.le]
    omega

private theorem spacing_of_near (spaced : spacing units ∣ units)
    (positive : 0 < units) {near : Nat}
    (notAbove : near < units + spacing units)
    (notBelow : units < near + 1 + spacing units) :
    spacing near ∣ units ∧ units < 10 ^ 16 * spacing near := by
  constructor
  · refine dvd_trans (spacing_dvd_spacing ?_) spaced
    have below : units < 2 ^ (units.log2 + 1) := Nat.lt_log2_self
    have next : units + spacing units ≤ 2 ^ (units.log2 + 1) := by
      have divides : spacing units ∣ 2 ^ (units.log2 + 1) - units := by
        apply Nat.dvd_sub _ spaced
        rw [spacing_eq]
        exact Nat.pow_dvd_pow 2 (by omega)
      have atMost := Nat.le_of_dvd (by omega) divides
      omega
    rcases Nat.eq_zero_or_pos near with rfl | nonzero
    · simp
    · exact Nat.le_of_lt_succ
        ((Nat.log2_lt nonzero.ne').mpr (notAbove.trans_le next))
  · have ofUnits := mul_spacing_le positive
    have ofNear := lt_mul_spacing near
    omega

private theorem roundedUnits_of_near (spaced : spacing units ∣ units)
    (positive : 0 < units) {count scale : Nat}
    (digits : unitsPerOne * 10 ^ 16 ≤ units * scale)
    (notBelow : 2 * (units * scale) ≤ 2 * (count * unitsPerOne) + unitsPerOne)
    (notAbove : 2 * (count * unitsPerOne) ≤
      2 * (units * scale) + unitsPerOne) :
    roundedUnits (count * unitsPerOne) scale = units := by
  have scalePositive : 0 < scale := by
    rcases Nat.eq_zero_or_pos scale with rfl | positive
    · have ones := unitsPerOne_pos
      omega
    · exact positive
  have finer {step : Nat} (less : units < 10 ^ 16 * step) :
      unitsPerOne < scale * step := by
    have scaled := Nat.mul_lt_mul_of_pos_right less scalePositive
    have same : 10 ^ 16 * step * scale = 10 ^ 16 * (scale * step) := by ring
    omega
  have fine : unitsPerOne < scale * spacing units := by
    have width := lt_mul_spacing units
    exact finer (by omega)
  have split := Nat.div_add_mod (count * unitsPerOne) scale
  have rest := Nat.mod_lt (count * unitsPerOne) scalePositive
  have next : count * unitsPerOne / scale < units + spacing units := by
    by_contra far
    have scaled := Nat.mul_le_mul_left scale (Nat.le_of_not_lt far)
    rw [Nat.mul_add, Nat.mul_comm scale units] at scaled
    omega
  have before : units <
      count * unitsPerOne / scale + 1 + spacing units := by
    by_contra far
    have scaled := Nat.mul_le_mul_left scale (Nat.le_of_not_lt far)
    rw [Nat.mul_add, Nat.mul_add, Nat.mul_one, Nat.mul_comm scale units]
      at scaled
    omega
  have near := spacing_of_near spaced positive next before
  have finest := finer near.2
  apply roundedUnits_eq near.1
  · omega
  · omega

private theorem ofDecimal_eq_nearest {digits : Nat} {exponent : Int}
    (nonzero : digits ≠ 0) (negative : exponent < 0)
    (held : -1100 ≤ exponent + digits.log2) :
    ofDecimal false digits exponent =
      nearest false (digits * unitsPerOne) (10 ^ (-exponent).toNat) := by
  rw [ofDecimal, if_neg nonzero, if_neg (by omega), if_neg (by omega),
    if_neg (by omega)]
  rfl

private theorem log2_lt_of_not_whole (spaced : spacing units ∣ units)
    (notWhole : ¬ unitsPerOne ∣ units) : units.log2 < 1126 := by
  by_contra large
  apply notWhole
  refine dvd_trans ?_ spaced
  obtain ⟨bits, count, isPower⟩ := exists_unitsPerOne_eq
  rw [spacing_eq, isPower]
  exact Nat.pow_dvd_pow 2 (by omega)

private theorem lt_of_log2_lt (small : units.log2 < 1126) :
    units < 2 ^ 53 * unitsPerOne := by
  obtain ⟨bits, count, isPower⟩ := exists_unitsPerOne_eq
  calc
    units < 2 ^ (units.log2 + 1) := Nat.lt_log2_self
    _ ≤ 2 ^ (53 + bits) := Nat.pow_le_pow_right (by decide) (by omega)
    _ = 2 ^ 53 * unitsPerOne := by rw [Nat.pow_add, isPower]

private theorem exists_mem_neighbours (positive : 0 < units)
    (spaced : spacing units ∣ units) (notWhole : ¬ unitsPerOne ∣ units) :
    ∃ written ∈ neighbours units 17, ofDigits written = finite units := by
  have logs := log2_lt_of_not_whole spaced notWhole
  have small := lt_of_log2_lt logs
  obtain ⟨atMost, atLeast⟩ := decimalPoint_bounds positive small (by omega)
  have held (count : Nat) :
      -1100 ≤ decimalPoint units unitsPerOne - (17 : Nat) + count.log2 := by
    omega
  have digits := le_scaled positive small (by omega)
  rw [neighbours]
  generalize decimalPoint units unitsPerOne = point at *
  have isNegative : ¬ 0 ≤ point - (17 : Nat) := by omega
  have places : (-(point - (17 : Nat))).toNat = (17 - point).toNat := by omega
  rw [if_neg isNegative, places]
  obtain ⟨count, isCount, notBelow, notAbove⟩ := exists_near
    (units * 10 ^ (17 - point).toNat) unitsPerOne_pos
  have rounded := roundedUnits_of_near spaced positive digits notBelow notAbove
  have nonzero : count ≠ 0 := by
    rintro rfl
    have ones := unitsPerOne_pos
    omega
  have limit : 2 ^ 53 * unitsPerOne ≤ unitsLimit := by decide +kernel
  have inside : ¬ unitsLimit ≤ units := Nat.not_le.mpr (small.trans_le limit)
  have isNumber : ofDigits ⟨count, 17, point⟩ = finite units := by
    rw [ofDigits]
    dsimp only
    rw [ofDecimal_eq_nearest nonzero (Int.not_le.mp isNegative) (held count),
      nearest_false, places, rounded, if_neg inside]
  refine ⟨⟨count, 17, point⟩, ?_, isNumber⟩
  rcases isCount with rfl | rfl
  · exact List.mem_cons_self
  · exact List.mem_cons_of_mem _ (List.mem_singleton_self _)

theorem ofDigits_shortestDigits (positive : 0 < units)
    (spaced : spacing units ∣ units) (notWhole : ¬ unitsPerOne ∣ units) :
    ofDigits (shortestDigits units) = finite units := by
  rw [shortestDigits]
  dsimp only
  generalize isSearch : (List.range 17).findSome? _ = search
  cases search with
  | none =>
      exfalso
      obtain ⟨written, isNeighbour, isNumber⟩ :=
        exists_mem_neighbours positive spaced notWhole
      have nothing := List.findSome?_eq_none_iff.mp isSearch 16 (by decide)
      have among : written ∈ (neighbours units (16 + 1)).filter
          fun written => ofDigits written == finite units :=
        List.mem_filter.mpr ⟨isNeighbour, by rw [isNumber, beq_self_eq_true]⟩
      split at nothing
      next none =>
        rw [none] at among
        cases among
      next => cases nothing
      next => split at nothing <;> cases nothing
  | some written =>
      obtain ⟨count, _, found⟩ := List.exists_of_findSome?_eq_some isSearch
      have among : written ∈ (neighbours units (count + 1)).filter
          fun written => ofDigits written == finite units := by
        split at found
        next => cases found
        next only isOnly =>
          cases found
          rw [isOnly]
          exact List.mem_singleton_self _
        next first second rest isFirst =>
          rw [isFirst]
          split at found <;> cases found
          · exact List.mem_cons_self
          · exact List.mem_cons_of_mem _ List.mem_cons_self
      exact beq_iff_eq.mp (List.mem_filter.mp among).2

end CardQuery.Binary64
