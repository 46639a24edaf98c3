import CardQuery.Proofs.Number.Numeral
import CardQuery.Proofs.Number.Shortest

/-!
# Texts of numbers that are numerals

The text of a number is a numeral unless it needs an exponent.  A whole number
needs none, and no other number is too large for positional notation.  A number
is too small for it below the one that is nearest to `0.0001`: the digits that
are found for it then write a decimal fraction below that bound, because
rounding keeps the order.
-/

namespace CardQuery

namespace Text

private theorem length_ofNat_bounds {number : Nat} (nonzero : number ≠ 0) :
    10 ^ ((ofNat number).length - 1) ≤ number ∧
      number < 10 ^ (ofNat number).length := by
  have nonempty : 0 < (ofNat number).length :=
    List.length_pos_iff.mpr (ofNat_ne_nil number)
  constructor
  · rcases Nat.eq_zero_or_pos ((ofNat number).length - 1) with zero | positive
    · rw [zero]
      omega
    · rw [← Nat.not_lt]
      intro below
      have fewer := (Nat.length_toDigits_le_iff (by decide) positive).mpr below
      rw [ofNat] at nonempty fewer
      omega
  · exact (Nat.length_toDigits_le_iff (by decide) nonempty).mp le_rfl

private theorem exists_ne_zero_mem_ofNat {number : Nat} (nonzero : number ≠ 0) :
    ∃ digit ∈ ofNat number, digit ≠ '0' := by
  induction number using Nat.strongRecOn with
  | ind number ih =>
      rw [ofNat, Nat.toDigits_eq_if (by decide)]
      split
      next small =>
        have digits : ∀ number < 10, number ≠ 0 →
            Nat.digitChar number ≠ '0' := by
          decide
        exact ⟨_, List.mem_singleton_self _, digits number small nonzero⟩
      next large =>
        obtain ⟨digit, member, differs⟩ :=
          ih (number / 10) (by omega) (by omega)
        exact ⟨digit, List.mem_append_left _ member, differs⟩

end Text

namespace Numeral

theorem HasShape.isDigit_or_mem {text : Text} (shape : HasShape text)
    {character : Char} (member : character ∈ text) :
    Text.isDigit character = true ∨ character ∈ ['.', '-', '+'] := by
  have ofBody {body : Text} (shape : IsUnsigned body)
      (member : character ∈ body) :
      Text.isDigit character = true ∨ character ∈ ['.', '-', '+'] := by
    cases shape with
    | whole _ digits => exact Or.inl (digits character member)
    | fraction digits _ decimals =>
        rcases List.mem_append.mp member with inWhole | inRest
        · exact Or.inl (digits character inWhole)
        · rcases List.mem_cons.mp inRest with rfl | inDecimals
          · exact Or.inr (by decide)
          · exact Or.inl (decimals character inDecimals)
  cases shape with
  | unsigned body => exact ofBody body member
  | negative body =>
      rcases List.mem_cons.mp member with rfl | inBody
      · exact Or.inr (by decide)
      · exact ofBody body inBody
  | positive body =>
      rcases List.mem_cons.mp member with rfl | inBody
      · exact Or.inr (by decide)
      · exact ofBody body inBody

end Numeral

namespace Binary64

private theorem mem_ofNat_of_mem_significant {digits : Nat} {character : Char}
    (member : character ∈ significant digits) :
    character ∈ Text.ofNat digits := by
  rw [significant, List.mem_reverse] at member
  exact List.mem_reverse.mp ((List.dropWhile_sublist _).subset member)

private theorem isDigit_of_mem_significant {digits : Nat} {character : Char}
    (member : character ∈ significant digits) :
    Text.isDigit character = true :=
  Text.isDigit_of_mem_ofNat (mem_ofNat_of_mem_significant member)

theorem significant_ne_nil {digits : Nat} (nonzero : digits ≠ 0) :
    significant digits ≠ [] := by
  rw [significant, ne_eq, List.reverse_eq_nil_iff, List.dropWhile_eq_nil_iff]
  intro zeros
  obtain ⟨digit, member, differs⟩ := Text.exists_ne_zero_mem_ofNat nonzero
  exact differs (by simpa using zeros digit (List.mem_reverse.mpr member))

private theorem hasShape_layout_iff {digits : Text} (nonempty : digits ≠ [])
    (areDigits : ∀ character ∈ digits, Text.isDigit character = true)
    (point : Int) :
    Numeral.HasShape (layout digits point) ↔ -4 < point ∧ point ≤ 16 := by
  have zeros (count : Nat) :
      ∀ character ∈ List.replicate count '0', Text.isDigit character = true := by
    intro character member
    rw [List.eq_of_mem_replicate member]
    decide
  unfold layout
  split
  next positional =>
    simp only [Bool.and_eq_true, decide_eq_true_eq] at positional
    refine iff_of_true (.unsigned ?_) positional
    split
    · refine @Numeral.IsUnsigned.fraction ['0'] _ (zeros 1)
        (by simp [nonempty]) ?_
      intro character member
      exact (List.mem_append.mp member).elim (zeros _ character)
        (areDigits character)
    · split
      · refine @Numeral.IsUnsigned.fraction _ ['0'] ?_ (by decide) (zeros 1)
        intro character member
        exact (List.mem_append.mp member).elim (areDigits character)
          (zeros _ character)
      · refine .fraction ?_ ?_ ?_
        · intro character member
          exact areDigits character (List.mem_of_mem_take member)
        · rw [ne_eq, List.drop_eq_nil_iff]
          assumption
        · intro character member
          exact areDigits character (List.mem_of_mem_drop member)
  next apart =>
    simp only [Bool.and_eq_true, decide_eq_true_eq] at apart
    refine iff_of_false ?_ apart
    intro shape
    have mark := @Numeral.HasShape.isDigit_or_mem _ shape 'e' (by simp)
    revert mark
    decide

private theorem roundedUnits_of_nearest {numerator denominator units : Nat}
    (found : nearest false numerator denominator = finite units) :
    roundedUnits numerator denominator = units := by
  rw [nearest_false] at found
  split at found
  · cases found
  · injection found with same
    exact Int.ofNat.inj same

private theorem roundedUnits_of_ofDecimal {digits units : Nat} {exponent : Int}
    (found : ofDecimal false digits exponent = finite units)
    (nonzero : units ≠ 0) :
    digits ≠ 0 ∧
      roundedUnits (digits * 10 ^ exponent.toNat * unitsPerOne)
        (10 ^ (-exponent).toNat) = units := by
  have noneLeft : nearest false 0 1 = finite 0 := by decide +kernel
  rw [ofDecimal] at found
  split_ifs at found with noDigits large tiny whole
  · rw [noneLeft] at found
    cases found
    exact absurd rfl nonzero
  · rw [noneLeft] at found
    cases found
    exact absurd rfl nonzero
  · refine ⟨noDigits, ?_⟩
    have noFraction : (-exponent).toNat = 0 := by omega
    rw [noFraction]
    exact roundedUnits_of_nearest found
  · refine ⟨noDigits, ?_⟩
    have noWhole : exponent.toNat = 0 := by omega
    rw [noWhole, Nat.pow_zero, Nat.mul_one]
    exact roundedUnits_of_nearest found

section Bounds

variable {digits low high : Nat}

private theorem pow_le_mul_pow (nonzero : digits ≠ 0)
    (place : low + 1 ≤ (Text.ofNat digits).length + high) :
    10 ^ low ≤ digits * 10 ^ high := by
  have nonempty : 0 < (Text.ofNat digits).length :=
    List.length_pos_iff.mpr (Text.ofNat_ne_nil digits)
  calc
    10 ^ low ≤ 10 ^ ((Text.ofNat digits).length - 1 + high) :=
      Nat.pow_le_pow_right (by decide) (by omega)
    _ = 10 ^ ((Text.ofNat digits).length - 1) * 10 ^ high := Nat.pow_add ..
    _ ≤ digits * 10 ^ high :=
      Nat.mul_le_mul_right _ (Text.length_ofNat_bounds nonzero).1

private theorem mul_pow_le_pow (nonzero : digits ≠ 0)
    (place : (Text.ofNat digits).length + high ≤ low) :
    digits * 10 ^ high ≤ 10 ^ low := by
  calc
    digits * 10 ^ high ≤ 10 ^ (Text.ofNat digits).length * 10 ^ high :=
      Nat.mul_le_mul_right _ (Text.length_ofNat_bounds nonzero).2.le
    _ = 10 ^ ((Text.ofNat digits).length + high) := (Nat.pow_add ..).symm
    _ ≤ 10 ^ low := Nat.pow_le_pow_right (by decide) place

end Bounds

/-- The least number above zero that is written without an exponent. -/
def leastPositional : Binary64 := ofDecimal false 1 (-4)

/-- How many units the least number that is written without an exponent has. -/
def leastUnits : Nat := roundedUnits unitsPerOne (10 ^ 4)

private theorem leastPositional_eq : leastPositional = finite leastUnits := by
  decide +kernel

private theorem place_leastUnits :
    -4 < (shortestDigits leastUnits).point +
        ((Text.ofNat (shortestDigits leastUnits).digits).length -
          (shortestDigits leastUnits).count : Int) := by
  decide +kernel

section Order

variable {digits units : Nat} {exponent : Int}
  (found : ofDecimal false digits exponent = finite units)
  (nonzero : units ≠ 0)

include found nonzero

private theorem le_leastUnits
    (place : exponent + (Text.ofNat digits).length ≤ -4) :
    units ≤ leastUnits := by
  obtain ⟨filled, isRounded⟩ := roundedUnits_of_ofDecimal found nonzero
  rw [← isRounded, leastUnits]
  apply roundedUnits_mono _ (Nat.pow_pos (by decide)) (Nat.pow_pos (by decide))
  have within : digits * 10 ^ (exponent.toNat + 4) ≤
      10 ^ (-exponent).toNat := mul_pow_le_pow filled (by omega)
  calc
    digits * 10 ^ exponent.toNat * unitsPerOne * 10 ^ 4 =
        unitsPerOne * (digits * 10 ^ (exponent.toNat + 4)) := by ring
    _ ≤ unitsPerOne * 10 ^ (-exponent).toNat := Nat.mul_le_mul_left _ within

private theorem leastUnits_le
    (place : -4 < exponent + (Text.ofNat digits).length) :
    leastUnits ≤ units := by
  obtain ⟨filled, isRounded⟩ := roundedUnits_of_ofDecimal found nonzero
  rw [← isRounded, leastUnits]
  apply roundedUnits_mono _ (Nat.pow_pos (by decide)) (Nat.pow_pos (by decide))
  have within : 10 ^ (-exponent).toNat ≤
      digits * 10 ^ (exponent.toNat + 4) := pow_le_mul_pow filled (by omega)
  calc
    unitsPerOne * 10 ^ (-exponent).toNat ≤
        unitsPerOne * (digits * 10 ^ (exponent.toNat + 4)) :=
      Nat.mul_le_mul_left _ within
    _ = digits * 10 ^ exponent.toNat * unitsPerOne * 10 ^ 4 := by ring

private theorem unitsPerOne_dvd
    (place : 16 < exponent + (Text.ofNat digits).length) :
    unitsPerOne ∣ units := by
  obtain ⟨filled, isRounded⟩ := roundedUnits_of_ofDecimal found nonzero
  have within : 10 ^ (16 + (-exponent).toNat) ≤ digits * 10 ^ exponent.toNat :=
    pow_le_mul_pow filled (by omega)
  rw [← isRounded]
  generalize digits * 10 ^ exponent.toNat = whole at *
  obtain ⟨bits, isBits, isPower⟩ := exists_unitsPerOne_eq
  have large : 2 ^ (53 + bits) ≤
      whole * unitsPerOne / 10 ^ (-exponent).toNat := by
    rw [Nat.le_div_iff_mul_le (Nat.pow_pos (by decide))]
    calc
      2 ^ (53 + bits) * 10 ^ (-exponent).toNat =
          2 ^ 53 * 10 ^ (-exponent).toNat * unitsPerOne := by
        rw [Nat.pow_add, isPower]
        ring
      _ ≤ 10 ^ 16 * 10 ^ (-exponent).toNat * unitsPerOne :=
        Nat.mul_le_mul_right _ (Nat.mul_le_mul_right _ (by decide))
      _ = 10 ^ (16 + (-exponent).toNat) * unitsPerOne := by rw [Nat.pow_add]
      _ ≤ whole * unitsPerOne := Nat.mul_le_mul_right _ within
  have positive : whole * unitsPerOne / 10 ^ (-exponent).toNat ≠ 0 := by
    have power := Nat.two_pow_pos (53 + bits)
    omega
  have logs := (Nat.le_log2 positive).mpr large
  have divides : 2 ^ bits ∣
      spacing (whole * unitsPerOne / 10 ^ (-exponent).toNat) := by
    rw [spacing_eq]
    exact Nat.pow_dvd_pow 2 (by omega)
  rw [← isPower] at divides
  exact divides.trans (Dvd.intro_left _ rfl)

end Order

private theorem hasShape_shortest_iff {units : Nat} (positive : 0 < units)
    (spaced : spacing units ∣ units) (notWhole : ¬ unitsPerOne ∣ units) :
    Numeral.HasShape (shortest (finite units)) ↔ leastUnits ≤ units := by
  have found := ofDigits_shortestDigits positive spaced notWhole
  have isText : shortest (finite units) =
      layout (significant (shortestDigits units).digits)
        ((shortestDigits units).point +
          ((Text.ofNat (shortestDigits units).digits).length -
            (shortestDigits units).count)) := by
    have someUnits : ¬ (units : Int) = 0 := by omega
    have notNegative : isNegative (finite units) = false := by
      simp [isNegative]
    simp only [shortest, if_neg someUnits, sign, notNegative,
      Int.natAbs_natCast, Bool.false_eq_true, if_false, String.toList_empty,
      List.nil_append]
  rw [isText]
  generalize isWritten : shortestDigits units = written at *
  obtain ⟨filled, _⟩ := roundedUnits_of_ofDecimal found positive.ne'
  rw [hasShape_layout_iff (significant_ne_nil filled)
    (fun _ => isDigit_of_mem_significant)]
  constructor
  · rintro ⟨place, _⟩
    exact leastUnits_le found positive.ne' (by omega)
  · intro atLeast
    constructor
    · by_contra small
      have atMost := le_leastUnits found positive.ne' (by omega)
      have isLeast : units = leastUnits := Nat.le_antisymm atMost atLeast
      rw [← isWritten, isLeast] at small
      exact small place_leastUnits
    · by_contra large
      exact notWhole (unitsPerOne_dvd found positive.ne' (by omega))

private theorem finite_le_finite_iff {left right : Int} :
    finite left ≤ finite right ↔ left ≤ right := by
  simp [le_def, side, Binary64.units]

/-- The number is written without an exponent: it is whole, or not too small
for that. -/
def IsPositional (number : Binary64) : Prop :=
  number.toInt?.isSome = true ∨
    leastPositional ≤ number ∧ number ≠ infinite false

instance (number : Binary64) : Decidable number.IsPositional :=
  inferInstanceAs (Decidable (_ ∨ _))

/-- The text of a number from zero on is a numeral exactly if it is written
without an exponent. -/
theorem hasShape_plain_iff {number : Binary64} (rounded : number.IsRounded)
    (fromZero : finite 0 ≤ number) :
    Numeral.HasShape number.plain ↔ number.IsPositional := by
  have ofWhole {whole : Int} (isWhole : number.toInt? = some whole)
      (fromZero : 0 ≤ whole) :
      Numeral.HasShape number.plain ↔ number.IsPositional := by
    obtain ⟨count, rfl⟩ := Int.eq_ofNat_of_zero_le fromZero
    have text : number.plain = Text.ofNat count := by
      rw [plain, isWhole]
      exact Text.ofInt_natCast count
    rw [text]
    exact iff_of_true
      (.unsigned (.whole (Text.ofNat_ne_nil count)
        fun _ => Text.isDigit_of_mem_ofNat))
      (Or.inl (by rw [isWhole]; rfl))
  cases number with
  | finite units =>
      have positive : 0 ≤ units := finite_le_finite_iff.mp fromZero
      by_cases whole : units % unitsPerOne = 0
      · have isWhole : toInt? (finite units) =
            some (units / unitsPerOne) := by
          rw [toInt?, if_pos whole]
        exact ofWhole isWhole
          (Int.ediv_nonneg positive (Int.natCast_nonneg _))
      · obtain ⟨count, rfl⟩ := Int.eq_ofNat_of_zero_le positive
        have noInt : toInt? (finite count) = none := by
          rw [toInt?, if_neg whole]
        have notWhole : ¬ unitsPerOne ∣ count := by
          intro divides
          exact whole (Int.emod_eq_zero_of_dvd
            (Int.natCast_dvd_natCast.mpr divides))
        have some : 0 < count := by
          rcases Nat.eq_zero_or_pos count with rfl | some
          · exact absurd (dvd_zero _) notWhole
          · exact some
        rw [plain, noInt, hasShape_shortest_iff some rounded notWhole,
          IsPositional, noInt, leastPositional_eq, finite_le_finite_iff,
          Int.ofNat_le]
        simp
  | negativeZero => exact ofWhole rfl le_rfl
  | infinite negative =>
      cases negative with
      | false =>
          apply iff_of_false
          · intro shape
            have mark := @Numeral.HasShape.isDigit_or_mem "inf" shape 'n'
              (by decide)
            revert mark
            decide
          · intro positional
            rcases positional with impossible | ⟨_, differs⟩
            · cases impossible
            · exact differs rfl
      | true => exact absurd fromZero (by decide)
  | undefined => exact absurd fromZero (by decide)

/-- Whether the character can stand in the text of a number. -/
def isMark (character : Char) : Bool :=
  "0123456789.+-aefin".toList.contains character

private theorem isMark_of_isDigit {character : Char}
    (digit : character.isDigit = true) : isMark character = true := by
  have bounds : character.toNat < 58 ∧ 48 ≤ character.toNat := by
    simp only [Char.isDigit, Bool.and_eq_true, decide_eq_true_eq,
      UInt32.le_iff_toNat_le] at digit
    exact ⟨Nat.lt_succ_of_le digit.2, digit.1⟩
  have digits : ∀ code < 58, 48 ≤ code → isMark (Char.ofNat code) = true := by
    decide
  rw [← Char.ofNat_toNat character]
  exact digits _ bounds.1 bounds.2

private theorem all_isMark_ofNat (number : Nat) :
    (Text.ofNat number).all isMark = true := by
  rw [List.all_eq_true]
  intro character member
  exact isMark_of_isDigit
    (Nat.isDigit_of_mem_toDigits (by decide) (by decide) member)

private theorem all_isMark_significant (digits : Nat) :
    (significant digits).all isMark = true := by
  rw [List.all_eq_true]
  intro character member
  exact List.all_eq_true.mp (all_isMark_ofNat digits) character
    (mem_ofNat_of_mem_significant member)

private theorem all_isMark_layout {digits : Text}
    (marks : digits.all isMark = true)
    (point : Int) : (layout digits point).all isMark = true := by
  have zeros (count : Nat) : (List.replicate count '0').all isMark = true := by
    rw [List.all_eq_true]
    intro character member
    rw [List.eq_of_mem_replicate member]
    decide
  have front : "0.".toList.all isMark = true := by decide
  have back : ".0".toList.all isMark = true := by decide
  have exponent : "e".toList.all isMark = true := by decide
  have minus : "-".toList.all isMark = true := by decide
  have plus : "+".toList.all isMark = true := by decide
  have isPoint : isMark '.' = true := by decide
  unfold layout
  split
  · split
    · simp only [List.all_append, front, zeros, marks, Bool.and_self]
    · split
      · simp only [List.all_append, back, zeros, marks, Bool.and_self]
      · rw [List.all_append, List.all_cons, isPoint, Bool.true_and,
          ← List.all_append, List.take_append_drop]
        exact marks
  · simp only [List.all_append, exponent, zeros, all_isMark_ofNat,
      Bool.and_true, Bool.and_eq_true]
    constructor
    · split
      · rfl
      · exact marks
      · rw [List.all_cons, Bool.and_eq_true] at marks
        rw [List.all_cons, List.all_cons, marks.1, isPoint, marks.2]
        rfl
    · split
      · exact minus
      · exact plus

theorem all_isMark_plain (number : Binary64) :
    number.plain.all isMark = true := by
  have sign (number : Binary64) : number.sign.all isMark = true := by
    rw [Binary64.sign]
    split <;> decide
  rw [plain]
  split
  next whole _ =>
    rw [Text.ofInt]
    split
    · rw [List.all_cons, all_isMark_ofNat]
      decide
    · exact all_isMark_ofNat _
  next =>
    unfold shortest
    split
    · decide
    · rw [List.all_append, sign]
      decide
    · decide
    · split
      · decide
      · simp only [List.all_append, sign, Bool.true_and,
          all_isMark_layout (all_isMark_significant _)]

end Binary64

end CardQuery
