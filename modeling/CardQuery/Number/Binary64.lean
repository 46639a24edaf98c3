/-!
# Binary numbers of double width

`Binary64` holds the numbers of the 64-bit binary format.  Every finite number
of the format is a whole multiple of `2 ^ -1074`, so a finite value is the
integer that counts these units, and its order is the order of integers.
Negative zero, the two infinities and the undefined value stand beside the
counted numbers.

An operation computes its exact result as a fraction and rounds once: to the
nearest number with 53 significant bits, to the one with an even last bit when
two are equally near, and to infinity beyond the largest finite number.
-/

namespace CardQuery

/-- A number of the 64-bit binary format. -/
inductive Binary64 where
  /-- The number `units * 2 ^ -1074`. -/
  | finite (units : Int)
  | negativeZero
  | infinite (negative : Bool)
  | undefined
deriving DecidableEq, Repr, Inhabited

namespace Binary64

def unitsPerOne : Nat := Nat.pow 2 1074

/-- The first count of units that lies beyond every finite number. -/
def unitsLimit : Nat := Nat.pow 2 2098

/-- The quotient rounded to the nearest whole number, a half to the even
neighbour. -/
def roundedQuotient (numerator denominator : Nat) : Nat :=
  let quotient := numerator / denominator
  let remainder := numerator % denominator
  if 2 * remainder < denominator then quotient
  else if denominator < 2 * remainder then quotient + 1
  else quotient + quotient % 2

/-- The spacing of the numbers of 53 significant bits around a count of
units. -/
def spacing (units : Nat) : Nat := Nat.pow 2 (units.log2 - 52)

/-- The number nearest to a fraction of units, with the given sign. -/
def nearest (negative : Bool) (numerator denominator : Nat) : Binary64 :=
  let step := spacing (numerator / denominator)
  let units := roundedQuotient numerator (denominator * step) * step
  if unitsLimit ≤ units then infinite negative
  else if negative then (if units = 0 then negativeZero else finite (-units))
  else finite units

/-- The counted units of a number; zero where none are counted. -/
def units : Binary64 → Int
  | finite units => units
  | _ => 0

def isNegative : Binary64 → Bool
  | finite units => units < 0
  | negativeZero => true
  | infinite negative => negative
  | undefined => false

def side : Binary64 → Int
  | infinite true => -1
  | infinite false => 1
  | _ => 0

/-- The order of numbers, in which the undefined value is comparable with
nothing and the two zeros are equal. -/
def le (left right : Binary64) : Bool :=
  left != undefined && right != undefined &&
    (left.side < right.side ||
      (left.side == right.side && left.units ≤ right.units))

instance : LE Binary64 := ⟨fun left right => left.le right = true⟩

instance : LT Binary64 :=
  ⟨fun left right => left.le right = true ∧ right.le left = false⟩

instance (left right : Binary64) : Decidable (left ≤ right) :=
  inferInstanceAs (Decidable (left.le right = true))

instance (left right : Binary64) : Decidable (left < right) :=
  inferInstanceAs (Decidable (left.le right = true ∧ right.le left = false))

/-- Whether the number is larger than a whole number. -/
def exceeds (number : Binary64) (whole : Int) : Bool :=
  match number with
  | undefined => false
  | infinite negative => !negative
  | number => whole * unitsPerOne < number.units

def larger (left right : Binary64) : Binary64 :=
  if left < right then right else left

def smaller (left right : Binary64) : Binary64 :=
  if right < left then right else left

/-- The number nearest to a whole number. -/
def ofInt (number : Int) : Binary64 :=
  nearest (number < 0) (number.natAbs * unitsPerOne) 1

/-- The number nearest to `digits * 10 ^ exponent`, with the given sign. -/
def ofDecimal (negative : Bool) (digits : Nat) (exponent : Int) : Binary64 :=
  if digits = 0 then nearest negative 0 1
  else if 310 < exponent then infinite negative
  else if exponent + digits.log2 < -1100 then nearest negative 0 1
  else if 0 ≤ exponent then
    nearest negative (digits * Nat.pow 10 exponent.toNat * unitsPerOne) 1
  else nearest negative (digits * unitsPerOne) (Nat.pow 10 (-exponent).toNat)

def neg : Binary64 → Binary64
  | finite units => if units = 0 then negativeZero else finite (-units)
  | negativeZero => finite 0
  | infinite negative => infinite !negative
  | undefined => undefined

instance : Neg Binary64 := ⟨neg⟩

/-- The sum; two opposite numbers sum to the positive zero. -/
def add : Binary64 → Binary64 → Binary64
  | undefined, _ => undefined
  | _, undefined => undefined
  | infinite left, infinite right =>
      if left == right then infinite left else undefined
  | infinite left, _ => infinite left
  | _, infinite right => infinite right
  | negativeZero, negativeZero => negativeZero
  | left, right =>
      let sum := left.units + right.units
      nearest (sum < 0) sum.natAbs 1

instance : Add Binary64 := ⟨add⟩

instance : Sub Binary64 := ⟨fun left right => left + -right⟩

/-- The product, whose sign is negative when exactly one factor's sign is. -/
def mul (left right : Binary64) : Binary64 :=
  let negative := left.isNegative != right.isNegative
  match left, right with
  | undefined, _ => undefined
  | _, undefined => undefined
  | infinite _, infinite _ => infinite negative
  | infinite _, other =>
      if other.units = 0 then undefined else infinite negative
  | other, infinite _ =>
      if other.units = 0 then undefined else infinite negative
  | left, right =>
      nearest negative (left.units.natAbs * right.units.natAbs) unitsPerOne

instance : Mul Binary64 := ⟨mul⟩

def divideBy (number : Binary64) (divisor : Nat) : Binary64 :=
  match number with
  | finite units => nearest (units < 0) units.natAbs divisor
  | other => other

/-- The numerator and denominator in lowest terms of a finite number without its
sign. -/
def fraction (number : Binary64) : Nat × Nat :=
  let divisor := Nat.gcd number.units.natAbs unitsPerOne
  (number.units.natAbs / divisor, unitsPerOne / divisor)

/-- A finite number from zero on, raised to a whole power. -/
def power (number : Binary64) (exponent : Nat) : Binary64 :=
  let (numerator, denominator) := number.fraction
  nearest false (Nat.pow numerator exponent * unitsPerOne)
    (Nat.pow denominator exponent)

/-- The whole part of the square root of a number, by halving the interval that
holds it. -/
def squareRootBetween (number : Nat) : (steps low high : Nat) → Nat
  | 0, low, _ => low
  | steps + 1, low, high =>
      let middle := (low + high) / 2
      if middle * middle ≤ number then
        squareRootBetween number steps middle high
      else squareRootBetween number steps low middle

def squareRoot (number : Nat) : Nat :=
  let bound := Nat.pow 2 (number.log2 / 2 + 1)
  squareRootBetween number (number.log2 / 2 + 1) 0 bound

/-- The size of a finite number, raised to the power one and a half: the root of
its cube.  A root that is not whole is moved half a unit up, which keeps it on
its side of every tie. -/
def finitePowerOneAndHalf (number : Binary64) : Binary64 :=
  let (numerator, denominator) := number.fraction
  let square := numerator * numerator * numerator * unitsPerOne * unitsPerOne
  let cube := denominator * denominator * denominator
  let root := squareRoot (square / cube)
  if root * root * cube = square then nearest false root 1
  else nearest false (2 * root + 1) 2

/-- The size of a number, raised to the power one and a half. -/
def powerOneAndHalf : Binary64 → Binary64
  | undefined => undefined
  | infinite _ => infinite false
  | number => number.finitePowerOneAndHalf

def toInt? : Binary64 → Option Int
  | finite units =>
      if units % unitsPerOne = 0 then some (units / unitsPerOne) else none
  | negativeZero => some 0
  | _ => none

theorem le_def {left right : Binary64} :
    left ≤ right ↔ left ≠ undefined ∧ right ≠ undefined ∧
      (left.side < right.side ∨
        left.side = right.side ∧ left.units ≤ right.units) := by
  change left.le right = true ↔ _
  simp [le, and_assoc]

theorem lt_iff_le_not_ge {left right : Binary64} :
    left < right ↔ left ≤ right ∧ ¬ right ≤ left := by
  change (left.le right = true ∧ right.le left = false) ↔
    (left.le right = true ∧ ¬ right.le left = true)
  simp

theorem le_refl {number : Binary64} (defined : number ≠ undefined) :
    number ≤ number := by
  simp [le_def, defined]

theorem le_trans {first second third : Binary64} (lower : first ≤ second)
    (upper : second ≤ third) : first ≤ third := by
  grind [le_def]

theorem le_total {left right : Binary64} (leftDefined : left ≠ undefined)
    (rightDefined : right ≠ undefined) : left ≤ right ∨ right ≤ left := by
  grind [le_def]

theorem larger_le_iff {left right bound : Binary64}
    (leftDefined : left ≠ undefined) (rightDefined : right ≠ undefined) :
    larger left right ≤ bound ↔ left ≤ bound ∧ right ≤ bound := by
  unfold larger
  grind [lt_iff_le_not_ge, le_trans, le_total]

theorem le_smaller_iff {left right bound : Binary64}
    (leftDefined : left ≠ undefined) (rightDefined : right ≠ undefined) :
    bound ≤ smaller left right ↔ bound ≤ left ∧ bound ≤ right := by
  unfold smaller
  grind [lt_iff_le_not_ge, le_trans, le_total]

end Binary64

end CardQuery
