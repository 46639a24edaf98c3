import CardQuery.Number.Binary64
import CardQuery.Text.Digit

/-!
# Decimal texts of binary numbers

A binary number has three decimal texts here.  `fixed` has a given number of
places, rounded from the exact value with a half to the even neighbour.
`shortest` has the fewest digits that round back to the number, and of those the
nearest to it.  `plain` writes a whole number by all its digits and any other
number by its shortest text.
-/

namespace CardQuery.Binary64

/-- The digits of a number with a point before the last `places` of them. -/
def withPoint (places digits : Nat) : Text :=
  let written := Text.ofNat digits
  let padded := List.replicate (places + 1 - written.length) '0' ++ written
  let whole := padded.take (padded.length - places)
  if places = 0 then whole
  else whole ++ '.' :: padded.drop (padded.length - places)

/-- The finite number without its sign, counted in units of the last of the
given places. -/
def scaled (places : Nat) (number : Binary64) : Nat :=
  roundedQuotient (number.units.natAbs * Nat.pow 10 places) unitsPerOne

/-- The text before a number that tells its sign. -/
def sign (number : Binary64) : Text := if number.isNegative then "-" else ""

/-- The number with a fixed count of decimal places. -/
def fixed (places : Nat) (number : Binary64) : Text :=
  match number with
  | undefined => "nan"
  | infinite _ => number.sign ++ "inf"
  | _ => number.sign ++ withPoint places (number.scaled places)

/-- The number nearest to the number's text of a fixed count of decimal
places. -/
def roundTo (places : Nat) (number : Binary64) : Binary64 :=
  match number with
  | undefined => undefined
  | infinite negative => infinite negative
  | _ => ofDecimal number.isNegative (number.scaled places) (-places)

/-- The least exponent of ten whose power exceeds a positive fraction: it is
searched for from just below the estimate that the binary logarithm gives. -/
def decimalPoint (numerator denominator : Nat) : Int :=
  let estimate : Int :=
    ((numerator.log2 : Int) - denominator.log2) * 30103 / 100000 - 2
  let exceeds (exponent : Int) : Bool :=
    if 0 ≤ exponent then numerator < denominator * Nat.pow 10 exponent.toNat
    else numerator * Nat.pow 10 (-exponent).toNat < denominator
  match (List.range 6).find?
      fun step => exceeds (estimate + Int.ofNat step) with
  | some step => estimate + Int.ofNat step
  | none => estimate

/-- Decimal digits together with the place of the point before them: the number
`0.d₁d₂… * 10 ^ point`. -/
structure Digits where
  digits : Nat
  count : Nat
  point : Int

/-- The decimal numbers of `count` digits next to a positive count of units,
below and above. -/
def neighbours (units count : Nat) : List Digits :=
  let point := decimalPoint units unitsPerOne
  let exponent := point - count
  let lower :=
    if 0 ≤ exponent then units / (unitsPerOne * Nat.pow 10 exponent.toNat)
    else units * Nat.pow 10 (-exponent).toNat / unitsPerOne
  [⟨lower, count, point⟩, ⟨lower + 1, count, point⟩]

/-- The number nearest to decimal digits. -/
def ofDigits (written : Digits) : Binary64 :=
  ofDecimal false written.digits (written.point - written.count)

/-- The distance between decimal digits and a count of units, in units of their
last place. -/
def distance (units : Nat) (written : Digits) : Nat × Nat :=
  let exponent := written.point - written.count
  if 0 ≤ exponent then
    let scale := unitsPerOne * Nat.pow 10 exponent.toNat
    ((units : Int) - written.digits * scale |>.natAbs, scale)
  else
    let scale := Nat.pow 10 (-exponent).toNat
    ((units * scale : Int) - written.digits * unitsPerOne |>.natAbs,
     unitsPerOne)

/-- The shortest digits that round to a positive count of units: the nearest of
the fewest, and of two equally near ones the one with the even last digit.
Seventeen digits tell any two numbers apart, so digits are found for every
number; the last line is for counts that no number has. -/
def shortestDigits (units : Nat) : Digits :=
  let candidates := (List.range 17).findSome? fun count =>
    match (neighbours units (count + 1)).filter
        fun written => ofDigits written == finite units with
    | [] => none
    | [only] => some only
    | first :: second :: _ =>
        let low := (distance units first).1
        let high := (distance units second).1
        if low < high || (low == high && first.digits % 2 == 0) then some first
        else some second
  candidates.getD ⟨0, 1, 1⟩

/-- The digits without zeros at their end. -/
def significant (digits : Nat) : Text :=
  ((Text.ofNat digits).reverse.dropWhile (· == '0')).reverse

/-- Digits in positional notation from `10 ^ -4` to below `10 ^ 16`, and with an
exponent of at least two digits elsewhere. -/
def layout (digits : Text) (point : Int) : Text :=
  if -4 < point && point ≤ 16 then
    if point ≤ 0 then "0." ++ List.replicate (-point).toNat '0' ++ digits
    else if digits.length ≤ point.toNat then
      digits ++ List.replicate (point.toNat - digits.length) '0' ++ ".0"
    else digits.take point.toNat ++ '.' :: digits.drop point.toNat
  else
    let exponent := point - 1
    let mantissa :=
      match digits with
      | [] => []
      | [only] => [only]
      | first :: rest => first :: '.' :: rest
    let size := Text.ofNat exponent.natAbs
    mantissa ++ "e" ++ (if exponent < 0 then "-" else "+") ++
      List.replicate (2 - size.length) '0' ++ size

/-- The shortest text that reads back as the number. -/
def shortest (number : Binary64) : Text :=
  match number with
  | undefined => "nan"
  | infinite _ => number.sign ++ "inf"
  | negativeZero => "-0.0"
  | finite units =>
      if units = 0 then "0.0"
      else
        let written := shortestDigits units.natAbs
        let extra : Int := (Text.ofNat written.digits).length - written.count
        number.sign ++
          layout (significant written.digits) (written.point + extra)

/-- A whole number by all its digits, any other number by its shortest text. -/
def plain (number : Binary64) : Text :=
  match number.toInt? with
  | some whole => Text.ofInt whole
  | none => number.shortest

end CardQuery.Binary64
