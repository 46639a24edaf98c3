import CardQuery.Number.Binary64
import CardQuery.Text.Digit

/-!
# Numerals

A numeral is decimal digits with an optional sign and an optional point; digits
follow the point, and digits or nothing stand before it.  Its value is the
binary number nearest to it.  Reading keeps of the digits only what they count,
so every numeral has a value.
-/

namespace CardQuery

/-- A decimal numeral: its sign, the number that its digits write without the
point, and how many of the digits follow the point. -/
structure Numeral where
  negative : Bool
  digits : Nat
  fractionLength : Nat
deriving DecidableEq, Repr, Inhabited

namespace Numeral

/-- Whether the text is one or more decimal digits. -/
def isDigits (text : Text) : Bool := !text.isEmpty && text.all Text.isDigit

/-- The sign before a text, if any, as whether it is negative, and the text
after it. -/
def readSign : Text → Bool × Text
  | '-' :: rest => (true, rest)
  | '+' :: rest => (false, rest)
  | text => (false, text)

/-- Reads a numeral that is the whole text. -/
def read? (text : Text) : Option Numeral :=
  let (negative, body) := readSign text
  let whole := body.takeWhile Text.isDigit
  match body.dropWhile Text.isDigit with
  | [] =>
      if whole.isEmpty then none
      else (Text.digitsValue? whole).map fun digits => ⟨negative, digits, 0⟩
  | point :: fraction =>
      if point = '.' && isDigits fraction then
        (Text.digitsValue? (whole ++ fraction)).map fun digits =>
          ⟨negative, digits, fraction.length⟩
      else none

def value (numeral : Numeral) : Binary64 :=
  Binary64.ofDecimal numeral.negative numeral.digits (-numeral.fractionLength)

end Numeral

end CardQuery
