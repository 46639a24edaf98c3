import CardQuery.Number.Lenient

/-!
# Whole numbers

A run of decimal digits of any script is read as a number, unless it is too long
to be read.  A whole number in an argument may have a sign, white space around
it and single underscores in it.
-/

namespace CardQuery

inductive NumberError where
  | tooLong (digits : Nat)
  | notDecimal (text : Text)
deriving DecidableEq, Repr

def NumberError.message : NumberError → Text
  | tooLong digits =>
      "a number of " ++ Text.ofNat digits ++ " digits is not read"
  | notDecimal text => "no decimal number: '" ++ text ++ "'"

/-- How many digits are read as a number at most. -/
def longestNumber : Nat := 4300

/-- The number that decimal digits write, if they are not too many. -/
def readNumber (text : Text) : Except NumberError Nat :=
  let digits := (text.takeWhile Text.isDigit).length
  if longestNumber < digits then .error (.tooLong digits)
  else (Text.digitsValue? text).elim (.error (.notDecimal text)) .ok

def readArgument? (argument : Text) : Option Int :=
  let (negative, body) := Numeral.readSign (Text.trim argument)
  match Lenient.withoutUnderscores? body with
  | none | some [] => none
  | some digits =>
      match readNumber digits with
      | .ok size => some (if negative then -(size : Int) else size)
      | .error _ => none

end CardQuery
