import CardQuery.Number.Numeral
import CardQuery.Text.Blank

/-!
# Numbers written by hand

Numbers in settings and in documents may be written as text.  A plus sign may
precede a number and single underscores may separate its digits; white space
around it does not count, except around a number that is not whole and has
underscores.  A whole number may end in a point and zeros and may begin with
zeros, among which underscores do not count; it is not read if it is too long.
Any other number may have an exponent and may be infinite or undefined.  Only
ASCII digits are read.
-/

namespace CardQuery.Lenient

/-- The text without underscores, if they only separate what it is made of: none
stands at an end and none beside another one. -/
def withoutUnderscores? (text : Text) : Option Text :=
  if text.head? == some '_' || text.getLast? == some '_' ||
      Text.includes text "__" then none
  else some (text.filter (· != '_'))

/-- The text up to a point that zeros and nothing else follow. -/
def withoutZeroPlaces (text : Text) : Text :=
  match text.dropWhile (· != '.') with
  | _ :: places =>
      if !places.isEmpty && places.all (· == '0') then text.takeWhile (· != '.')
      else text
  | [] => text

/-- Whether the character is a zero, or an underscore that may stand among
zeros. -/
def isPadding (character : Char) : Bool := character == '0' || character == '_'

/-- The text without the padding that begins with a zero; what is left begins
with another digit or a minus sign, or else with the last character of the
padding. -/
def withoutPadding? (text : Text) : Option Text :=
  match text with
  | [] => none
  | first :: rest =>
      if first = '0' then
        let last := (rest.takeWhile isPadding).getLast?.getD first
        match rest.dropWhile isPadding with
        | [] => some [last]
        | next :: later =>
            if next = '.' then some (last :: next :: later)
            else if next = '-' || next.isDigit then some (next :: later)
            else none
      else if first.isDigit then some text
      else none

/-- The number that one or more ASCII digits write. -/
def readDigits? (text : Text) : Option Nat :=
  if !text.isEmpty && text.all Char.isDigit then Text.digitsValue? text
  else none

/-- The number that ASCII digits write, the first of which is zero only if it is
the only one. -/
def readPlainDigits? (text : Text) : Option Nat :=
  if text.head? = some '0' && text != ['0'] then none else readDigits? text

/-- The whole number that a minus sign or nothing and then digits write. -/
def readPlainInt? : Text → Option Int
  | '-' :: digits => (readPlainDigits? digits).map fun size => -(size : Int)
  | digits => (readPlainDigits? digits).map fun size => (size : Int)

/-- How many characters of a whole number are read at most. -/
def longestInt : Nat := 4300

/-- Whether a sign and digits at the start of the text are too many to be
read. -/
def isTooLong : Text → Bool
  | '-' :: rest => longestInt ≤ (rest.takeWhile Char.isDigit).length
  | text => longestInt < (text.takeWhile Char.isDigit).length

/-- Why a text is not read as a whole number. -/
inductive IntError where
  | malformed
  | tooLong
deriving DecidableEq, Repr

/-- A whole number as it is written plainly: without white space, a plus sign,
padding, underscores and places. -/
def plainInt? (text : Text) : Option Text := do
  let (negative, body) := Numeral.readSign (Text.trim text)
  let digits ← withoutUnderscores? (withoutZeroPlaces (← withoutPadding? body))
  return if negative then '-' :: digits else digits

def readInt (text : Text) : Except IntError Int :=
  match plainInt? text with
  | none => .error .malformed
  | some plain =>
      if isTooLong plain then .error .tooLong
      else (readPlainInt? plain).elim (.error .malformed) .ok

/-- The value of an exponent with an optional sign. -/
def readExponent? (text : Text) : Option Int :=
  let (negative, body) := Numeral.readSign text
  (readDigits? body).map fun size => if negative then -(size : Int) else size

/-- The number that digits with an optional point and an optional exponent
write. -/
def readDecimal? (negative : Bool) (text : Text) : Option Binary64 := do
  let isMark (character : Char) := character == 'e' || character == 'E'
  let mantissa := text.takeWhile (!isMark ·)
  let exponent ←
    match text.dropWhile (!isMark ·) with
    | [] => some 0
    | _ :: written => readExponent? written
  let whole := mantissa.takeWhile (· != '.')
  let places := (mantissa.dropWhile (· != '.')).drop 1
  let digits ← readDigits? (whole ++ places)
  return .ofDecimal negative digits (exponent - places.length)

/-- The number that a text without white space and underscores writes. -/
def readPlain? (text : Text) : Option Binary64 :=
  let (negative, body) := Numeral.readSign text
  let name := body.map Char.toLower
  if name = "inf".toList ∨ name = "infinity".toList then
    some (.infinite negative)
  else if name = "nan".toList then some .undefined
  else readDecimal? negative body

/-- The number that a text writes. -/
def readNumber? (text : Text) : Option Binary64 :=
  (readPlain? (Text.trim text)).or ((withoutUnderscores? text).bind readPlain?)

end CardQuery.Lenient
