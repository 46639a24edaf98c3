import CardQuery.Number.Numeral
import CardQuery.Operator.Spelling
import CardQuery.Operator.Vocabulary
import CardQuery.Search.Finding

/-!
# Grammars of values

A grammar says which values an operator takes and behind which signs.  A sign is
a comparison as it is written, and no sign stands for the colon; a grammar that
refuses signs refuses any other text in their place as well.  Checking a value
gives issues without a place; whoever knows the condition that holds the value
turns them into findings.

A grammar that describes the shape of a value describes one line: a line feed at
the very end of the value does not count.  Letters are compared in small letters
where a grammar ignores case.
-/

namespace CardQuery

structure Issue where
  code : Code
  message : Text
  corrections : List Text
deriving DecidableEq, Repr, Inhabited

structure ValueCheck where
  errors : List Issue
  warnings : List Issue
deriving DecidableEq, Repr, Inhabited

namespace ValueCheck

def clean : ValueCheck := ⟨[], []⟩

def isClean (check : ValueCheck) : Bool := check.errors.isEmpty

/-- A value refused for one reason. -/
def refused (code : Code) (message : Text) (corrections : List Text) :
    ValueCheck :=
  ⟨[⟨code, message, corrections⟩], []⟩

/-- A value accepted with one warning. -/
def doubtful (code : Code) (message : Text) : ValueCheck :=
  ⟨[], [⟨code, message, []⟩]⟩

/-- The check if a condition on the value holds, and refusal for one reason
otherwise. -/
def require (holds : Bool) (code : Code) (message : Text) : ValueCheck :=
  if holds then clean else refused code message []

end ValueCheck

inductive Grammar where
  | text
  | color
  | manaCost
  | number (operator : Text)
  | powerToughness
  | loyalty
  | setCode
  | collectorNumber
  | rarity
  | format
  | choice (name : Text) (values : List Text)
  | year
deriving DecidableEq, Repr, Inhabited

namespace Grammar

def name : Grammar → Text
  | text => "string"
  | color => "color"
  | manaCost => "mana_cost"
  | number _ => "number"
  | powerToughness => "power_toughness"
  | loyalty => "loyalty"
  | setCode => "set_code"
  | collectorNumber => "collector_number"
  | rarity => "rarity"
  | format => "format"
  | choice _ _ => "enum"
  | year => "year"

/-- The value without a line feed at its end. -/
def line (value : Text) : Text :=
  if value.getLast? = some '\n' then value.dropLast else value

/-- A list of corrections as the end of a message. -/
def didYouMean (corrections : List Text) : Text :=
  if corrections.isEmpty then ""
  else ". Did you mean: " ++ Text.join ", " corrections ++ "?"

/-- The issue of a sign that values of a kind do not have. -/
def comparisonNotAllowed (kind sign : Text) : Issue :=
  ⟨.comparisonNotAllowed,
    "Comparison '" ++ sign ++ "' is not allowed for " ++ kind ++
      " values; use ':' or a leading '-'", []⟩

/-- The issue of an inequality between values of a kind that has none. -/
def refuseInequality (kind : Text) (sign : Option Text) : List Issue :=
  if sign = some Comparison.ne.symbol then
    [comparisonNotAllowed kind Comparison.ne.symbol]
  else []

/-- The issue of any sign but equality between values of a kind. -/
def refuseAllButEquality (kind : Text) (sign : Option Text) : List Issue :=
  match sign with
  | none => []
  | some sign =>
      if sign = Comparison.eq.symbol then []
      else [comparisonNotAllowed kind sign]

/-- How long a text may be before it is slow to search for. -/
def longestText : Nat := 500

/-- Any text. -/
def checkText (value : Text) (sign : Option Text) : ValueCheck :=
  ⟨refuseInequality "text" sign,
    if longestText < value.length then
      [⟨.longValue,
        "Value is very long (" ++ Text.ofNat value.length ++
          " characters) and may be slow to search",
        []⟩]
    else []⟩

/-- Color letters, `c`, `m` or the name of a color or of a group of colors. -/
def checkColor (value : Text) : ValueCheck :=
  let lowered := Text.lower value
  if Vocabulary.colorNames.contains lowered || lowered == ['c'] ||
      lowered == ['m'] then .clean
  else if lowered.isEmpty || !lowered.all Vocabulary.colorLetters.contains then
    let corrections := Spelling.corrections lowered Vocabulary.colorNames
    .refused .invalidColor
      ("Invalid color value '" ++ value ++
        "'. Use color letters (w, u, b, r, g), c, m, or a color name" ++
        didYouMean corrections)
      corrections
  else if lowered.Nodup then .clean
  else
    .doubtful .duplicateColor ("Color value '" ++ value ++ "' repeats a color")

def isManaLetter (character : Char) : Bool :=
  character.isDigit || "wubrgcxyzs".toList.contains character

/-- Whether the character may stand in a mana symbol between braces. -/
def isBracedMana (character : Char) : Bool :=
  isManaLetter character || character == 'p' || character == '/'

/-- Whether the text completes a mana cost.  `braced` tells whether it starts
between braces, and then whether a character stands after the opening one. -/
def completesMana : (braced : Option Bool) → Text → Bool
  | braced, [] => braced.isNone
  | none, first :: rest =>
      if first = '{' then completesMana (some false) rest
      else isManaLetter first && completesMana none rest
  | some filled, first :: rest =>
      if first = '}' then filled && completesMana none rest
      else isBracedMana first && completesMana (some true) rest

def isManaCost (text : Text) : Bool := !text.isEmpty && completesMana none text

/-- Mana symbols, each a letter, a digit or a group in braces. -/
def checkManaCost (value : Text) : ValueCheck :=
  .require (isManaCost (line (Text.lower value))) .invalidManaCost
    ("Invalid mana cost '" ++ value ++
      "'. Use symbols like 2WW or \x7b2\x7d\x7bW\x7d\x7bW\x7d")

def isStatName (value : Text) : Bool :=
  Vocabulary.statNames.contains (Text.lower value)

/-- A number, with a warning where it is not usual for the operator. -/
def checkNumber (operator value : Text) : ValueCheck :=
  if isStatName value then .clean
  else
    match Numeral.read? (line value) with
    | none =>
        .refused .invalidNumber
          ("Invalid number '" ++ value ++ "' for " ++ operator) []
    | some numeral =>
        match Vocabulary.usualRanges.lookup operator with
        | none => .clean
        | some (low, high) =>
            if Binary64.ofInt low ≤ numeral.value ∧
                numeral.value ≤ Binary64.ofInt high then .clean
            else
              .doubtful .unusualRange
                ("Value " ++ value ++ " for " ++ operator ++
                  " is outside the usual range " ++
                  Text.ofInt low ++ ".." ++ Text.ofInt high)

/-- Whether the text is `*`, `x` or a whole number with an optional sign and an
optional half. -/
def isPowerToughness (text : Text) : Bool :=
  let body := (Numeral.readSign text).2
  let fraction := body.dropWhile Text.isDigit
  text == ['*'] || text == ['x'] || text == ['X'] ||
    (!(body.takeWhile Text.isDigit).isEmpty &&
      (fraction.isEmpty || fraction == ".5".toList))

def checkPowerToughness (value : Text) : ValueCheck :=
  .require (isStatName value || isPowerToughness (line value))
    .invalidPowerToughness
    ("Invalid power/toughness '" ++ value ++ "'. Use a number, * or X")

def checkLoyalty (value : Text) : ValueCheck :=
  .require
    (line value == ['x'] || line value == ['X'] ||
      Numeral.isDigits (line value))
    .invalidLoyalty
    ("Invalid loyalty '" ++ value ++ "'. Use a non-negative number or X")

/-- Whether the text is two to five small letters or digits. -/
def isSetCode (text : Text) : Bool :=
  2 ≤ text.length && text.length ≤ 5 && text.all fun character =>
    character.isLower || character.isDigit

def checkSetCode (value : Text) (sign : Option Text) : ValueCheck :=
  ⟨refuseInequality "set" sign ++
    (ValueCheck.require (isSetCode (line (Text.lower value))) .invalidSetCode
      ("Invalid set code '" ++ value ++
        "'. Set codes are 2-5 letters or digits")).errors, []⟩

/-- Whether the text is one or more letters, digits, stars and hyphens. -/
def isCollectorNumber (text : Text) : Bool :=
  !text.isEmpty && text.all fun character =>
    character.isAlphanum || character == '★' || character == '*' ||
      character == '-'

def checkCollectorNumber (value : Text) : ValueCheck :=
  .require (isCollectorNumber (line value)) .invalidNumber
    ("Invalid collector number '" ++ value ++ "'")

def checkRarity (value : Text) : ValueCheck :=
  let lowered := Text.lower value
  if Vocabulary.rarities.contains lowered ||
      Vocabulary.rarityLetters.contains lowered then .clean
  else
    .refused .invalidRarity
      ("Invalid rarity '" ++ value ++ "'. Valid rarities: " ++
        Text.join ", " Vocabulary.rarities)
      (Spelling.corrections lowered Vocabulary.rarities)

/-- One of the given words, in letters of either case; a word that is none of
them is refused with the given message. -/
def checkWord (words : List Text) (code : Code) (value message : Text) :
    List Issue :=
  let lowered := Text.lower value
  if words.contains lowered then []
  else
    let corrections := Spelling.corrections lowered words
    [⟨code, message ++ didYouMean corrections, corrections⟩]

def checkFormat (value : Text) (sign : Option Text) : ValueCheck :=
  ⟨refuseAllButEquality "format" sign ++
    checkWord Vocabulary.formats .invalidFormat value
      ("Invalid format '" ++ value ++ "'"), []⟩

def checkChoice (name : Text) (values : List Text) (value : Text)
    (sign : Option Text) : ValueCheck :=
  ⟨refuseAllButEquality name sign ++
    checkWord values .invalidChoice value
      ("Invalid value '" ++ value ++ "' for operator '" ++ name ++ "'"), []⟩

def readYear? (text : Text) : Option Nat :=
  if text.length = 4 then Text.digitsValue? text else none

/-- A year, with a warning where no card was printed. -/
def checkYear (value : Text) : ValueCheck :=
  match readYear? (line value) with
  | none =>
      .refused .invalidYear ("Invalid year '" ++ value ++ "'. Use YYYY") []
  | some printed =>
      if 1993 ≤ printed ∧ printed ≤ 2100 then .clean
      else
        .doubtful .unusualRange
          ("Year " ++ value ++ " is outside Magic's history")

def check (grammar : Grammar) (value : Text) (sign : Option Text) :
    ValueCheck :=
  match grammar with
  | text => checkText value sign
  | color => checkColor value
  | manaCost => checkManaCost value
  | number operator => checkNumber operator value
  | powerToughness => checkPowerToughness value
  | loyalty => checkLoyalty value
  | setCode => checkSetCode value sign
  | collectorNumber => checkCollectorNumber value
  | rarity => checkRarity value
  | format => checkFormat value sign
  | choice name values => checkChoice name values value sign
  | year => checkYear value

end Grammar

end CardQuery
