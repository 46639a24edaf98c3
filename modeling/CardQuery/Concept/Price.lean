import CardQuery.Concept.Basic
import CardQuery.Number.Numeral
import CardQuery.Text.Casing
import CardQuery.Text.Pattern

/-!
# Prices in a text

Rules recognise bounds such as `under $10`, ranges, exact prices and words such
as `cheap`.  Each rule counts once, at the first place where its pattern
succeeds, and the characters around that place tell the currency.  Prices in one
currency are merged: the larger of their lower bounds and the smaller of their
upper bounds.
-/

namespace CardQuery

/-- How the amounts that a rule found become bounds. -/
inductive PriceRule.Kind where
  | atMost
  | atLeast
  | range
  | exact
  | cheap
  | expensive
deriving DecidableEq, Repr, Inhabited

structure PriceRule where
  pattern : Pattern
  kind : PriceRule.Kind
  hundredths : Nat

namespace PriceRule

open Pattern

/-- An amount with an optional dollar sign; its digits, with two places or none,
are kept.  Without the sign it begins where a run of digits begins, for a rule
that succeeds within the run succeeds at its beginning too. -/
def amount : Pattern :=
  all
    [either (letters "$") (notAfter Text.isDigit),
     group (all [digits, optional (all [letters ".", digit, digit])])]

/-- Words with blanks between them, and blanks or nothing before an amount. -/
def wordsThenAmount (words : List Text) : Pattern :=
  all [all ((words.map letters).intersperse someBlanks), blanks, amount]

/-- An amount, and blanks or nothing before each of some words. -/
def amountThenWords (words : List Text) : Pattern :=
  sequence amount (all (words.map fun word => sequence blanks (letters word)))

/-- A word and the first amount after it on the same line. -/
def wordThenLater (word : Text) : Pattern :=
  all [letters word, many true isInLine, amount]

/-- One of some words between two amounts. -/
def betweenAmounts (words : List Text) : Pattern :=
  all [amount, blanks, anyOf (words.map letters), blanks, amount]

def table : List PriceRule :=
  [ -- Upper bounds.
    ⟨wordsThenAmount ["under"], .atMost, 95⟩,
    ⟨wordsThenAmount ["less", "than"], .atMost, 93⟩,
    ⟨wordsThenAmount ["below"], .atMost, 90⟩,
    ⟨amountThenWords ["or", "less"], .atMost, 92⟩,
    ⟨amountThenWords ["and", "under"], .atMost, 90⟩,
    ⟨amountThenWords ["max"], .atMost, 88⟩,
    ⟨wordsThenAmount ["maximum"], .atMost, 87⟩,
    -- Words for a low price before an amount.
    ⟨wordThenLater "budget", .atMost, 85⟩,
    ⟨wordThenLater "cheap", .atMost, 80⟩,
    ⟨wordThenLater "affordable", .atMost, 82⟩,
    ⟨wordThenLater "inexpensive", .atMost, 78⟩,
    -- Lower bounds.
    ⟨wordsThenAmount ["over"], .atLeast, 95⟩,
    ⟨wordsThenAmount ["more", "than"], .atLeast, 93⟩,
    ⟨wordsThenAmount ["above"], .atLeast, 90⟩,
    ⟨amountThenWords ["or", "more"], .atLeast, 92⟩,
    ⟨amountThenWords ["and", "up"], .atLeast, 88⟩,
    ⟨wordsThenAmount ["minimum"], .atLeast, 87⟩,
    -- Ranges.
    ⟨all [letters "between", blanks, betweenAmounts ["and", "to", "-"]],
      .range, 88⟩,
    ⟨betweenAmounts ["-", "to"], .range, 85⟩,
    ⟨all [letters "from", blanks, betweenAmounts ["to"]], .range, 87⟩,
    -- Exact prices.
    ⟨wordsThenAmount ["exactly"], .exact, 90⟩,
    ⟨wordsThenAmount ["costs"], .exact, 85⟩,
    ⟨all [letters "priced", blanks, letters "at", blanks, amount], .exact, 83⟩,
    -- Words without an amount.
    ⟨letters "budget", .cheap, 70⟩,
    ⟨letters "cheap", .cheap, 65⟩,
    ⟨letters "affordable", .cheap, 68⟩,
    ⟨letters "expensive", .expensive, 65⟩,
    ⟨letters "premium", .expensive, 70⟩,
    ⟨all [letters "high", optional (one isInLine), letters "end"],
      .expensive, 72⟩]

def amounts (groups : List Text) : List Binary64 :=
  groups.filterMap fun group => (Numeral.read? group).map Numeral.value

structure Bounds where
  min : Option Binary64
  max : Option Binary64
  condition : Option PriceCondition

/-- The bounds that amounts become. -/
def bounds (kind : Kind) (amounts : List Binary64) : Bounds :=
  match kind with
  | .atMost => ⟨none, amounts[0]?, none⟩
  | .atLeast => ⟨amounts[0]?, none, none⟩
  | .range => ⟨amounts[0]?, amounts[1]?, none⟩
  | .exact => ⟨amounts[0]?, amounts[0]?, none⟩
  | .cheap => ⟨none, some (.ofInt 10), some .budget⟩
  | .expensive => ⟨some (.ofInt 50), none, some .premium⟩

end PriceRule

/-- The characters around a position of the text, in small letters. -/
def priceWindow (text : Text) (position : Int) : Text :=
  Text.lower (Text.slice text (max 0 (position - 20)) (position + 20))

/-- The first entry of a table of which a word occurs in the text. -/
def firstMentioned {α : Type} (table : List (α × List Text)) (text : Text) :
    Option α :=
  (table.find? fun entry => entry.2.any (Text.includes text)).map (·.1)

/-- The currency that a text speaks of around a position; dollars if it speaks
of none. -/
def Currency.around (text : Text) (position : Int) : Currency :=
  (firstMentioned
    [(.eur, ["euro", "eur", "€"]), (.tix, ["tix", "ticket", "mtgo"])]
    (priceWindow text position)).getD .usd

def PriceCondition.around (text : Text) (position : Int) :
    Option PriceCondition :=
  firstMentioned
    [(.budget, ["budget", "cheap", "affordable"]),
     (.value, ["value", "efficient", "reasonable"]),
     (.premium, ["premium", "expensive", "high end"])]
    (priceWindow text position)

namespace PriceConcept

/-- A bound for two bounds, either of which may be missing. -/
def mergeBound (choose : Binary64 → Binary64 → Binary64) :
    Option Binary64 → Option Binary64 → Option Binary64
  | none, right => right
  | some left, none => some left
  | some left, some right => some (choose left right)

/-- One price for two in the same currency. -/
def merge (left right : PriceConcept) : PriceConcept where
  min := mergeBound .larger left.min right.min
  max := mergeBound .smaller left.max right.max
  currency := left.currency
  condition := left.condition.or right.condition
  confidence := left.confidence.larger right.confidence

/-- Merges a price into the first one of its currency, or adds it at the end. -/
def insert (price : PriceConcept) : List PriceConcept → List PriceConcept
  | [] => [price]
  | first :: rest =>
      if first.currency = price.currency then first.merge price :: rest
      else first :: insert price rest

/-- One price for each currency, in the order in which the currencies occur. -/
def mergeAll (prices : List PriceConcept) : List PriceConcept :=
  prices.foldl (fun merged price => insert price merged) []

def ofRule? (text : Text) (rule : PriceRule) : Option PriceConcept :=
  (rule.pattern.find? text).map fun found =>
    let bounds := PriceRule.bounds rule.kind (PriceRule.amounts found.groups)
    { min := bounds.min
      max := bounds.max
      currency := Currency.around text found.position
      condition :=
        bounds.condition.or (PriceCondition.around text found.position)
      confidence := percent rule.hundredths }

def extract (table : List PriceRule) (text : Text) : List PriceConcept :=
  mergeAll (table.filterMap (ofRule? text))

end PriceConcept

end CardQuery
