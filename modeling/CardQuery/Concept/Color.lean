import CardQuery.Concept.Basic
import CardQuery.Concept.Wording

/-!
# Colors in a text

A color phrase counts wherever its letters occur, also inside a longer word.
The words around it tell whether the colors are one choice among others or the
only ones.  Concepts that share a color, or that are alike in being multicolored
and colorless, are merged into the first of them.
-/

namespace CardQuery

structure ColorPhrase where
  phrase : Text
  colors : List Color
  hundredths : Nat
  isExact : Bool
  multicolor : Bool
  colorless : Bool

namespace ColorPhrase

def plain (phrase : Text) (hundredths : Nat) (colors : List Color) :
    ColorPhrase :=
  ⟨phrase, colors, hundredths, false, false, false⟩

def exactly (phrase : Text) (hundredths : Nat) (colors : List Color) :
    ColorPhrase :=
  ⟨phrase, colors, hundredths, true, false, false⟩

open Color in
def table : List ColorPhrase :=
  [ -- Colors.
    plain "red" 95 [red], plain "blue" 95 [blue], plain "white" 95 [white],
    plain "black" 95 [black], plain "green" 95 [green],
    -- Pairs of colors.
    exactly "azorius" 98 [white, blue], exactly "dimir" 98 [blue, black],
    exactly "rakdos" 98 [black, red], exactly "gruul" 98 [red, green],
    exactly "selesnya" 98 [green, white], exactly "orzhov" 98 [white, black],
    exactly "izzet" 98 [blue, red], exactly "golgari" 98 [black, green],
    exactly "boros" 98 [red, white], exactly "simic" 98 [green, blue],
    -- Triples of neighbours on the color wheel.
    exactly "bant" 98 [green, white, blue],
    exactly "esper" 98 [white, blue, black],
    exactly "grixis" 98 [blue, black, red],
    exactly "jund" 98 [black, red, green],
    exactly "naya" 98 [red, green, white],
    -- Triples with opposite colors.
    exactly "abzan" 98 [white, black, green],
    exactly "jeskai" 98 [blue, red, white],
    exactly "sultai" 98 [black, green, blue],
    exactly "mardu" 98 [red, white, black],
    exactly "temur" 98 [green, blue, red],
    -- Any number of colors.
    ⟨"multicolor", [], 90, false, true, false⟩,
    ⟨"multicolored", [], 90, false, true, false⟩,
    ⟨"colorless", [], 95, false, false, true⟩,
    plain "rainbow" 85 all, plain "five-color" 90 all,
    plain "five color" 90 all,
    -- One color alone.
    exactly "mono-red" 92 [red], exactly "mono-blue" 92 [blue],
    exactly "mono-white" 92 [white],
    exactly "mono-black" 92 [black], exactly "mono-green" 92 [green],
    exactly "mono red" 92 [red], exactly "mono blue" 92 [blue],
    exactly "mono white" 92 [white],
    exactly "mono black" 92 [black], exactly "mono green" 92 [green]]

/-- Words that make colors one choice among others. -/
def inclusiveWords : List Text :=
  ["or", "any", "either", "include", "containing"]

/-- Words that make colors the only ones. -/
def exclusiveWords : List Text :=
  ["only", "just", "exactly", "purely", "solely", "mono"]

/-- Whether one of the words stands within five words of the phrase. -/
def isNear (text phrase : Text) (words : List Text) : Bool :=
  words.any (Text.containsWord (Wording.contextWindow text phrase 5))

def concept (text : Text) (phrase : ColorPhrase) : ColorConcept where
  colors := Color.sorted phrase.colors
  isExact := phrase.isExact
  exclusive := isNear text phrase.phrase exclusiveWords
  inclusive := isNear text phrase.phrase inclusiveWords
  multicolor := phrase.multicolor
  colorless := phrase.colorless
  confidence := percent phrase.hundredths

end ColorPhrase

namespace ColorConcept

/-- Whether two concepts share a color or are alike in being multicolored and
colorless. -/
def isMergeable (left right : ColorConcept) : Bool :=
  left.colors.any right.colors.contains ||
    (left.multicolor == right.multicolor && left.colorless == right.colorless)

/-- One concept for two: the colors of both, exact only if both are, and
otherwise all that either of them is. -/
def merge (left right : ColorConcept) : ColorConcept where
  colors := Color.sorted (left.colors ++ right.colors)
  isExact := left.isExact && right.isExact
  exclusive := left.exclusive || right.exclusive
  inclusive := left.inclusive || right.inclusive
  multicolor := left.multicolor || right.multicolor
  colorless := left.colorless || right.colorless
  confidence := left.confidence.larger right.confidence

/-- Merges a concept with each later one that is mergeable with what has been
merged so far, and gives the concepts that are left. -/
def absorb (current : ColorConcept) :
    List ColorConcept → ColorConcept × List ColorConcept
  | [] => (current, [])
  | next :: rest =>
      if current.isMergeable next then absorb (current.merge next) rest
      else ((absorb current rest).1, next :: (absorb current rest).2)

theorem length_absorb_le (current : ColorConcept)
    (concepts : List ColorConcept) :
    (absorb current concepts).2.length ≤ concepts.length := by
  fun_induction absorb current concepts <;> simp_all
  omega

/-- Merges concepts from the first to the last, each into the first that it is
mergeable with. -/
def mergeAll : List ColorConcept → List ColorConcept
  | [] => []
  | first :: rest => (absorb first rest).1 :: mergeAll (absorb first rest).2
termination_by concepts => concepts.length
decreasing_by exact Nat.lt_succ_of_le (length_absorb_le first rest)

def extract (table : List ColorPhrase) (text : Text) : List ColorConcept :=
  let lowered := Text.lower text
  mergeAll ((table.filter fun phrase => Text.includes lowered phrase.phrase).map
    (ColorPhrase.concept lowered))

end ColorConcept

end CardQuery
