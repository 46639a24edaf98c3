import CardQuery.Text.Blank
import CardQuery.Text.Casing

/-!
# Near spellings

The edit distance of two texts is the least number of characters to insert, to
remove or to replace that turns one into the other.  `closest` picks the
candidates that are near a word without being it, ignoring case, the nearest
first and candidates at one distance in their order.  It asks for a distance
only up to the one that counts as near.
-/

namespace CardQuery.Spelling

/-- The row of distances of `character :: word` to every end of a text, from the
row of `word`. -/
def extendRow (character : Char) : (text : Text) → (row : List Nat) → List Nat
  | first :: rest, here :: next :: later =>
      let row := extendRow character rest (next :: later)
      (if character = first then next
        else 1 + min (min here (row.headD 0)) next) :: row
  | _, row => row.map (· + 1)

/-- The distances of a word to every end of a text, from the whole text to the
empty one. -/
def distanceRow (text : Text) : Text → List Nat
  | [] => (List.range (text.length + 1)).reverse
  | first :: rest => extendRow first text (distanceRow text rest)

/-- The least number of single edits that turns one text into the other. -/
def editDistance (word text : Text) : Nat := (distanceRow text word).headD 0

/-- The edit distance if it is within a limit, and otherwise a number above the
limit. -/
def boundedDistance (word text : Text) (maxDistance : Int) : Nat :=
  let distance := editDistance word text
  if distance ≤ maxDistance then distance else (maxDistance + 1).toNat

/-- A candidate with its distance to the word and its place among the
candidates. -/
structure Match where
  distance : Nat
  place : Nat
  spelling : Text
deriving DecidableEq, Repr, Inhabited

/-- Whether one text is equal to another or comes before it in the order of the
characters' codes. -/
def isOrdered : (first second : Text) → Bool
  | [], _ => true
  | _ :: _, [] => false
  | first :: rest, second :: others =>
      first.toNat < second.toNat ||
        first.toNat == second.toNat && isOrdered rest others

/-- Whether one match comes before another or is equal to it: the nearer one
comes first, at one distance the earlier one, and at one place the one that is
first in the order of its characters. -/
def Match.le (first second : Match) : Bool :=
  first.distance < second.distance ||
    first.distance == second.distance &&
      (first.place < second.place ||
        first.place == second.place && isOrdered first.spelling second.spelling)

/-- How many characters one text has more than the other. -/
def lengthGap (word text : Text) : Nat :=
  ((word.length : Int) - text.length).natAbs

/-- Walks over the candidates from a place on, and gives those within a distance
of the word.  What is equal to the word or to something seen before is passed
over, and nothing is measured whose length alone is too far from the word's. -/
def matchesFrom (measure : Text → Text → Int → Nat) (word : Text)
    (maxDistance : Int) :
    (place : Nat) → (seen : List Text) → (candidates : List Text) → List Match
  | _, _, [] => []
  | place, seen, candidate :: rest =>
      let lowered := Text.lower candidate
      if seen.contains lowered || lowered == word then
        matchesFrom measure word maxDistance (place + 1) seen rest
      else
        let later :=
          matchesFrom measure word maxDistance (place + 1) (lowered :: seen)
            rest
        if maxDistance < lengthGap word lowered then later
        else
          let distance := measure word lowered maxDistance
          if distance ≤ maxDistance then ⟨distance, place, candidate⟩ :: later
          else later

/-- The word as candidates are compared with it. -/
def needle (word : Text) : Text := Text.strip (Text.lower word)

/-- The candidates nearest to a word by a measure of distance, apart from the
word itself, at most `limit` of them.  A limit below zero leaves out that many
at the end. -/
def closestBy (measure : Text → Text → Int → Nat) (word : Text)
    (candidates : List Text) (maxDistance limit : Int) : List Text :=
  let ranked :=
    (matchesFrom measure (needle word) maxDistance 0 [] candidates).mergeSort
      Match.le
  Text.slice (ranked.map (·.spelling)) 0 limit

/-- The candidates nearest to a word by their edit distance. -/
def closest : (word : Text) → (candidates : List Text) →
    (maxDistance limit : Int) → List Text :=
  closestBy boundedDistance

/-- The largest distance that can be asked for. -/
def largestDistance : Nat := 18446744073709551615

/-- Whether a word can be compared with candidates: the distance asked for is
not too large, or there is none to compare it with. -/
def isMeasurable (word : Text) (candidates : List Text) (maxDistance : Int) :
    Bool :=
  maxDistance ≤ largestDistance || candidates.all (Text.lower · == needle word)

def usualDistance : Nat := 2

def usualLimit : Nat := 3

/-- The corrections usually offered for a word. -/
def corrections (word : Text) (candidates : List Text) : List Text :=
  closest word candidates usualDistance usualLimit

end CardQuery.Spelling
