import CardQuery.Concept.Basic
import CardQuery.Concept.Wording

/-!
# Card types and subtypes in a text

Type phrases and subtype phrases count wherever their letters occur.  Of several
phrases for the same type the first one counts; a type and its negation are
different.
-/

namespace CardQuery

structure TypePhrase where
  phrase : Text
  hundredths : Nat
  cardType : Option Text
  supertype : Option Text
  function : Option Text
  negated : Bool

namespace TypePhrase

def ofType (hundredths : Nat) (cardType : Text) (phrase : Text) : TypePhrase :=
  ⟨phrase, hundredths, some cardType, none, none, false⟩

def ofOther (hundredths : Nat) (cardType : Text) (phrase : Text) : TypePhrase :=
  ⟨phrase, hundredths, some cardType, none, none, true⟩

def ofSupertype (hundredths : Nat) (phrase : Text) : TypePhrase :=
  ⟨phrase, hundredths, none, some phrase, none, false⟩

def ofFunction (hundredths : Nat) (function : Text) (phrase : Text) :
    TypePhrase :=
  ⟨phrase, hundredths, none, none, some function, false⟩

def primaryTypes : List Text :=
  ["creature", "instant", "sorcery", "artifact", "enchantment", "planeswalker",
   "land", "battle"]

def table : List TypePhrase :=
  [ -- Card types.
    ofType 98 "creature" "creature", ofType 98 "creature" "creatures",
    ofType 98 "instant" "instant", ofType 98 "instant" "instants",
    ofType 98 "sorcery" "sorcery", ofType 98 "sorcery" "sorceries",
    ofType 98 "artifact" "artifact", ofType 98 "artifact" "artifacts",
    ofType 98 "enchantment" "enchantment",
    ofType 98 "enchantment" "enchantments",
    ofType 98 "planeswalker" "planeswalker",
    ofType 98 "planeswalker" "planeswalkers",
    ofType 98 "land" "land", ofType 98 "land" "lands",
    ofType 98 "battle" "battle", ofType 98 "battle" "battles",
    -- Words for several types.
    ofType 85 "instant OR sorcery" "spell",
    ofType 85 "instant OR sorcery" "spells",
    ofType 80 "creature OR artifact OR enchantment OR planeswalker OR land"
      "permanent",
    ofType 80 "creature OR artifact OR enchantment OR planeswalker OR land"
      "permanents",
    ofOther 85 "land" "nonland", ofOther 85 "land" "non-land",
    ofOther 85 "creature" "noncreature", ofOther 85 "creature" "non-creature",
    -- Supertypes.
    ofSupertype 95 "legendary", ofSupertype 95 "basic", ofSupertype 95 "snow",
    ofSupertype 95 "world",
    -- What cards are for.
    ofFunction 88 "removal" "removal",
    ofFunction 90 "counterspell" "counterspell",
    ofFunction 90 "counterspell" "counterspells",
    ofFunction 85 "draw" "draw", ofFunction 88 "draw" "card draw",
    ofFunction 90 "ramp" "ramp", ofFunction 92 "ramp" "mana ramp",
    ofFunction 88 "tutor" "tutor", ofFunction 88 "tutor" "tutors",
    ofFunction 85 "wipe" "wipe", ofFunction 90 "wipe" "board wipe",
    ofFunction 88 "wipe" "sweeper"]

def concept (text : Text) (phrase : TypePhrase) : TypeConcept where
  cardType := phrase.cardType
  supertype := phrase.supertype
  function := phrase.function
  negated := phrase.negated
  context := Wording.contextWindow text phrase.phrase 3
  confidence := percent phrase.hundredths

end TypePhrase

/-- The text, unless there is none or it is empty. -/
def nonEmpty? (text : Option Text) : Option Text := text.filter (!·.isEmpty)

namespace TypeConcept

/-- What two concepts about the same thing have in common. -/
def key (concept : TypeConcept) : Text :=
  match nonEmpty? concept.cardType with
  | some cardType => if concept.negated then '-' :: cardType else cardType
  | none =>
      ((nonEmpty? concept.supertype).or (nonEmpty? concept.function)).getD []

/-- The concepts whose key is none of those seen and no earlier concept's. -/
def firstKeys (seen : List Text) : List TypeConcept → List TypeConcept
  | [] => []
  | first :: rest =>
      if seen.contains first.key then firstKeys seen rest
      else first :: firstKeys (first.key :: seen) rest

/-- The first concept of each key. -/
def deduplicate (concepts : List TypeConcept) : List TypeConcept :=
  firstKeys [] concepts

def extract (table : List TypePhrase) (text : Text) : List TypeConcept :=
  let lowered := Text.lower text
  deduplicate
    ((table.filter fun phrase => Text.includes lowered phrase.phrase).map
      (TypePhrase.concept lowered))

end TypeConcept

structure SubtypePhrase where
  phrase : Text
  subtype : Text
  category : SubtypeCategory
  hundredths : Nat

namespace SubtypePhrase

/-- The phrases for the subtypes of one category, each subtype with its
phrases. -/
def family (category : SubtypeCategory) (hundredths : Nat)
    (entries : List (Text × List Text)) : List SubtypePhrase :=
  entries.flatMap fun (subtype, phrases) =>
    phrases.map fun phrase => ⟨phrase, subtype, category, hundredths⟩

def table : List SubtypePhrase :=
  family .creature 90 [("human", ["human", "humans"])] ++
    family .creature 95
      [("elf", ["elf", "elves"]), ("goblin", ["goblin", "goblins"]),
       ("zombie", ["zombie", "zombies"]), ("dragon", ["dragon", "dragons"]),
       ("angel", ["angel", "angels"]), ("demon", ["demon", "demons"])] ++
    family .creature 90
      [("wizard", ["wizard", "wizards"]), ("warrior", ["warrior", "warriors"]),
       ("knight", ["knight", "knights"]), ("beast", ["beast", "beasts"]),
       ("spirit", ["spirit", "spirits"]),
       ("elemental", ["elemental", "elementals"])] ++
    family .artifact 95
      [("equipment", ["equipment"]), ("vehicle", ["vehicle", "vehicles"]),
       ("treasure", ["treasure", "treasures"]), ("food", ["food"]),
       ("clue", ["clue", "clues"])] ++
    family .land 90
      [("mountain", ["mountain", "mountains"]),
       ("island", ["island", "islands"]), ("forest", ["forest", "forests"]),
       ("plains", ["plains"]), ("swamp", ["swamp", "swamps"])] ++
    family .enchantment 95
      [("aura", ["aura", "auras"]), ("saga", ["saga", "sagas"])]

end SubtypePhrase

def SubtypeConcept.extract (table : List SubtypePhrase) (text : Text) :
    List SubtypeConcept :=
  let lowered := Text.lower text
  (table.filter fun entry => Text.includes lowered entry.phrase).map
    fun entry => ⟨entry.subtype, entry.category, percent entry.hundredths⟩

end CardQuery
