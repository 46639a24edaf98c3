import CardQuery.Operator.Registry

/-!
# The operators of card search

The registry that is used unless another one is given.
-/

namespace CardQuery

namespace Operator

/-- An operator on free text. -/
def onText (name : Text) (aliases : List Text) (description : Text) :
    Operator :=
  ⟨name, aliases, .text, false, description, []⟩

/-- An operator on values that are ordered. -/
def onOrdered (name : Text) (aliases : List Text) (grammar : Grammar) :
    Operator :=
  ⟨name, aliases, grammar, true, "", []⟩

/-- An operator on one of a list of values. -/
def onChoice (name : Text) (aliases : List Text) (grammar : Grammar)
    (values : List Text) : Operator :=
  ⟨name, aliases, grammar, false, "", values⟩

def standard : List Operator :=
  [ -- Text.
    onText "oracle" ["o"] "Rules text",
    onText "name" ["n"] "Card name",
    onText "type" ["t"] "Type line",
    onText "flavor" ["ft"] "Flavor text",
    onText "artist" ["a"] "Artist name",
    onText "keyword" ["kw"] "Keyword ability",
    onText "oracletag" ["otag", "function"] "Functional card tag",
    -- Colors and mana.
    onOrdered "color" ["c"] .color,
    onOrdered "coloridentity" ["id", "identity", "ci"] .color,
    onOrdered "produces" [] .color,
    onOrdered "mana" ["m"] .manaCost,
    onOrdered "devotion" [] .manaCost,
    -- Numbers on a card.
    onOrdered "manavalue" ["mv", "cmc"] (.number "manavalue"),
    onOrdered "power" ["pow"] .powerToughness,
    onOrdered "toughness" ["tou"] .powerToughness,
    onOrdered "loyalty" ["loy"] .loyalty,
    -- Printings.
    ⟨"set", ["s", "e", "edition"], .setCode, false, "", []⟩,
    onOrdered "number" ["cn", "collector"] .collectorNumber,
    ⟨"rarity", ["r"], .rarity, true, "", Vocabulary.rarities⟩,
    onOrdered "year" [] .year,
    onChoice "game" [] (.choice "game" Vocabulary.games) Vocabulary.games,
    -- Where a card is legal.
    onChoice "format" ["f", "legal"] .format Vocabulary.formats,
    onChoice "banned" [] .format Vocabulary.formats,
    onChoice "restricted" [] .format Vocabulary.formats,
    -- Properties of cards.
    onChoice "is" [] (.choice "is" Vocabulary.cardProperties)
      Vocabulary.cardProperties,
    onChoice "not" [] (.choice "not" Vocabulary.cardProperties)
      Vocabulary.cardProperties,
    -- Prices.
    onOrdered "usd" [] (.number "usd"),
    onOrdered "eur" [] (.number "eur"),
    onOrdered "tix" [] (.number "tix")]

end Operator

def Registry.standard : Registry := ⟨Operator.standard, by decide⟩

end CardQuery
