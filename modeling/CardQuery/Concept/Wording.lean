import CardQuery.Text.Blank
import CardQuery.Text.Casing
import CardQuery.Text.Pattern

/-!
# The wording of a text

`normalize` brings an English text into the form in which words are looked for:
small letters, words separated by one blank, and of the punctuation only what
belongs to prices, numbers and compound words.  `contextWindow` gives the words
around a phrase.
-/

namespace CardQuery.Wording

/-- Whether the character stays in a normalized text. -/
def isKept (character : Char) : Bool :=
  Text.isWord character || "$€./-".toList.contains character

/-- The character in a normalized text: a dash becomes a hyphen, and what does
not stay a blank. -/
def soften (character : Char) : Char :=
  if character == '—' || character == '–' then '-'
  else if isKept character then character
  else ' '

/-- The text in small letters, with one blank between words and nothing else
between them. -/
def normalize (text : Text) : Text :=
  Text.join " " (Text.words ((Text.lower (Text.strip text)).map soften))

/-- The words at most `count` words away from the first word that holds the
first word of the phrase.  It is the empty text if the phrase does not occur,
and nothing if the phrase occurs but has no word to look for. -/
def contextWindow? (text phrase : Text) (count : Int) : Option Text :=
  if !Text.includes (Text.lower text) (Text.lower phrase) then some []
  else
    let words := Text.words text
    match Text.words (Text.lower phrase) with
    | [] => if words.isEmpty then some [] else none
    | first :: more =>
        match words.findIdx?
            fun word => Text.includes (Text.lower word) first with
        | none => some []
        | some index =>
            let stop :=
              min (words.length : Int) (index + (more.length + 1) + count)
            some (Text.join " " (Text.slice words (max 0 (index - count)) stop))

/-- The words around a phrase; the empty text if there is none to look for. -/
def contextWindow (text phrase : Text) (count : Int) : Text :=
  (contextWindow? text phrase count).getD []

end CardQuery.Wording
