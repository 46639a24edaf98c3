import CardQuery.Text.Basic

/-!
# Blank characters

The blank characters are the white space of Unicode together with the four
information separators `U+001C` to `U+001F`.  Stripping removes them from the
ends of a text and `words` cuts a text at every run of them.
-/

namespace CardQuery.Text

/-- White space of Unicode, as closed ranges of codes. -/
def whiteSpaceRanges : List (Nat × Nat) :=
  [(0x09, 0x0D), (0x20, 0x20), (0x85, 0x85), (0xA0, 0xA0), (0x1680, 0x1680),
   (0x2000, 0x200A), (0x2028, 0x2029), (0x202F, 0x202F), (0x205F, 0x205F),
   (0x3000, 0x3000)]

def isWhiteSpace (character : Char) : Bool :=
  inRanges whiteSpaceRanges character

/-- Whether the character separates words: white space or an information
separator. -/
def isBlank (character : Char) : Bool :=
  inRanges ((0x1C, 0x1F) :: whiteSpaceRanges) character

def stripStart (text : Text) : Text := text.dropWhile isBlank

def stripEnd (text : Text) : Text := (text.reverse.dropWhile isBlank).reverse

def strip (text : Text) : Text := stripEnd (stripStart text)

/-- The text without white space at either end; information separators stay. -/
def trim (text : Text) : Text :=
  ((text.dropWhile isWhiteSpace).reverse.dropWhile isWhiteSpace).reverse

/-- The maximal runs of characters that are not blank, in order. -/
def words : Text → List Text
  | [] => []
  | first :: rest =>
      if isBlank first then words rest
      else
        match rest, words rest with
        | second :: _, word :: later =>
            if isBlank second then [first] :: word :: later
            else (first :: word) :: later
        | _, later => [first] :: later

theorem mem_words_ne_nil {text word : Text} (member : word ∈ words text) :
    word ≠ [] := by
  induction text generalizing word with
  | nil => simp [words] at member
  | cons first rest ih =>
      unfold words at member
      grind

theorem not_isBlank_of_mem_words {text word : Text}
    (member : word ∈ words text) :
    ∀ character ∈ word, isBlank character = false := by
  induction text generalizing word with
  | nil => simp [words] at member
  | cons first rest ih =>
      unfold words at member
      grind

end CardQuery.Text
