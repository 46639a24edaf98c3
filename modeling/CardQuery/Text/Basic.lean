/-!
# Text

Text is a list of characters, so every position and length in this library
counts characters.  This module holds what does not depend on a character class:
membership of a character in a table of ranges, containment of one text in
another, pieces of a list addressed from either end, and joining.
-/

namespace CardQuery

/-- Text as the list of its characters. -/
abbrev Text := List Char

instance : Coe String Text := ⟨String.toList⟩

namespace Text

def string (text : Text) : String := String.ofList text

/-- Whether the code of a character lies in one of the closed ranges. -/
def inRanges (ranges : List (Nat × Nat)) (character : Char) : Bool :=
  ranges.any fun range => range.1 ≤ character.toNat && character.toNat ≤ range.2

/-- Whether `phrase` occurs in the text as a run of consecutive characters. -/
def includes (text phrase : Text) : Bool :=
  match text with
  | [] => phrase.isEmpty
  | first :: rest => phrase.isPrefixOf (first :: rest) || includes rest phrase

/-- The number of elements before an index: an index below zero counts from the
end, and one outside the list is moved to its nearer end. -/
def offset (length : Nat) (index : Int) : Nat :=
  if index < 0 then (length + index).toNat else min index.toNat length

/-- The elements from one index up to another. -/
def slice {α : Type} (items : List α) (start stop : Int) : List α :=
  (items.take (offset items.length stop)).drop (offset items.length start)

/-- The texts one after another, with the separator between neighbours. -/
def join (separator : Text) (texts : List Text) : Text :=
  separator.intercalate texts

/-- The pieces of a text between the places of a separator that is not empty,
where the first `skipped` characters belong to a place that has been passed. -/
def splitFrom (separator : Text) : (skipped : Nat) → Text → List Text
  | _, [] => [[]]
  | skipped + 1, _ :: rest => splitFrom separator skipped rest
  | 0, first :: rest =>
      if separator.isPrefixOf (first :: rest) then
        [] :: splitFrom separator (separator.length - 1) rest
      else
        match splitFrom separator 0 rest with
        | piece :: more => (first :: piece) :: more
        | [] => [[first]]

/-- The pieces of a text between the places of a separator that is not empty. -/
def split (separator text : Text) : List Text := splitFrom separator 0 text

/-- The elements without repetition, each at its first place. -/
def distinct {α : Type} [BEq α] (items : List α) : List α :=
  items.foldl
    (fun kept item => if kept.contains item then kept else kept ++ [item]) []

theorem offset_natCast (length index : Nat) :
    offset length index = min index length := by
  unfold offset
  split <;> omega

theorem slice_natCast {α : Type} (items : List α) (start stop : Nat) :
    slice items start stop = (items.take stop).drop start := by
  apply List.ext_getElem?
  intro index
  simp only [slice, offset_natCast, List.getElem?_drop, List.getElem?_take]
  grind

theorem includes_iff {text phrase : Text} :
    includes text phrase = true ↔ phrase <:+: text := by
  induction text with
  | nil => simp [includes]
  | cons first rest ih =>
      simp [includes, ih, List.infix_cons_iff]

end Text

end CardQuery
