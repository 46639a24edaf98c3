import CardQuery.Operator.Spelling
import Mathlib.Order.Bounds.Basic

/-!
# The edit distance

`editDistance` computes the least number of single edits that turns one text
into the other.  Edits may be made anywhere and in any order.  To count the
least number of them it is enough to go through both texts from the left and to
keep, insert, remove or replace a character at each step.  The distances of the
word to all ends of the text are one row, and a row is computed from the row of
the word without its first character.
-/

namespace CardQuery.Spelling

/-- One character is inserted, removed or replaced somewhere. -/
inductive Edit : Text → Text → Prop where
  | insert (character : Char) (text : Text) : Edit text (character :: text)
  | remove (character : Char) (text : Text) : Edit (character :: text) text
  | replace (character other : Char) (text : Text) :
      Edit (character :: text) (other :: text)
  | later (character : Char) {word text : Text} :
      Edit word text → Edit (character :: word) (character :: text)

/-- A number of single edits, one after the other, turns one text into the
other. -/
inductive Edits : Nat → Text → Text → Prop where
  | none (text : Text) : Edits 0 text text
  | next {count : Nat} {word between text : Text} :
      Edits count word between → Edit between text →
        Edits (count + 1) word text

/-- One text is turned into the other from left to right, with a number of
characters that are not kept. -/
inductive Aligned : Nat → Text → Text → Prop where
  | nil : Aligned 0 [] []
  | keep (character : Char) {count : Nat} {word text : Text} :
      Aligned count word text →
        Aligned count (character :: word) (character :: text)
  | insert (character : Char) {count : Nat} {word text : Text} :
      Aligned count word text → Aligned (count + 1) word (character :: text)
  | remove (character : Char) {count : Nat} {word text : Text} :
      Aligned count word text → Aligned (count + 1) (character :: word) text
  | replace (character other : Char) {count : Nat} {word text : Text} :
      Aligned count word text →
        Aligned (count + 1) (character :: word) (other :: text)

section Edits

variable {count : Nat} {word between text : Text}

theorem Edits.cons (character : Char) (edits : Edits count word text) :
    Edits count (character :: word) (character :: text) := by
  induction edits with
  | none text => exact .none _
  | next _ edit ih => exact .next ih (.later character edit)

private theorem Aligned.edits (aligned : Aligned count word text) :
    Edits count word text := by
  induction aligned with
  | nil => exact .none []
  | keep character _ ih => exact ih.cons character
  | insert character _ ih => exact .next ih (.insert character _)
  | remove character _ ih => exact .next (ih.cons character) (.remove character _)
  | replace character other _ ih =>
      exact .next (ih.cons character) (.replace character other _)

theorem Aligned.refl (text : Text) : Aligned 0 text text := by
  induction text with
  | nil => exact .nil
  | cons character _ ih => exact .keep character ih

theorem Aligned.symm (aligned : Aligned count word text) :
    Aligned count text word := by
  induction aligned with
  | nil => exact .nil
  | keep character _ ih => exact .keep character ih
  | insert character _ ih => exact .remove character ih
  | remove character _ ih => exact .insert character ih
  | replace character other _ ih => exact .replace other character ih

private theorem Aligned.edit (aligned : Aligned count word between)
    (edit : Edit between text) :
    ∃ fewer ≤ count + 1, Aligned fewer word text := by
  induction aligned generalizing text with
  | nil =>
      cases edit with
      | insert character => exact ⟨1, Nat.le_refl 1, .insert character .nil⟩
  | @keep character count word between aligned ih =>
      cases edit with
      | insert inserted =>
          exact ⟨_, Nat.le_refl _, .insert inserted (.keep character aligned)⟩
      | remove => exact ⟨_, Nat.le_refl _, .remove character aligned⟩
      | replace _ other =>
          exact ⟨_, Nat.le_refl _, .replace character other aligned⟩
      | later _ edit =>
          obtain ⟨fewer, isFewer, shorter⟩ := ih edit
          exact ⟨fewer, isFewer, .keep character shorter⟩
  | @insert character count word between aligned ih =>
      cases edit with
      | insert inserted =>
          exact ⟨_, Nat.le_refl _,
            .insert inserted (.insert character aligned)⟩
      | remove => exact ⟨count, by omega, aligned⟩
      | replace _ other =>
          exact ⟨_, Nat.le_succ _, .insert other aligned⟩
      | later _ edit =>
          obtain ⟨fewer, isFewer, shorter⟩ := ih edit
          exact ⟨fewer + 1, Nat.succ_le_succ isFewer,
            .insert character shorter⟩
  | @remove character count word between aligned ih =>
      obtain ⟨fewer, isFewer, shorter⟩ := ih edit
      exact ⟨fewer + 1, Nat.succ_le_succ isFewer, .remove character shorter⟩
  | @replace character changed count word between aligned ih =>
      cases edit with
      | insert inserted =>
          exact ⟨_, Nat.le_refl _,
            .insert inserted (.replace character changed aligned)⟩
      | remove => exact ⟨_, Nat.le_succ _, .remove character aligned⟩
      | replace _ other =>
          exact ⟨_, Nat.le_succ _, .replace character other aligned⟩
      | later _ edit =>
          obtain ⟨fewer, isFewer, shorter⟩ := ih edit
          exact ⟨fewer + 1, Nat.succ_le_succ isFewer,
            .replace character changed shorter⟩

private theorem Edits.aligned (edits : Edits count word text) :
    ∃ fewer ≤ count, Aligned fewer word text := by
  induction edits with
  | none text => exact ⟨0, Nat.le_refl 0, Aligned.refl text⟩
  | next _ edit ih =>
      obtain ⟨fewer, isFewer, aligned⟩ := ih
      obtain ⟨fewest, isFewest, aligned⟩ := aligned.edit edit
      exact ⟨fewest, by omega, aligned⟩

private theorem Aligned.length_le (aligned : Aligned count word text) :
    word.length ≤ text.length + count ∧ text.length ≤ word.length + count := by
  induction aligned with
  | nil => exact ⟨Nat.le_refl 0, Nat.le_refl 0⟩
  | keep | insert | remove | replace =>
      simp only [List.length_cons]
      omega

end Edits

/-- The number is the least one with which the texts are aligned. -/
def IsDistance (distance : Nat) (word text : Text) : Prop :=
  IsLeast {count | Aligned count word text} distance

section Rows

variable {distance here next corner : Nat} {first character : Char}
  {word text : Text}

theorem isDistance_nil (text : Text) : IsDistance text.length [] text := by
  constructor
  · change Aligned text.length [] text
    induction text with
    | nil => exact .nil
    | cons first _ ih => exact .insert first ih
  · intro count aligned
    have bounded := aligned.length_le
    rw [List.length_nil] at bounded
    omega

private theorem IsDistance.removeAll (isDistance : IsDistance distance word [])
    :
    IsDistance (distance + 1) (character :: word) [] := by
  constructor
  · exact .remove character isDistance.1
  · intro count aligned
    cases aligned with
    | remove _ aligned => exact Nat.succ_le_succ (isDistance.2 aligned)

private theorem IsDistance.keep (isDistance : IsDistance distance word text) :
    IsDistance distance (character :: word) (character :: text) := by
  constructor
  · exact .keep character isDistance.1
  · intro count aligned
    cases aligned with
    | keep _ aligned => exact isDistance.2 aligned
    | insert _ aligned =>
        obtain ⟨fewer, isFewer, aligned⟩ :=
          aligned.symm.edit (.remove character word)
        exact (isDistance.2 aligned.symm).trans isFewer
    | remove _ aligned =>
        obtain ⟨fewer, isFewer, aligned⟩ :=
          aligned.edit (.remove character text)
        exact (isDistance.2 aligned).trans isFewer
    | replace _ _ aligned => exact Nat.le_succ_of_le (isDistance.2 aligned)

private theorem IsDistance.change (differ : character ≠ first)
    (removing : IsDistance here word (first :: text))
    (inserting : IsDistance next (character :: word) text)
    (replacing : IsDistance corner word text) :
    IsDistance (1 + min (min here next) corner) (character :: word)
      (first :: text) := by
  constructor
  · have least : min (min here next) corner = here ∨
        min (min here next) corner = next ∨
        min (min here next) corner = corner := by
      omega
    rw [Nat.add_comm]
    rcases least with isLeast | isLeast | isLeast
    · rw [isLeast]
      exact .remove character removing.1
    · rw [isLeast]
      exact .insert first inserting.1
    · rw [isLeast]
      exact .replace character first replacing.1
  · intro count aligned
    cases aligned with
    | keep => contradiction
    | insert _ aligned =>
        have bound := inserting.2 aligned
        omega
    | remove _ aligned =>
        have bound := removing.2 aligned
        omega
    | replace _ _ aligned =>
        have bound := replacing.2 aligned
        omega

/-- The distances of a word to all ends of a text, from the whole text to the
empty one. -/
inductive IsRow (word : Text) : Text → List Nat → Prop where
  | nil {distance : Nat} : IsDistance distance word [] → IsRow word [] [distance]
  | cons {distance : Nat} {first : Char} {rest : Text} {row : List Nat} :
      IsDistance distance word (first :: rest) → IsRow word rest row →
        IsRow word (first :: rest) (distance :: row)

theorem IsRow.exists_cons {row : List Nat} (isRow : IsRow word text row) :
    ∃ distance later, row = distance :: later ∧
      IsDistance distance word text := by
  cases isRow with
  | nil isDistance => exact ⟨_, _, rfl, isDistance⟩
  | cons isDistance _ => exact ⟨_, _, rfl, isDistance⟩

private theorem isRow_extendRow {row : List Nat} (isRow : IsRow word text row)
    (character : Char) :
    IsRow (character :: word) text (extendRow character text row) := by
  induction isRow with
  | nil isDistance => exact .nil isDistance.removeAll
  | @cons here first rest row removing isRow ih =>
      obtain ⟨corner, later, rfl, replacing⟩ := isRow.exists_cons
      obtain ⟨next, others, isNext, inserting⟩ := ih.exists_cons
      rw [extendRow]
      refine .cons ?_ ih
      rw [isNext, List.headD_cons]
      split
      next same =>
        rw [same]
        exact replacing.keep
      next differ => exact removing.change differ inserting replacing

private theorem isRow_distanceRow (word text : Text) :
    IsRow word text (distanceRow text word) := by
  induction word with
  | nil =>
      rw [distanceRow]
      induction text with
      | nil => exact .nil (isDistance_nil [])
      | cons first rest ih =>
          rw [List.range_succ, List.reverse_append]
          exact .cons (isDistance_nil (first :: rest)) ih
  | cons first rest ih =>
      rw [distanceRow]
      exact isRow_extendRow ih first

private theorem isDistance_editDistance (word text : Text) :
    IsDistance (editDistance word text) word text := by
  obtain ⟨distance, later, isRow, isDistance⟩ :=
    (isRow_distanceRow word text).exists_cons
  rw [editDistance, isRow]
  exact isDistance

end Rows

/-- The edit distance is the least number of single edits that turns one text
into the other. -/
theorem isLeast_editDistance (word text : Text) :
    IsLeast {count | Edits count word text} (editDistance word text) := by
  have isDistance := isDistance_editDistance word text
  constructor
  · exact Aligned.edits isDistance.1
  · intro count edits
    obtain ⟨fewer, isFewer, aligned⟩ := Edits.aligned edits
    exact (isDistance.2 aligned).trans isFewer

theorem lengthGap_le_editDistance (word text : Text) :
    lengthGap word text ≤ editDistance word text := by
  have bounded := (isDistance_editDistance word text).1.length_le
  rw [lengthGap]
  omega

end CardQuery.Spelling
