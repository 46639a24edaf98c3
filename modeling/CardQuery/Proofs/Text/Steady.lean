import CardQuery.Text.Casing

/-!
# Characters that casing keeps

The small form of a text is built character by character, but some forms depend
on the neighbours of a character.  A steady character has itself as its small
form wherever it stands.  Hence it is still there in small letters, and so is a
phrase of steady characters.
-/

namespace CardQuery.Text

/-- Whether the character is the same in small letters, wherever it stands. -/
def isSteady (character : Char) : Bool :=
  character != 'Σ' && character != 'İ' && smallLetter character == character

theorem lowerAt_of_isSteady {character : Char}
    (steady : isSteady character = true) (before after : Text) :
    lowerAt before character after = [character] := by
  simp only [isSteady, Bool.and_eq_true, bne_iff_ne, beq_iff_eq] at steady
  obtain ⟨⟨noSigma, noDotted⟩, same⟩ := steady
  rw [lowerAt, if_neg (by simpa using noSigma), if_neg (by simpa using noDotted),
    same]

theorem mem_lowerFrom {character : Char} (steady : isSteady character = true)
    {text : Text} (member : character ∈ text) (before : Text) :
    character ∈ lowerFrom before text := by
  induction text generalizing before with
  | nil => contradiction
  | cons first rest ih =>
      rw [lowerFrom, List.mem_append]
      rcases List.mem_cons.mp member with rfl | inRest
      · left
        rw [lowerAt_of_isSteady steady]
        exact List.mem_singleton_self _
      · exact Or.inr (ih inRest (first :: before))

theorem lowerFrom_append (before left right : Text) :
    ∃ lowered, lowerFrom before (left ++ right) =
      lowered ++ lowerFrom (left.reverse ++ before) right := by
  induction left generalizing before with
  | nil => exact ⟨[], rfl⟩
  | cons first left ih =>
      obtain ⟨lowered, later⟩ := ih (first :: before)
      refine ⟨lowerAt before first (left ++ right) ++ lowered, ?_⟩
      rw [List.cons_append, lowerFrom, later]
      simp

private theorem lowerFrom_append_of_isSteady {phrase : Text}
    (steady : phrase.all isSteady = true) (before after : Text) :
    ∃ later, lowerFrom before (phrase ++ after) =
      phrase ++ lowerFrom later after := by
  induction phrase generalizing before with
  | nil => exact ⟨before, rfl⟩
  | cons first phrase ih =>
      rw [List.all_cons, Bool.and_eq_true] at steady
      obtain ⟨later, lowered⟩ := ih steady.2 (first :: before)
      refine ⟨later, ?_⟩
      rw [List.cons_append, lowerFrom, lowered, lowerAt_of_isSteady steady.1]
      rfl

theorem lower_of_isSteady {text : Text} (steady : text.all isSteady = true) :
    lower text = text := by
  obtain ⟨later, lowered⟩ := lowerFrom_append_of_isSteady steady [] []
  rw [List.append_nil] at lowered
  rw [lower, lowered]
  exact List.append_nil text

theorem includes_lower {text phrase : Text}
    (steady : phrase.all isSteady = true)
    (included : includes text phrase = true) :
    includes (lower text) phrase = true := by
  rw [includes_iff] at included ⊢
  obtain ⟨left, right, rfl⟩ := included
  obtain ⟨lowered, before⟩ := lowerFrom_append [] left (phrase ++ right)
  obtain ⟨later, after⟩ := lowerFrom_append_of_isSteady steady
    (left.reverse ++ []) right
  refine ⟨lowered, lowerFrom later right, ?_⟩
  rw [lower, List.append_assoc left, before, after, List.append_assoc]

end CardQuery.Text
