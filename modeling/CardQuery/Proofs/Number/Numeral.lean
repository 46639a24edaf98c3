import CardQuery.Number.Numeral
import CardQuery.Proofs.Number.Whole

/-!
# The shape of a numeral

Reading a numeral tries its cases on the text that is left.  The rules here say
which texts are numerals without that order, and every text of this shape has a
value: no digit is refused once the shape has been found.
-/

namespace CardQuery.Numeral

/-- The text is one or more digits, or one or more digits behind a point with
digits or nothing before it. -/
inductive IsUnsigned : Text → Prop where
  | whole {digits : Text} : digits ≠ [] →
      (∀ character ∈ digits, Text.isDigit character = true) →
      IsUnsigned digits
  | fraction {digits decimals : Text} :
      (∀ character ∈ digits, Text.isDigit character = true) →
      decimals ≠ [] →
      (∀ character ∈ decimals, Text.isDigit character = true) →
      IsUnsigned (digits ++ '.' :: decimals)

/-- The text has the shape of a numeral. -/
inductive HasShape : Text → Prop where
  | unsigned {text : Text} : IsUnsigned text → HasShape text
  | negative {text : Text} : IsUnsigned text → HasShape ('-' :: text)
  | positive {text : Text} : IsUnsigned text → HasShape ('+' :: text)

theorem isDigits_iff {text : Text} :
    isDigits text = true ↔
      text ≠ [] ∧ ∀ character ∈ text, Text.isDigit character = true := by
  simp [isDigits]

private theorem isUnsigned_iff {text : Text} :
    IsUnsigned text ↔
      match text.dropWhile Text.isDigit with
      | [] => text.takeWhile Text.isDigit ≠ []
      | point :: decimals => point = '.' ∧ isDigits decimals = true := by
  constructor
  · intro shape
    cases shape with
    | whole nonempty digits =>
        rw [List.dropWhile_eq_nil_iff.mpr digits,
          List.takeWhile_eq_self_iff.mpr digits]
        exact nonempty
    | @fraction digits decimals isWhole nonempty isDecimals =>
        have behind : (digits ++ '.' :: decimals).dropWhile Text.isDigit =
            '.' :: decimals := by
          rw [List.dropWhile_append_of_pos isWhole,
            List.dropWhile_cons_of_neg (by decide)]
        rw [behind]
        exact ⟨rfl, isDigits_iff.mpr ⟨nonempty, isDecimals⟩⟩
  · intro found
    have split := List.takeWhile_append_dropWhile (p := Text.isDigit) (l := text)
    have isWhole : ∀ character ∈ text.takeWhile Text.isDigit,
        Text.isDigit character = true := fun _ => List.mem_takeWhile_imp
    cases behind : text.dropWhile Text.isDigit with
    | nil =>
        rw [behind] at found split
        rw [← split, List.append_nil]
        exact .whole found isWhole
    | cons point decimals =>
        rw [behind] at found split
        obtain ⟨rfl, isDecimals⟩ := found
        obtain ⟨nonempty, isDecimals⟩ := isDigits_iff.mp isDecimals
        rw [← split]
        exact .fraction isWhole nonempty isDecimals

private theorem IsUnsigned.readSign {text : Text} (shape : IsUnsigned text) :
    Numeral.readSign text = (false, text) := by
  have noSign (sign : Char) (rest : Text)
      (noDigit : Text.isDigit sign = false) (noPoint : sign ≠ '.') :
      text ≠ sign :: rest := by
    rintro rfl
    have found := isUnsigned_iff.mp shape
    rw [List.dropWhile_cons_of_neg (by simp [noDigit])] at found
    exact noPoint found.1
  unfold Numeral.readSign
  split
  · exact absurd rfl (noSign '-' _ (by decide) (by decide))
  · exact absurd rfl (noSign '+' _ (by decide) (by decide))
  · rfl

private theorem hasShape_iff {text : Text} :
    HasShape text ↔ IsUnsigned (readSign text).2 := by
  constructor
  · intro shape
    cases shape with
    | unsigned body =>
        rw [body.readSign]
        exact body
    | negative body => exact body
    | positive body => exact body
  · intro body
    unfold readSign at body
    split at body
    · exact .negative body
    · exact .positive body
    · exact .unsigned body

private theorem exists_digitsValue? {text : Text}
    (digits : ∀ character ∈ text, Text.isDigit character = true) :
    ∃ number, Text.digitsValue? text = some number :=
  Option.isSome_iff_exists.mp (Text.digitsValue?_isSome digits)

theorem read?_isSome_iff {text : Text} :
    (read? text).isSome = true ↔ HasShape text := by
  rw [hasShape_iff, isUnsigned_iff, read?]
  obtain ⟨sign, body⟩ := readSign text
  have isWhole : ∀ character ∈ body.takeWhile Text.isDigit,
      Text.isDigit character = true := fun _ => List.mem_takeWhile_imp
  dsimp only
  cases body.dropWhile Text.isDigit with
  | nil =>
      obtain ⟨number, value⟩ := exists_digitsValue? isWhole
      simp [value]
  | cons point decimals =>
      dsimp only
      split
      next shape =>
        obtain ⟨isPoint, isDecimals⟩ := Bool.and_eq_true_iff.mp shape
        have digits : ∀ character ∈
            body.takeWhile Text.isDigit ++ decimals,
            Text.isDigit character = true := fun character member =>
          (List.mem_append.mp member).elim (isWhole character)
            ((isDigits_iff.mp isDecimals).2 character)
        obtain ⟨number, value⟩ := exists_digitsValue? digits
        simpa [value, isDecimals] using isPoint
      next noShape => simpa using noShape

end CardQuery.Numeral
