import CardQuery.Proofs.Operator.Marks
import CardQuery.Proofs.Origin
import CardQuery.Proofs.Text.SmallLetters

/-!
# Values without blanks

Blanks are no marks that values are written with, so an accepted value of a
grammar that describes a shape holds no blank but the line feed that may end it.
This line feed is the only thing that comes between such a grammar and the
shape: a set code is refused exactly if the small form of its line is not two to
five letters and digits.
-/

namespace CardQuery

namespace Text

/-- The closed ranges of the codes of digits. -/
def digitRanges : List (Nat × Nat) :=
  zeroDigits.map fun start => (start, start + 9)

private theorem digitRanges_disjoint : AreDisjoint digitRanges blankRanges := by
  decide +kernel

private theorem inRanges_digitRanges {character : Char}
    (digit : isDigit character = true) :
    inRanges digitRanges character = true := by
  obtain ⟨value, found⟩ := Option.isSome_iff_exists.mp digit
  rw [digitValue?, List.findSome?_eq_some_iff] at found
  obtain ⟨_, start, _, isStart, inRun, _⟩ := found
  have member : start ∈ zeroDigits := by
    rw [isStart]
    exact List.mem_append_right _ List.mem_cons_self
  split at inRun
  next bounds =>
    rw [Bool.and_eq_true, decide_eq_true_eq, decide_eq_true_eq] at bounds
    exact inRanges_iff.mpr
      ⟨(start, start + 9), List.mem_map_of_mem member, bounds⟩
  next => cases inRun

private theorem isBlank_eq_false_of_isDigit {character : Char}
    (digit : isDigit character = true) : isBlank character = false :=
  digitRanges_disjoint.inRanges_eq_false (inRanges_digitRanges digit)

end Text

namespace Grammar

private theorem isBlank_eq_false_of_isMark {character : Char}
    (mark : isMark character = true) : Text.isBlank character = false := by
  simp only [isMark, Bool.or_eq_true] at mark
  rcases mark with (digit | letter) | sign
  · exact Text.isBlank_eq_false_of_isDigit digit
  · apply Text.isBlank_eq_false_of_letter
    change (character.isUpper || character.isLower) = true at letter
    rw [Bool.or_eq_true, Text.isUpper_iff, Text.isLower_iff] at letter
    rcases letter with capital | small
    · exact Text.inRanges_iff.mpr ⟨(0x41, 0x5A), by decide, capital⟩
    · exact Text.inRanges_iff.mpr ⟨(0x61, 0x7A), by decide, small⟩
  · have noBlank : ("+-.*/\x7b\x7d★".toList.all fun character =>
        !Text.isBlank character) = true := by
      decide
    have isSign := List.all_eq_true.mp noBlank character
      (List.contains_iff_mem.mp sign)
    rwa [Bool.not_eq_true'] at isSign

/-- A marked line holds no blank. -/
theorem IsLineMarked.noBlank {value : Text} (marked : IsLineMarked value) :
    ∀ character ∈ line value, Text.isBlank character = false :=
  marked.eq_false (fun _ => Text.isSteady_of_isBlank)
    fun _ => isBlank_eq_false_of_isMark

/-- A value is its line if no blank ends it. -/
theorem noBlank_iff_of_line {value : Text}
    (noBlank : ∀ character ∈ line value, Text.isBlank character = false) :
    (∀ character ∈ value, Text.isBlank character = false) ↔
      value.getLast? ≠ some '\n' := by
  constructor
  · intro none feed
    have isBlank := none '\n' (List.mem_of_getLast? feed)
    revert isBlank
    decide
  · intro noFeed
    rwa [line_of_getLast? noFeed] at noBlank

/-- Whether the grammar describes the shape that its values have. -/
def isPattern : Grammar → Bool
  | manaCost | number _ | powerToughness | loyalty | setCode
  | collectorNumber | year => true
  | text | color | rarity | format | choice _ _ => false

/-- A set code is two to five letters or digits in small letters. -/
theorem isSetCode_lower_iff {text : Text} :
    isSetCode (Text.lower text) = true ↔
      2 ≤ (Text.lower text).length ∧ (Text.lower text).length ≤ 5 ∧
        ∀ character ∈ Text.lower text, character.isAlphanum = true := by
  have sameClass : ∀ character ∈ Text.lower text,
      (character.isLower || character.isDigit) = character.isAlphanum := by
    intro character member
    change _ = (character.isUpper || character.isLower || character.isDigit)
    rw [Text.isUpper_of_mem_lower member, Bool.false_or]
  rw [isSetCode, Bool.and_eq_true, Bool.and_eq_true, decide_eq_true_eq,
    decide_eq_true_eq, and_assoc, List.all_eq_true]
  refine and_congr_right fun _ => and_congr_right fun _ => ?_
  exact forall₂_congr fun character member => by rw [sameClass character member]

private theorem checkSetCode_iff {value : Text} {sign : Option Text} :
    (∀ issue ∈ (checkSetCode value sign).errors,
        issue.code ≠ .invalidSetCode) ↔
      isSetCode (line (Text.lower value)) = true := by
  have ofSign : ∀ issue ∈ refuseInequality "set" sign,
      issue.code ≠ .invalidSetCode := by
    intro issue member
    rw [code_of_mem_refuseInequality member]
    decide
  simp only [checkSetCode, List.forall_mem_append, ValueCheck.require]
  rw [and_iff_right ofSign]
  split
  next isCode => simp [ValueCheck.clean, isCode]
  next notCode => simp [ValueCheck.refused, notCode]

/-- An accepted value of a described shape holds no blank but a line feed at its
end.  A value is a set code exactly if its line in small letters is two to five
letters and digits. -/
theorem accepted_isUnspaced_iff (grammar : Grammar) (value : Text)
    (sign : Option Text) :
    (grammar.isPattern = true → (grammar.check value sign).errors = [] →
      (∀ character ∈ line value, Text.isBlank character = false) ∧
      ((∀ character ∈ value, Text.isBlank character = false) ↔
        value.getLast? ≠ some '\n')) ∧
    ((∀ issue ∈ (setCode.check value sign).errors,
        issue.code ≠ .invalidSetCode) ↔
      2 ≤ (Text.lower (line value)).length ∧
        (Text.lower (line value)).length ≤ 5 ∧
        ∀ character ∈ Text.lower (line value),
          character.isAlphanum = true) := by
  constructor
  · intro isPattern accepted
    have notText : grammar ≠ .text := by
      rintro rfl
      cases isPattern
    have notChoice : ∀ name values, grammar ≠ .choice name values := by
      rintro name values rfl
      cases isPattern
    have noBlank :=
      (isLineMarked_of_accepted notText notChoice accepted).noBlank
    exact ⟨noBlank, noBlank_iff_of_line noBlank⟩
  · rw [check, checkSetCode_iff, line_lower, isSetCode_lower_iff]

/-- A price with a sign and a fraction is accepted and holds no blank. -/
theorem accepted_isUnspaced_iff_price :
    ((number "usd").check "+.5" (some "<=")).errors = [] ∧
      ∀ character ∈ "+.5".toList, Text.isBlank character = false := by
  have accepted : ((number "usd").check "+.5" (some "<=")).errors = [] := by
    decide +kernel
  exact ⟨accepted, ((accepted_isUnspaced_iff _ _ _).1 rfl accepted).2.mpr
    (by decide)⟩

/-- Every grammar that describes a shape takes a line feed behind its values. -/
theorem not_accepted_isUnspaced_feed :
    (∀ entry ∈ [(manaCost, "2WW\n".toList), (number "usd", "5\n".toList),
        (powerToughness, "3\n".toList), (loyalty, "4\n".toList),
        (setCode, "neo\n".toList), (collectorNumber, "12a\n".toList),
        (year, "2020\n".toList)],
      entry.1.isPattern = true ∧ (entry.1.check entry.2 none).errors = [] ∧
        ¬ ∀ character ∈ entry.2, Text.isBlank character = false) ∧
    ¬ ∀ character ∈ Text.lower "neo\n", character.isAlphanum = true := by
  have holdsBlank {value : Text} (feed : '\n' ∈ value) :
      ¬ ∀ character ∈ value, Text.isBlank character = false := by
    intro noBlank
    have blank : Text.isBlank '\n' = true := by decide
    exact absurd (noBlank '\n' feed) (by simp [blank])
  constructor
  · simp only [List.forall_mem_cons, List.not_mem_nil, false_implies,
      implies_true, and_true]
    refine ⟨⟨rfl, ?_, holdsBlank ?_⟩, ⟨rfl, ?_, holdsBlank ?_⟩,
      ⟨rfl, ?_, holdsBlank ?_⟩, ⟨rfl, ?_, holdsBlank ?_⟩,
      ⟨rfl, ?_, holdsBlank ?_⟩, ⟨rfl, ?_, holdsBlank ?_⟩,
      ⟨rfl, ?_, holdsBlank ?_⟩⟩
    all_goals decide +kernel
  · intro letters
    have feed : '\n' ∈ Text.lower "neo\n" := by decide +kernel
    exact absurd (letters '\n' feed) (by decide)

end Grammar

end CardQuery
