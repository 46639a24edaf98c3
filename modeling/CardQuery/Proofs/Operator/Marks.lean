import CardQuery.Proofs.Operator.Shape
import CardQuery.Proofs.Text.LoweredWords

/-!
# What values are written with

Apart from free text and from choices, whose words are given, a grammar accepts
values that are written with digits of any script, Latin letters and a few
signs.  Some grammars ask this of a value as it is and some of its small form,
and the line feed that may end a value is left out of the question.  A class of
characters that are no such marks and have no case is therefore not to be found
in the line of an accepted value, whichever way its grammar reads it.
-/

namespace CardQuery

namespace Text

theorem lower_concat (front : Text) (last : Char) :
    ∃ lowered before,
      lower (front ++ [last]) = lowered ++ lowerAt before last [] := by
  obtain ⟨lowered, whole⟩ := lowerFrom_append [] front [last]
  refine ⟨lowered, front.reverse ++ [], ?_⟩
  rw [lower, whole, lowerFrom, lowerFrom, List.append_nil]

private theorem getLast?_lower_eq_feed_iff {text : Text} :
    (lower text).getLast? = some '\n' ↔ text.getLast? = some '\n' := by
  rcases List.eq_nil_or_concat text with rfl | ⟨front, last, rfl⟩
  · rfl
  · obtain ⟨lowered, before, whole⟩ := lower_concat front last
    rw [List.concat_eq_append, List.getLast?_concat, whole]
    constructor
    · intro feed
      by_cases blank : isBlank last = true
      · rw [lowerAt_of_isSteady (isSteady_of_isBlank blank),
          List.getLast?_concat] at feed
        exact feed
      · have isLast :=
          List.getLast?_eq_some_getLast (lowerAt_ne_nil before last [])
        rw [List.getLast?_append, isLast, Option.some_or, ← isLast] at feed
        have noBlank : isBlank '\n' = false :=
          isBlank_of_mem_lowerAt (Bool.eq_false_iff.mpr blank)
            (List.mem_of_getLast? feed)
        exact absurd noBlank (by decide)
    · intro feed
      rw [Option.some.inj feed, lowerAt_of_isSteady (by decide),
        List.getLast?_concat]

end Text

namespace Grammar

private theorem line_concat_feed (front : Text) : line (front ++ ['\n']) =
    front := by
  simp [line]

theorem line_of_getLast? {value : Text} (noFeed : value.getLast? ≠ some '\n') :
    line value = value :=
  if_neg noFeed

theorem line_lower (value : Text) :
    line (Text.lower value) = Text.lower (line value) := by
  by_cases feed : value.getLast? = some '\n'
  · obtain ⟨front, rfl⟩ := List.getLast?_eq_some_iff.mp feed
    rw [line_concat_feed, Text.lower_append_blank (by decide)]
    exact line_concat_feed _
  · rw [line_of_getLast? feed, line_of_getLast?]
    rwa [Ne, Text.getLast?_lower_eq_feed_iff]

/-- Whether values are written with the character. -/
def isMark (character : Char) : Bool :=
  Text.isDigit character || character.isAlpha ||
    "+-.*/\x7b\x7d★".toList.contains character

/-- The text is written with marks of values alone. -/
def IsMarked (text : Text) : Prop :=
  ∀ character ∈ text, isMark character = true

private theorem isMark_of_isDigit {character : Char}
    (digit : Text.isDigit character = true) : isMark character = true := by
  simp [isMark, digit]

private theorem isMark_of_isAlphanum {character : Char}
    (alphanum : character.isAlphanum = true) : isMark character = true := by
  rcases Bool.or_eq_true_iff.mp alphanum with letter | digit
  · simp [isMark, letter]
  · exact isMark_of_isDigit (Text.isDigit_of_isDigit digit)

private theorem isMark_of_mem {characters : Text} {character : Char}
    (marks : characters.all isMark = true) (member : character ∈ characters) :
    isMark character = true :=
  List.all_eq_true.mp marks character member

private theorem isMark_of_isBracedMana {character : Char}
    (mana : isBracedMana character = true) : isMark character = true := by
  simp only [isBracedMana, isManaLetter, Bool.or_eq_true, beq_iff_eq] at mana
  rcases mana with ((digit | letter) | rfl) | rfl
  · exact isMark_of_isDigit (Text.isDigit_of_isDigit digit)
  · exact isMark_of_mem (by decide) (List.contains_iff_mem.mp letter)
  · decide
  · decide

namespace IsMarked

variable {text : Text}

private theorem of_isDigit
    (digits : ∀ character ∈ text, Text.isDigit character = true) :
    IsMarked text :=
  fun character member => isMark_of_isDigit (digits character member)

private theorem of_hasShape (shape : Numeral.HasShape text) : IsMarked text :=
    by
  intro character member
  rcases shape.isDigit_or_mem member with digit | sign
  · exact isMark_of_isDigit digit
  · exact isMark_of_mem (by decide) sign

private theorem of_readSign (marked : IsMarked (Numeral.readSign text).2) :
    IsMarked text := by
  unfold Numeral.readSign at marked
  split at marked
  · exact List.forall_mem_cons.mpr ⟨by decide, marked⟩
  · exact List.forall_mem_cons.mpr ⟨by decide, marked⟩
  · exact marked

private theorem of_dropWhile (marked : IsMarked (text.dropWhile Text.isDigit)) :
    IsMarked text := by
  rw [← List.takeWhile_append_dropWhile (p := Text.isDigit) (l := text)]
  intro character member
  rcases List.mem_append.mp member with isWhole | isRest
  · exact isMark_of_isDigit (List.mem_takeWhile_imp isWhole)
  · exact marked character isRest

private theorem of_isPowerToughness (isStat : isPowerToughness text = true) :
    IsMarked text := by
  simp only [isPowerToughness, Bool.or_eq_true, Bool.and_eq_true, beq_iff_eq,
    List.isEmpty_iff] at isStat
  rcases isStat with ((rfl | rfl) | rfl) | ⟨_, fraction⟩
  · exact List.forall_mem_singleton.mpr (by decide)
  · exact List.forall_mem_singleton.mpr (by decide)
  · exact List.forall_mem_singleton.mpr (by decide)
  · apply of_readSign
    apply of_dropWhile
    rcases fraction with none | half
    · rw [none]
      exact List.forall_mem_nil _
    · rw [half]
      exact fun character => isMark_of_mem (by decide)

private theorem of_completesMana {braced : Option Bool}
    (completes : completesMana braced text = true) : IsMarked text := by
  induction text generalizing braced with
  | nil => exact List.forall_mem_nil _
  | cons first rest ih =>
      rw [IsMarked, List.forall_mem_cons]
      cases braced with
      | none =>
          rw [completesMana] at completes
          split at completes
          next opening => exact ⟨by rw [opening]; decide, ih completes⟩
          next =>
            obtain ⟨letter, later⟩ := Bool.and_eq_true_iff.mp completes
            exact ⟨isMark_of_isBracedMana (by simp [isBracedMana, letter]),
              ih later⟩
      | some filled =>
          rw [completesMana] at completes
          split at completes
          next closing =>
            exact ⟨by rw [closing]; decide,
              ih (Bool.and_eq_true_iff.mp completes).2⟩
          next =>
            obtain ⟨mana, later⟩ := Bool.and_eq_true_iff.mp completes
            exact ⟨isMark_of_isBracedMana mana, ih later⟩

private theorem of_isSetCode (isCode : isSetCode text = true) : IsMarked text
    := by
  rw [isSetCode, Bool.and_eq_true, List.all_eq_true] at isCode
  intro character member
  rcases Bool.or_eq_true_iff.mp (isCode.2 character member) with small | digit
  · have letter : character.isAlpha = true :=
      Bool.or_eq_true_iff.mpr (Or.inr small)
    simp [isMark, letter]
  · exact isMark_of_isDigit (Text.isDigit_of_isDigit digit)

private theorem of_isCollectorNumber (isNumber : isCollectorNumber text = true)
    :
    IsMarked text := by
  rw [isCollectorNumber, Bool.and_eq_true, List.all_eq_true] at isNumber
  intro character member
  have marks := isNumber.2 character member
  simp only [Bool.or_eq_true, beq_iff_eq] at marks
  rcases marks with ((alphanum | rfl) | rfl) | rfl
  · exact isMark_of_isAlphanum alphanum
  · decide
  · decide
  · decide

private theorem of_mem {words : List Text} {word : Text}
    (letters : ∀ word ∈ words, word.all Char.isAlphanum = true)
    (member : word ∈ words) : IsMarked word :=
  fun character inside =>
    isMark_of_isAlphanum (List.all_eq_true.mp (letters word member) character
      inside)

end IsMarked

private theorem holds_of_require {holds : Bool} {code : Code} {message : Text}
    (accepted : (ValueCheck.require holds code message).errors = []) :
    holds = true := by
  cases holds with
  | true => rfl
  | false => cases accepted

theorem mem_of_checkWord {words : List Text} {code : Code}
    {value message : Text} (accepted : checkWord words code value message = []) :
    Text.lower value ∈ words := by
  simp only [checkWord] at accepted
  split at accepted
  next member => exact List.contains_iff_mem.mp member
  next => cases accepted

private theorem isMarked_lower_of_isStatName {value : Text}
    (isStat : isStatName value = true) : IsMarked (Text.lower value) :=
  .of_mem (by decide) (List.contains_iff_mem.mp isStat)

private theorem isMarked_lower_of_checkColor {value : Text}
    (accepted : (checkColor value).errors = []) :
    IsMarked (Text.lower value) := by
  simp only [checkColor] at accepted
  split at accepted
  next named =>
    simp only [Bool.or_eq_true, beq_iff_eq, List.contains_iff_mem] at named
    rcases named with (name | colorless) | multicolor
    · exact .of_mem (by decide) name
    · rw [colorless]
      exact List.forall_mem_singleton.mpr (by decide)
    · rw [multicolor]
      exact List.forall_mem_singleton.mpr (by decide)
  next =>
    split at accepted
    next => cases accepted
    next letters =>
      rw [Bool.or_eq_true, not_or, Bool.not_eq_true', Bool.not_eq_false,
        List.all_eq_true] at letters
      exact fun character member => isMark_of_mem (by decide)
        (List.contains_iff_mem.mp (letters.2 character member))

private theorem isMarked_lower_of_checkRarity {value : Text}
    (accepted : (checkRarity value).errors = []) :
    IsMarked (Text.lower value) := by
  simp only [checkRarity] at accepted
  split at accepted
  next named =>
    simp only [Bool.or_eq_true, List.contains_iff_mem] at named
    rcases named with name | letter
    · exact .of_mem (by decide) name
    · exact .of_mem (by decide) letter
  next => cases accepted

/-- The line of a value or its small form is marked. -/
def IsLineMarked (value : Text) : Prop :=
  IsMarked (line value) ∨ IsMarked (Text.lower (line value))

private theorem IsLineMarked.of_lower {value : Text}
    (marked : IsMarked (Text.lower value)) : IsLineMarked value := by
  right
  rw [← line_lower, line_of_getLast?]
  · exact marked
  · intro feed
    have isFeed := marked '\n' (List.mem_of_getLast? feed)
    revert isFeed
    decide

/-- All grammars but those of free text and of choices accept marked values
alone. -/
theorem isLineMarked_of_accepted {grammar : Grammar} {value : Text}
    {sign : Option Text} (notText : grammar ≠ .text)
    (notChoice : ∀ name values, grammar ≠ .choice name values)
    (accepted : (grammar.check value sign).errors = []) :
    IsLineMarked value := by
  cases grammar with
  | text => contradiction
  | choice name values => exact absurd rfl (notChoice name values)
  | color => exact .of_lower (isMarked_lower_of_checkColor accepted)
  | rarity => exact .of_lower (isMarked_lower_of_checkRarity accepted)
  | format =>
      have member := mem_of_checkWord (List.append_eq_nil_iff.mp accepted).2
      exact .of_lower (.of_mem (by decide) member)
  | manaCost =>
      have isCost := holds_of_require accepted
      rw [isManaCost, Bool.and_eq_true, line_lower] at isCost
      exact Or.inr (.of_completesMana isCost.2)
  | setCode =>
      have isCode := holds_of_require (List.append_eq_nil_iff.mp accepted).2
      rw [line_lower] at isCode
      exact Or.inr (.of_isSetCode isCode)
  | number operator =>
      rcases checkNumber_errors_eq_nil_iff.mp accepted with isStat | shape
      · exact .of_lower (isMarked_lower_of_isStatName isStat)
      · exact Or.inl (.of_hasShape shape)
  | powerToughness =>
      rcases Bool.or_eq_true_iff.mp (holds_of_require accepted) with
        isStat | isNumber
      · exact .of_lower (isMarked_lower_of_isStatName isStat)
      · exact Or.inl (.of_isPowerToughness isNumber)
  | loyalty =>
      have loyal := holds_of_require accepted
      simp only [Bool.or_eq_true, beq_iff_eq] at loyal
      left
      rcases loyal with (small | capital) | digits
      · rw [small]
        exact List.forall_mem_singleton.mpr (by decide)
      · rw [capital]
        exact List.forall_mem_singleton.mpr (by decide)
      · exact .of_isDigit (Numeral.isDigits_iff.mp digits).2
  | collectorNumber =>
      exact Or.inl (.of_isCollectorNumber (holds_of_require accepted))
  | year =>
      exact Or.inl (.of_isDigit (checkYear_errors_eq_nil_iff.mp accepted).2)

theorem IsLineMarked.eq_false {value : Text} (marked : IsLineMarked value)
    {holds : Char → Bool}
    (steady : ∀ character, holds character = true →
      Text.isSteady character = true)
    (unmarked : ∀ character, isMark character = true →
      holds character = false) :
    ∀ character ∈ line value, holds character = false := by
  intro character member
  rw [Bool.eq_false_iff]
  intro isHeld
  have among : isMark character = true := by
    rcases marked with asWritten | small
    · exact asWritten character member
    · exact small character (Text.mem_lowerFrom (steady character isHeld) member [])
  rw [unmarked character among] at isHeld
  cases isHeld

end Grammar

end CardQuery
