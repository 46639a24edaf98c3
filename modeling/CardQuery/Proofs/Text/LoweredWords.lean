import CardQuery.Proofs.Text.Steady
import CardQuery.Proofs.Text.Words

/-!
# Words in small letters

Blanks have no case, and case does not look past them, so a blank keeps the
texts on its two sides apart when they are written in small letters.  No other
character becomes a blank.  The words of a text in small letters are therefore
its words in small letters.
-/

namespace CardQuery.Text

theorem inRanges_iff {ranges : List (Nat × Nat)} {character : Char} :
    inRanges ranges character = true ↔
      ∃ range ∈ ranges,
        range.1 ≤ character.toNat ∧ character.toNat ≤ range.2 := by
  simp [inRanges, List.any_eq_true]

/-- No code is in a range of the one table and in a range of the other. -/
def AreDisjoint (ranges others : List (Nat × Nat)) : Prop :=
  ∀ range ∈ ranges, ∀ other ∈ others, range.2 < other.1 ∨ other.2 < range.1

instance (ranges others : List (Nat × Nat)) :
    Decidable (AreDisjoint ranges others) :=
  inferInstanceAs (Decidable (∀ range ∈ ranges, ∀ other ∈ others,
    range.2 < other.1 ∨ other.2 < range.1))

theorem AreDisjoint.inRanges_eq_false {ranges others : List (Nat × Nat)}
    (disjoint : AreDisjoint ranges others) {character : Char}
    (inOne : inRanges ranges character = true) :
    inRanges others character = false := by
  rw [Bool.eq_false_iff]
  intro inOther
  obtain ⟨range, isRange, above, below⟩ := inRanges_iff.mp inOne
  obtain ⟨other, isOther, aboveOther, belowOther⟩ := inRanges_iff.mp inOther
  rcases disjoint range isRange other isOther with before | behind
  · omega
  · omega

/-- The closed ranges of the codes of blanks. -/
def blankRanges : List (Nat × Nat) := (0x1C, 0x1F) :: whiteSpaceRanges

/-- The codes that a run moves, and those that it moves them to. -/
def CaseRun.ranges (run : CaseRun) : List (Nat × Nat) :=
  [(run.first, run.last),
    ((run.first + run.shift).toNat, (run.last + run.shift).toNat)]

/-- The codes of what has another small form and of the small forms, together
with the code that stands for an impossible one. -/
def letterRanges : List (Nat × Nat) :=
  [(0x41, 0x5A), (0x61, 0x7A), (0x130, 0x130), (0x307, 0x307), (0x3A3, 0x3A3),
    (0x3C2, 0x3C3), (0, 0)] ++ smallRuns.flatMap CaseRun.ranges

private theorem letterRanges_disjoint : AreDisjoint letterRanges blankRanges :=
    by
  decide +kernel

private theorem blankRanges_disjoint :
    AreDisjoint blankRanges (casedRanges ++ caseIgnorableRanges) := by
  decide +kernel

theorem isBlank_eq_false_of_letter {character : Char}
    (letter : inRanges letterRanges character = true) :
    isBlank character = false :=
  letterRanges_disjoint.inRanges_eq_false letter

private theorem inRanges_letterRanges_of_run {run : CaseRun}
    (member : run ∈ smallRuns)
    {range : Nat × Nat} (isRange : range ∈ run.ranges) {character : Char}
    (within : range.1 ≤ character.toNat ∧ character.toNat ≤ range.2) :
    inRanges letterRanges character = true :=
  inRanges_iff.mpr ⟨range, List.mem_append_right _
    (List.mem_flatMap.mpr ⟨run, member, isRange⟩), within⟩

theorem toNat_ofNat_of_valid {code : Nat} (valid : code.isValidChar) :
    (Char.ofNat code).toNat = code := by
  rw [Char.ofNat, dif_pos valid]
  rfl

theorem ofNat_of_not_valid {code : Nat} (invalid : ¬ code.isValidChar) :
    Char.ofNat code = '\x00' := by
  rw [Char.ofNat, dif_neg invalid]
  rfl

/-- ASCII capitals become small letters, and nothing else changes. -/
theorem toLower_cases (character : Char) :
    (¬ (0x41 ≤ character.toNat ∧ character.toNat ≤ 0x5A) ∧
        character.toLower = character) ∨
      ((0x41 ≤ character.toNat ∧ character.toNat ≤ 0x5A) ∧
        character.toLower.toNat = character.toNat + 32) := by
  unfold Char.toLower
  split
  next bounds =>
    have lower : 65 ≤ character.toNat := UInt32.le_iff_toNat_le.mp bounds.1
    have upper : character.toNat ≤ 90 := UInt32.le_iff_toNat_le.mp bounds.2
    refine Or.inr ⟨⟨lower, upper⟩, ?_⟩
    change (character.val + ('a'.val - 'A'.val)).toNat = character.toNat + 32
    rw [UInt32.toNat_add, show ('a'.val - 'A'.val).toNat = 32 from rfl]
    change (character.toNat + 32) % 2 ^ 32 = character.toNat + 32
    omega
  next noCapital =>
    refine Or.inl ⟨fun bounds => noCapital ⟨?_, ?_⟩, rfl⟩
    · exact UInt32.le_iff_toNat_le.mpr bounds.1
    · exact UInt32.le_iff_toNat_le.mpr bounds.2

private theorem smallLetter_cases (character : Char) :
    smallLetter character = character ∨
      inRanges letterRanges character = true ∧
        inRanges letterRanges (smallLetter character) = true := by
  rw [smallLetter]
  split
  next =>
    rcases toLower_cases character with ⟨_, same⟩ | ⟨bounds, moved⟩
    · exact Or.inl same
    · right
      constructor
      · exact inRanges_iff.mpr ⟨(0x41, 0x5A), by decide, bounds⟩
      · refine inRanges_iff.mpr ⟨(0x61, 0x7A), by decide, ?_⟩
        rw [moved]
        dsimp only
        omega
  next =>
    rw [shiftCase]
    split
    next run found =>
      right
      have holds := List.find?_some found
      have member := List.mem_of_find?_eq_some found
      simp only [CaseRun.holds, Bool.and_eq_true, decide_eq_true_eq] at holds
      obtain ⟨⟨lower, upper⟩, _⟩ := holds
      constructor
      · exact inRanges_letterRanges_of_run member List.mem_cons_self
          ⟨lower, upper⟩
      · by_cases valid : (character.toNat + run.shift).toNat.isValidChar
        · refine inRanges_letterRanges_of_run member
            (List.mem_cons_of_mem _ List.mem_cons_self) ?_
          rw [toNat_ofNat_of_valid valid]
          dsimp only
          omega
        · rw [ofNat_of_not_valid valid]
          decide
    next => exact Or.inl rfl

theorem isSteady_of_isBlank {character : Char}
    (blank : isBlank character = true) : isSteady character = true := by
  have noLetter : ¬ inRanges letterRanges character = true := by
    intro letter
    rw [isBlank_eq_false_of_letter letter] at blank
    cases blank
  have noSigma : character ≠ 'Σ' := by
    rintro rfl
    exact noLetter (by decide)
  have noDotted : character ≠ 'İ' := by
    rintro rfl
    exact noLetter (by decide)
  have same : smallLetter character = character :=
    (smallLetter_cases character).resolve_right fun letter => noLetter letter.1
  simp [isSteady, noSigma, noDotted, same]

/-- No character becomes a blank. -/
theorem isBlank_of_mem_lowerAt {before after : Text} {character small : Char}
    (noBlank : isBlank character = false)
    (member : small ∈ lowerAt before character after) :
    isBlank small = false := by
  rw [lowerAt] at member
  split at member
  · rw [List.mem_singleton.mp member]
    split <;> decide
  · split at member
    · simp only [List.mem_cons, List.not_mem_nil, or_false] at member
      rcases member with rfl | rfl <;> decide
    · rw [List.mem_singleton.mp member]
      rcases smallLetter_cases character with same | ⟨_, letter⟩
      · rw [same]
        exact noBlank
      · exact isBlank_eq_false_of_letter letter

theorem exists_mem_lowerAt {text : Text} {small : Char}
    (member : small ∈ lower text) :
    ∃ before character after, character ∈ text ∧
      small ∈ lowerAt before character after := by
  rw [lower] at member
  generalize [] = before at member
  induction text generalizing before with
  | nil => cases member
  | cons first rest ih =>
      rw [lowerFrom, List.mem_append] at member
      rcases member with ofFirst | ofRest
      · exact ⟨before, first, rest, List.mem_cons_self, ofFirst⟩
      · obtain ⟨earlier, character, after, isIn, found⟩ := ih _ ofRest
        exact ⟨earlier, character, after, List.mem_cons_of_mem _ isIn, found⟩

private theorem isBlank_of_mem_lower {text : Text}
    (noBlank : ∀ character ∈ text, isBlank character = false) :
    ∀ small ∈ lower text, isBlank small = false := by
  intro small member
  obtain ⟨_, character, _, isIn, found⟩ := exists_mem_lowerAt member
  exact isBlank_of_mem_lowerAt (noBlank character isIn) found

theorem lowerAt_ne_nil (before : Text) (character : Char) (after : Text) :
    lowerAt before character after ≠ [] := by
  rw [lowerAt]
  split
  · exact List.cons_ne_nil _ _
  · split <;> exact List.cons_ne_nil _ _

theorem lower_ne_nil {text : Text} (nonempty : text ≠ []) :
    lower text ≠ [] := by
  obtain ⟨first, rest, rfl⟩ := List.exists_cons_of_ne_nil nonempty
  exact List.append_ne_nil_of_left_ne_nil (lowerAt_ne_nil [] first rest) _

section AroundBlank

variable {blank : Char} (isBlank : isBlank blank = true)

include isBlank

private theorem meetsCased_append_blank (near far : Text) :
    meetsCased (near ++ blank :: far) = meetsCased near := by
  have noCase := blankRanges_disjoint.inRanges_eq_false isBlank
  rw [inRanges, List.any_append, Bool.or_eq_false_iff] at noCase
  obtain ⟨notCased, notIgnorable⟩ := noCase
  induction near with
  | nil =>
      rw [meetsCased, meetsCased, List.nil_append, List.dropWhile_cons_of_neg]
      · exact notCased
      · exact Bool.eq_false_iff.mp notIgnorable
  | cons first near ih =>
      rw [meetsCased, meetsCased] at ih ⊢
      rw [List.cons_append, List.dropWhile_cons, List.dropWhile_cons]
      split
      · exact ih
      · rfl

private theorem lowerAt_append_blank (before near far : Text)
    (character : Char) :
    lowerAt before character (near ++ blank :: far) =
      lowerAt before character near := by
  rw [lowerAt, lowerAt, meetsCased_append_blank isBlank]

private theorem lowerFrom_behind_blank (near far text : Text) :
    lowerFrom (near ++ blank :: far) text = lowerFrom near text := by
  induction text generalizing near with
  | nil => rfl
  | cons first rest ih =>
      rw [lowerFrom, lowerFrom, ← List.cons_append, ih, lowerAt, lowerAt,
        meetsCased_append_blank isBlank]

/-- What stands before a blank and what stands behind it are written in small
letters each for itself. -/
theorem lower_append_blank (text after : Text) :
    lower (text ++ blank :: after) = lower text ++ blank :: lower after := by
  have fromBefore : ∀ before, lowerFrom before (text ++ blank :: after) =
      lowerFrom before text ++ blank :: lower after := by
    induction text with
    | nil =>
        intro before
        change lowerAt before blank after ++
          lowerFrom (blank :: before) after = blank :: lowerFrom [] after
        rw [lowerAt_of_isSteady (isSteady_of_isBlank isBlank)]
        exact congrArg (blank :: ·)
          (lowerFrom_behind_blank isBlank [] before after)
    | cons first rest ih =>
        intro before
        rw [List.cons_append, lowerFrom, lowerFrom, ih,
          lowerAt_append_blank isBlank, List.append_assoc]
  exact fromBefore []

end AroundBlank

private theorem noBlank_or_exists_first (text : Text) :
    (∀ character ∈ text, isBlank character = false) ∨
      ∃ word blank after, text = word ++ blank :: after ∧
        (∀ character ∈ word, isBlank character = false) ∧
        isBlank blank = true := by
  induction text with
  | nil => exact Or.inl (List.forall_mem_nil _)
  | cons first rest ih =>
      cases isFirst : isBlank first with
      | true =>
          exact Or.inr ⟨[], first, rest, rfl, List.forall_mem_nil _, isFirst⟩
      | false =>
          rcases ih with none | ⟨word, blank, after, rfl, noBlank, isBlank⟩
          · exact Or.inl (List.forall_mem_cons.mpr ⟨isFirst, none⟩)
          · exact Or.inr ⟨first :: word, blank, after, rfl,
              List.forall_mem_cons.mpr ⟨isFirst, noBlank⟩, isBlank⟩

private theorem words_lower_of_noBlank {text : Text}
    (noBlank : ∀ character ∈ text, isBlank character = false) :
    words (lower text) = (words text).map lower := by
  by_cases nonempty : text = []
  · rw [nonempty]
    rfl
  · rw [words_of_noBlank nonempty noBlank, words_of_noBlank
      (lower_ne_nil nonempty) (isBlank_of_mem_lower noBlank)]
    rfl

theorem words_lower (text : Text) :
    words (lower text) = (words text).map lower := by
  rcases noBlank_or_exists_first text with
    noBlank | ⟨word, blank, after, split, noBlank, isBlank⟩
  · exact words_lower_of_noBlank noBlank
  · have shorter : after.length < text.length := by
      simp [split]
      omega
    rw [split, lower_append_blank isBlank, words_append_of_blank isBlank,
      words_append_of_blank isBlank, words_lower_of_noBlank noBlank,
      words_lower after, List.map_append]
termination_by text.length

end CardQuery.Text
