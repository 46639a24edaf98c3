import CardQuery.Proofs.Text.LoweredWords

/-!
# Small letters stay small

The characters with another small form lie in runs of codes, and the runs of
their small forms are apart from all of these: either they lie elsewhere, or
small and capital letters alternate.  A small form is therefore its own small
form, wherever it stands.
-/

namespace CardQuery.Text

def asciiCapitals : CaseRun := ⟨0x41, 0x5A, 1, 32⟩

/-- The runs of all characters that have another small form. -/
def capitals : List CaseRun := asciiCapitals :: smallRuns

/-- Whether the character has another small form. -/
def isCapital (character : Char) : Bool :=
  capitals.any (·.holds character.toNat)

/-- The run of the small forms. -/
def CaseRun.moved (run : CaseRun) : CaseRun :=
  ⟨(run.first + run.shift).toNat, (run.last + run.shift).toNat, run.step,
    -run.shift⟩

/-- One of the runs lies before the other, or their codes alternate. -/
def CaseRun.isApart (run other : CaseRun) : Bool :=
  Nat.blt run.last other.first || Nat.blt other.last run.first ||
    ((run.step == 2 || run.first == run.last) && other.step == 2 &&
      (run.first + other.first) % 2 == 1)

private theorem CaseRun.holds_iff {run : CaseRun} {code : Nat} :
    run.holds code = true ↔
      run.first ≤ code ∧ code ≤ run.last ∧ (code - run.first) % run.step = 0 := by
  simp [CaseRun.holds, and_assoc]

private theorem CaseRun.holds_moved {run : CaseRun}
    (positive : 0 < run.first + run.shift)
    {code : Nat} (holds : run.holds code = true) :
    run.moved.holds (code + run.shift).toNat = true := by
  rw [holds_iff] at holds ⊢
  obtain ⟨lower, upper, inStep⟩ := holds
  have same : (code + run.shift).toNat - (run.first + run.shift).toNat =
      code - run.first := by
    omega
  simp only [moved, same]
  omega

private theorem CaseRun.holds_eq_false_of_isApart {run other : CaseRun}
    (apart : run.isApart other = true) {code : Nat}
    (holds : run.holds code = true) : other.holds code = false := by
  rw [Bool.eq_false_iff]
  intro also
  rw [holds_iff] at holds also
  obtain ⟨lower, upper, inStep⟩ := holds
  obtain ⟨otherLower, otherUpper, otherInStep⟩ := also
  simp only [isApart, Bool.or_eq_true, Bool.and_eq_true, Nat.blt_eq,
    beq_iff_eq] at apart
  rcases apart with (before | behind) | ⟨⟨two | single, otherTwo⟩, odd⟩
  · omega
  · omega
  · rw [two] at inStep
    rw [otherTwo] at otherInStep
    omega
  · rw [otherTwo] at otherInStep
    omega

theorem isUpper_iff {character : Char} :
    character.isUpper = true ↔
      0x41 ≤ character.toNat ∧ character.toNat ≤ 0x5A := by
  change decide ('A'.val ≤ character.val ∧ character.val ≤ 'Z'.val) = true ↔ _
  rw [decide_eq_true_iff, UInt32.le_iff_toNat_le, UInt32.le_iff_toNat_le]
  exact Iff.rfl

theorem isLower_iff {character : Char} :
    character.isLower = true ↔
      0x61 ≤ character.toNat ∧ character.toNat ≤ 0x7A := by
  change (decide ('a'.val ≤ character.val) &&
    decide (character.val ≤ 'z'.val)) = true ↔ _
  rw [Bool.and_eq_true, decide_eq_true_iff, decide_eq_true_iff,
    UInt32.le_iff_toNat_le, UInt32.le_iff_toNat_le]
  exact Iff.rfl

private theorem holds_asciiCapitals {code : Nat} :
    asciiCapitals.holds code = true ↔ 0x41 ≤ code ∧ code ≤ 0x5A := by
  simp [CaseRun.holds_iff, asciiCapitals, Nat.mod_one]

private theorem capitals_apart :
    (capitals.all fun run => capitals.all run.moved.isApart) = true := by
  decide +kernel

private theorem capitals_positive :
    (capitals.all fun run => 0 < run.first + run.shift) = true := by
  decide

private theorem smallLetter_eq_shiftCase (character : Char) :
    smallLetter character = shiftCase capitals character := by
  have beyond : (smallRuns.all fun run => 0x80 ≤ run.first) = true := by decide
  rw [smallLetter, shiftCase.eq_1 capitals, capitals,
    List.find?_cons]
  split
  next ascii =>
    rcases toLower_cases character with ⟨noCapital, same⟩ | ⟨capital, moved⟩
    · have none : smallRuns.find? (·.holds character.toNat) = none := by
        rw [List.find?_eq_none]
        intro run member holds
        have lower := of_decide_eq_true (List.all_eq_true.mp beyond run member)
        rw [CaseRun.holds_iff] at holds
        omega
      rw [Bool.eq_false_iff.mpr (mt holds_asciiCapitals.mp noCapital)]
      simp only [none, same]
    · rw [holds_asciiCapitals.mpr capital]
      change character.toLower = Char.ofNat (character.toNat + 32)
      rw [← moved, Char.ofNat_toNat]
  next noAscii =>
    have noCapital : ¬ (0x41 ≤ character.toNat ∧ character.toNat ≤ 0x5A) := by
      omega
    rw [Bool.eq_false_iff.mpr (mt holds_asciiCapitals.mp noCapital)]
    rfl

private theorem isCapital_eq_false_iff {character : Char} :
    isCapital character = false ↔
      ∀ run ∈ capitals, run.holds character.toNat = false := by
  simp [isCapital]

private theorem isCapital_smallLetter (character : Char) :
    isCapital (smallLetter character) = false := by
  rw [smallLetter_eq_shiftCase, shiftCase]
  split
  next run found =>
    have holds := List.find?_some found
    have member := List.mem_of_find?_eq_some found
    have positive :=
      of_decide_eq_true (List.all_eq_true.mp capitals_positive run member)
    by_cases valid : (character.toNat + run.shift).toNat.isValidChar
    · rw [isCapital_eq_false_iff, toNat_ofNat_of_valid valid]
      intro other isOther
      have apart := List.all_eq_true.mp
        (List.all_eq_true.mp capitals_apart run member) other isOther
      exact CaseRun.holds_eq_false_of_isApart apart
        (CaseRun.holds_moved positive holds)
    · rw [ofNat_of_not_valid valid]
      decide
  next none =>
    rw [isCapital_eq_false_iff]
    intro run member
    exact Bool.eq_false_iff.mpr (List.find?_eq_none.mp none run member)

private theorem isSteady_of_isCapital_eq_false {character : Char}
    (small : isCapital character = false) : isSteady character = true := by
  have noSigma : character ≠ 'Σ' := by
    rintro rfl
    exact absurd small (by decide)
  have noDotted : character ≠ 'İ' := by
    rintro rfl
    exact absurd small (by decide)
  have none : capitals.find? (·.holds character.toNat) = none := by
    rw [List.find?_eq_none]
    intro run member
    exact Bool.eq_false_iff.mp (isCapital_eq_false_iff.mp small run member)
  have same : smallLetter character = character := by
    rw [smallLetter_eq_shiftCase, shiftCase, none]
  simp [isSteady, noSigma, noDotted, same]

private theorem isCapital_of_mem_lower {text : Text} {character : Char}
    (member : character ∈ lower text) : isCapital character = false := by
  obtain ⟨before, first, after, _, found⟩ := exists_mem_lowerAt member
  rw [lowerAt] at found
  split at found
  · rw [List.mem_singleton.mp found]
    split <;> decide
  · split at found
    · simp only [List.mem_cons, List.not_mem_nil, or_false] at found
      rcases found with rfl | rfl <;> decide
    · rw [List.mem_singleton.mp found]
      exact isCapital_smallLetter first

theorem isSteady_of_mem_lower {text : Text} {character : Char}
    (member : character ∈ lower text) : isSteady character = true :=
  isSteady_of_isCapital_eq_false (isCapital_of_mem_lower member)

theorem isUpper_of_mem_lower {text : Text} {character : Char}
    (member : character ∈ lower text) : character.isUpper = false := by
  have small := isCapital_eq_false_iff.mp (isCapital_of_mem_lower member)
    asciiCapitals List.mem_cons_self
  rw [← small, Bool.eq_iff_iff, isUpper_iff, holds_asciiCapitals]

end CardQuery.Text
