import CardQuery.Number.Whole
import Mathlib.Algebra.Group.Nat.Defs
import Mathlib.Data.List.TakeWhile

/-!
# Reading whole numbers back

A number that was read is small enough to be read again: it is below the least
number with one digit more than are read, and its decimal text has no more
digits than the text that it was read from can have.
-/

namespace CardQuery

namespace Text

private theorem digitValue?_lt {character : Char} {digit : Nat}
    (found : digitValue? character = some digit) : digit < 10 := by
  rw [digitValue?, List.findSome?_eq_some_iff] at found
  obtain ⟨_, start, _, _, inRun, _⟩ := found
  split at inRun
  next bounds =>
    simp only [Bool.and_eq_true, decide_eq_true_eq] at bounds
    have same := Option.some.inj inRun
    omega
  next => cases inRun

private theorem digitsValue?_lt {text : Text} {number : Nat}
    (read : digitsValue? text = some number) :
    number < 10 ^ text.length := by
  have general (text : Text) (start : Nat)
      (read : text.foldlM (fun value character =>
        (digitValue? character).map (10 * value + ·)) start = some number) :
      number < (start + 1) * 10 ^ text.length := by
    induction text generalizing start with
    | nil =>
        have same : start = number := Option.some.inj read
        simp [same]
    | cons first rest ih =>
        rw [List.foldlM_cons] at read
        cases digit : digitValue? first with
        | none =>
            rw [digit] at read
            cases read
        | some value =>
            rw [digit] at read
            have later := ih _ read
            have small := digitValue?_lt digit
            calc
              number < (10 * start + value + 1) * 10 ^ rest.length := later
              _ ≤ (10 * (start + 1)) * 10 ^ rest.length :=
                Nat.mul_le_mul_right _ (by omega)
              _ = (start + 1) * 10 ^ (first :: rest).length := by
                rw [List.length_cons, Nat.pow_succ]
                ac_rfl
  simpa using general text 0 read

theorem isDigit_of_digitsValue? {text : Text} {number : Nat}
    (read : digitsValue? text = some number) :
    ∀ character ∈ text, isDigit character = true := by
  rw [digitsValue?] at read
  generalize 0 = start at read
  induction text generalizing start with
  | nil => simp
  | cons first rest ih =>
      rw [List.foldlM_cons] at read
      cases digit : digitValue? first with
      | none =>
          rw [digit] at read
          cases read
      | some value =>
          rw [digit] at read
          exact List.forall_mem_cons.mpr
            ⟨by simp [isDigit, digit], ih _ read⟩

theorem isDigit_of_mem_ofNat {number : Nat} {character : Char}
    (member : character ∈ ofNat number) : isDigit character = true :=
  isDigit_of_isDigit
    (Nat.isDigit_of_mem_toDigits (by decide) (by decide) member)

theorem ofNat_ne_nil (number : Nat) : ofNat number ≠ [] :=
  Nat.toDigits_ne_nil

private theorem digitsValue?_ofNat (number : Nat) :
    digitsValue? (ofNat number) = some number := by
  have general (text : Text) (start : Nat)
      (digits : ∀ character ∈ text, character.isDigit = true) :
      text.foldlM (fun value character =>
        (digitValue? character).map (10 * value + ·)) start =
          some (Nat.ofDigitChars 10 text start) := by
    induction text generalizing start with
    | nil => rfl
    | cons first rest ih =>
        obtain ⟨ofFirst, ofRest⟩ := List.forall_mem_cons.mp digits
        rw [List.foldlM_cons, digitValue?_of_isDigit ofFirst,
          Nat.ofDigitChars_cons]
        exact ih _ ofRest
  have digits : ∀ character ∈ ofNat number, character.isDigit = true :=
    fun _ => Nat.isDigit_of_mem_toDigits (by decide) (by decide)
  rw [digitsValue?, general _ 0 digits]
  exact congrArg some (Nat.ofDigitChars_toDigits (by decide) (by decide))

theorem ofNat_injective : Function.Injective ofNat := by
  intro left right same
  have values := digitsValue?_ofNat left
  rw [same, digitsValue?_ofNat] at values
  exact (Option.some.inj values).symm

theorem ofInt_natCast (number : Nat) : ofInt number = ofNat number := by
  rw [ofInt, if_neg (by omega), Int.natAbs_natCast]

theorem ofInt_injective : Function.Injective ofInt := by
  have unsigned (rest : Text) (number : Nat) : '-' :: rest ≠ ofNat number := by
    intro same
    have digit : isDigit '-' = true :=
      isDigit_of_mem_ofNat (same ▸ List.mem_cons_self)
    revert digit
    decide
  intro left right same
  rw [ofInt, ofInt] at same
  split at same
  · split at same
    · have sizes := ofNat_injective (List.tail_eq_of_cons_eq same)
      omega
    · exact absurd same (unsigned _ _)
  · split at same
    · exact absurd same.symm (unsigned _ _)
    · have sizes := ofNat_injective same
      omega

end Text

/-- How large a number can be that is read. -/
def IsReadable (number : Nat) : Prop := number < 10 ^ longestNumber

theorem isReadable_of_readNumber {text : Text} {number : Nat}
    (read : readNumber text = .ok number) : IsReadable number := by
  rw [readNumber] at read
  split at read
  next => cases read
  next fits =>
    cases value : Text.digitsValue? text with
    | none =>
        rw [value] at read
        cases read
    | some written =>
        rw [value] at read
        have same : written = number := Except.ok.inj read
        subst same
        have digits := Text.isDigit_of_digitsValue? value
        rw [List.takeWhile_eq_self_iff.mpr digits] at fits
        calc
          written < 10 ^ text.length := Text.digitsValue?_lt value
          _ ≤ 10 ^ longestNumber :=
            Nat.pow_le_pow_right (by decide) (Nat.le_of_not_lt fits)

/-- The decimal text of a number is read as the number, unless it is too
long. -/
theorem readNumber_ofNat (number : Nat) :
    readNumber (Text.ofNat number) =
      if longestNumber < (Text.ofNat number).length then
        .error (.tooLong (Text.ofNat number).length)
      else .ok number := by
  have digits : ∀ character ∈ Text.ofNat number,
      Text.isDigit character = true := fun _ => Text.isDigit_of_mem_ofNat
  rw [readNumber, List.takeWhile_eq_self_iff.mpr digits,
    Text.digitsValue?_ofNat]
  rfl

theorem readNumber_ofNat_of_isReadable {number : Nat}
    (readable : IsReadable number) :
    readNumber (Text.ofNat number) = .ok number := by
  have short : (Text.ofNat number).length ≤ longestNumber :=
    (Nat.length_toDigits_le_iff (by decide) (by decide)).mpr readable
  rw [readNumber_ofNat, if_neg (Nat.not_lt.mpr short)]

end CardQuery
