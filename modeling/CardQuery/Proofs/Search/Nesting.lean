import CardQuery.Search.Structure
import Mathlib.Data.List.Chain

/-!
# Nesting and neighbourhood

The structural checks look at brackets with a stack and at connectives with
their neighbours.  Both are restated here on the forms alone.  `closesAll`
counts the brackets that wait to be closed, and `mayAdjoin` says which two
forms may stand next to each other.

The start of a query behaves like an opening bracket and its end like a
closing one.  A query therefore has no structural fault exactly if its
brackets close and all neighbours fit once it stands between brackets.
-/

namespace CardQuery.Structure

/-- Whether the brackets of a row of forms close the `pending` open ones and
everything that opens later, with none to spare. -/
def closesAll : (pending : Nat) → List Form → Bool
  | pending, [] => pending == 0
  | pending, .bracket true :: rest => closesAll (pending + 1) rest
  | 0, .bracket false :: _ => false
  | pending + 1, .bracket false :: rest => closesAll pending rest
  | pending, _ :: rest => closesAll pending rest

/-- Whether two neighbours are something else than a pair of brackets around
nothing. -/
def isFilled (first second : Form) : Bool :=
  !(first == .bracket true && second == .bracket false)

/-- Whether a connective and its neighbour fit. -/
def isJoined : Form → Form → Bool
  | .connective joining, .connective next => mayFollow joining next
  | .connective _, .bracket false => false
  | .bracket true, .connective joining => joining == .not
  | _, _ => true

/-- Whether the second form may directly follow the first. -/
def mayAdjoin (first second : Form) : Bool :=
  isFilled first second && isJoined first second

/-- The forms between a pair of brackets. -/
def enclose (forms : List Form) : List Form :=
  .bracket true :: (forms ++ [.bracket false])

/-- Neighbours fit throughout the forms, also at both ends when the forms
stand between brackets. -/
def IsCoherent (forms : List Form) : Prop :=
  (enclose forms).IsChain (mayAdjoin · ·)

instance (forms : List Form) : Decidable (IsCoherent forms) :=
  inferInstanceAs (Decidable (List.IsChain (mayAdjoin · ·) _))

@[simp] theorem closesAll_nil (pending : Nat) :
    closesAll pending [] = (pending == 0) := by
  simp [closesAll]

@[simp] theorem closesAll_opening (pending : Nat) (rest : List Form) :
    closesAll pending (.bracket true :: rest) =
      closesAll (pending + 1) rest := by
  simp [closesAll]

@[simp] theorem closesAll_closing_zero (rest : List Form) :
    closesAll 0 (.bracket false :: rest) = false := by
  simp [closesAll]

@[simp] theorem closesAll_closing_succ (pending : Nat) (rest : List Form) :
    closesAll (pending + 1) (.bracket false :: rest) =
      closesAll pending rest := by
  simp [closesAll]

theorem closesAll_other {form : Form} (noOpening : form ≠ .bracket true)
    (noClosing : form ≠ .bracket false) (pending : Nat) (rest : List Form) :
    closesAll pending (form :: rest) = closesAll pending rest := by
  cases form with
  | bracket isOpen => cases isOpen <;> contradiction
  | _ => simp [closesAll]

/-- Forms that close everything they open leave the brackets around them
alone. -/
theorem closesAll_append {opened : Nat} {forms : List Form}
    (closed : closesAll opened forms = true) (pending : Nat)
    (rest : List Form) :
    closesAll (pending + opened) (forms ++ rest) = closesAll pending rest := by
  induction forms generalizing opened with
  | nil =>
      have none : opened = 0 := by simpa using closed
      simp [none]
  | cons form forms ih =>
      by_cases opening : form = .bracket true
      · subst opening
        rw [closesAll_opening] at closed
        simpa [Nat.add_assoc] using ih closed
      · by_cases closing : form = .bracket false
        · subst closing
          cases opened with
          | zero => simp at closed
          | succ opened =>
              rw [closesAll_closing_succ] at closed
              simpa [← Nat.add_assoc] using ih closed
        · rw [closesAll_other opening closing] at closed
          simpa [closesAll_other opening closing] using ih closed

/-- The bracket that is open beyond `opened` inner ones closes somewhere, and
what stands before its end closes the inner ones. -/
theorem exists_closing {opened pending : Nat} {forms : List Form}
    (closed : closesAll (opened + pending + 1) forms = true) :
    ∃ inner rest, forms = inner ++ .bracket false :: rest ∧
      closesAll opened inner = true ∧ closesAll pending rest = true := by
  induction forms generalizing opened with
  | nil => simp at closed
  | cons form forms ih =>
      by_cases opening : form = .bracket true
      · subst opening
        rw [closesAll_opening] at closed
        obtain ⟨inner, rest, split, innerClosed, restClosed⟩ :=
          @ih (opened + 1) (by
            simpa [Nat.add_assoc, Nat.add_comm, Nat.add_left_comm] using closed)
        exact ⟨.bracket true :: inner, rest, by simp [split],
          by simpa using innerClosed, restClosed⟩
      · by_cases closing : form = .bracket false
        · subst closing
          rw [closesAll_closing_succ] at closed
          cases opened with
          | zero => exact ⟨[], forms, by simp, by simp, by simpa using closed⟩
          | succ opened =>
              obtain ⟨inner, rest, split, innerClosed, restClosed⟩ :=
                @ih opened (by
                  simpa [Nat.add_assoc, Nat.add_comm, Nat.add_left_comm]
                    using closed)
              exact ⟨.bracket false :: inner, rest, by simp [split],
                by simpa using innerClosed, restClosed⟩
        · rw [closesAll_other opening closing] at closed
          obtain ⟨inner, rest, split, innerClosed, restClosed⟩ := ih closed
          exact ⟨form :: inner, rest, by simp [split],
            by simpa [closesAll_other opening closing] using innerClosed,
            restClosed⟩

end CardQuery.Structure
