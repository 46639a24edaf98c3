import CardQuery.Repair.Edit
import CardQuery.Search.Quotation
import CardQuery.Search.Scan

/-!
# Quoted phrases

A phrase is written with a backslash before each quote and each backslash of
its value.  Reading gives the value back and stops right behind the closing
quote, and the check of quotes passes over the phrase with no quote left open.
Texts which the check passes over in this way can be put in a row.
-/

namespace CardQuery

namespace PhraseRead

theorem read_cons_of_plain {first : Char} (noQuote : first ≠ '"')
    (noBackslash : first ≠ '\\') (rest : Text) :
    read (first :: rest) = (read rest).extend [first] first := by
  cases rest with
  | nil => simp [read, noQuote]
  | cons second rest => simp [read, noQuote, noBackslash]

/-- A phrase is read back with its value, whatever characters it has. -/
theorem read_escaped (value rest : Text) :
    read (value.flatMap Edit.escape ++ '"' :: rest) =
      ⟨value, value.flatMap Edit.escape ++ ['"'], rest, true⟩ := by
  induction value with
  | nil => simp [read]
  | cons first later ih =>
      rw [List.flatMap_cons, Edit.escape]
      by_cases quote : first = '"'
      · simp [quote, read, ih, extend]
      · by_cases backslash : first = '\\'
        · simp [backslash, read, ih, extend]
        · simp [quote, backslash, read_cons_of_plain, ih, extend]

end PhraseRead

namespace Quotation

theorem openQuoteFrom_cons {first : Char} (noBackslash : first ≠ '\\')
    (position start : Nat) (rest : Text) :
    openQuoteFrom position (some start) (first :: rest) =
      openQuoteFrom (position + 1) (if first = '"' then none else some start)
        rest := by
  rw [openQuoteFrom]
  · exact fun backslash => absurd backslash noBackslash
  · exact fun _ _ backslash => absurd backslash noBackslash

theorem openQuoteFrom_cons_of_plain {first : Char} (noQuote : first ≠ '"')
    (noBackslash : first ≠ '\\') (position start : Nat) (rest : Text) :
    openQuoteFrom position (some start) (first :: rest) =
      openQuoteFrom (position + 1) (some start) rest := by
  rw [openQuoteFrom_cons noBackslash, if_neg noQuote]

/-- A character that the check reads neither as a last nor as another backslash
is none. -/
theorem ne_backslash {first : Char} {rest : Text}
    (noEnd : first = '\\' → rest = [] → False)
    (noEscape : ∀ escaped later, first = '\\' → rest = escaped :: later →
      False) : first ≠ '\\' := by
  intro backslash
  cases rest with
  | nil => exact noEnd backslash rfl
  | cons escaped later => exact noEscape escaped later backslash rfl

private theorem openQuoteFrom_escaped (value rest : Text)
    (position start : Nat) :
    openQuoteFrom position (some start)
        (value.flatMap Edit.escape ++ '"' :: rest) =
      openQuoteFrom (position + (value.flatMap Edit.escape).length + 1) none
        rest := by
  induction value generalizing position with
  | nil =>
      cases rest <;> simp [openQuoteFrom]
  | cons first later ih =>
      rw [List.flatMap_cons, Edit.escape]
      by_cases quote : first = '"'
      · simp [quote, openQuoteFrom, ih]
        congr 1
        omega
      · by_cases backslash : first = '\\'
        · simp [backslash, openQuoteFrom, ih]
          congr 1
          omega
        · simp [quote, backslash, openQuoteFrom_cons_of_plain, ih]
          congr 1
          omega

/-- A text with no quote open behind it, whatever text follows. -/
def IsBalanced (text : Text) : Prop :=
  ∀ position rest, openQuoteFrom position none (text ++ rest) =
    openQuoteFrom (position + text.length) none rest

theorem isBalanced_nil : IsBalanced [] := by
  intro position rest
  simp

theorem IsBalanced.append {left right : Text} (leftBalanced : IsBalanced left)
    (rightBalanced : IsBalanced right) : IsBalanced (left ++ right) := by
  intro position rest
  rw [List.append_assoc, leftBalanced, rightBalanced, List.length_append,
    Nat.add_assoc]

theorem isBalanced_singleton {character : Char} (noQuote : character ≠ '"') :
    IsBalanced [character] := by
  intro position rest
  simp [openQuoteFrom, noQuote]

theorem isBalanced_of_noQuote {text : Text}
    (noQuote : '"' ∉ text) : IsBalanced text := by
  induction text with
  | nil => exact isBalanced_nil
  | cons first rest ih =>
      rw [List.mem_cons, not_or] at noQuote
      exact (isBalanced_singleton (Ne.symm noQuote.1)).append (ih noQuote.2)

theorem isBalanced_phrase (value : Text) : IsBalanced (Edit.phrase value) := by
  intro position rest
  have closes := openQuoteFrom_escaped value rest (position + 1) position
  simp only [Edit.phrase, List.cons_append, List.append_assoc,
    List.nil_append, List.length_cons, List.length_append, List.length_nil]
  rw [openQuoteFrom, if_pos rfl, closes]
  congr 1
  omega

theorem IsBalanced.findings_eq_nil {text : Text} (balanced : IsBalanced text) :
    findings text = [] := by
  have none : openQuote? text = none := by
    have passed := balanced 0 []
    rw [List.append_nil] at passed
    rw [openQuote?, passed, openQuoteFrom]
  rw [findings, none]

end Quotation

end CardQuery
