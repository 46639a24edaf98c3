import CardQuery.Proofs.Search.Counted

/-!
# Texts that end in an open phrase

What is written behind an open phrase is written into it, as long as it holds
no quote.  The phrase gets longer and stays open, and everything in front of it
is read as before.  The text therefore says the same up to the value that it
ends in: the forms do not change once their values are left out, and with them
the number of brackets that are left open.
-/

namespace CardQuery

open Structure

/-- The form with nothing for its value. -/
def Form.withoutValue : Form → Form
  | .phrase _ closed => .phrase [] closed
  | .condition asked => .condition { asked with value := [] }
  | form => form

namespace PhraseRead

private theorem closed_of_noQuote {text : Text} (noQuote : '"' ∉ text) :
    (read text).closed = false := by
  fun_induction read text with
  | case1 => rfl
  | case2 escaped rest ih => exact ih (by simp_all)
  | case3 => simp at noQuote
  | case4 first rest notEscape noEnd ih => exact ih (by simp_all)

private theorem closed_append_of_open {inside after : Text}
    (unclosed : (read inside).closed = false) (noQuote : '"' ∉ after) :
    (read (inside ++ after)).closed = false := by
  fun_induction read inside with
  | case1 => exact closed_of_noQuote noQuote
  | case2 escaped rest ih => exact ih unclosed
  | case3 => cases unclosed
  | case4 first rest notEscape noEnd ih =>
      by_cases backslash : first = '\\'
      · cases rest with
        | nil =>
            subst backslash
            cases after with
            | nil => rfl
            | cons hidden after =>
                exact @closed_of_noQuote after (by simp_all)
        | cons second rest => exact (notEscape second rest backslash rfl).elim
      · rw [List.cons_append, read_cons_of_plain noEnd backslash]
        exact ih unclosed

end PhraseRead

private theorem Form.isMeaningful_withoutValue (form : Form) :
    form.withoutValue.isMeaningful = form.isMeaningful := by
  cases form <;> rfl

private theorem Form.map_withoutValue_filter (row : List Form) :
    (row.filter isMeaningful).map withoutValue =
      (row.map withoutValue).filter isMeaningful := by
  rw [List.filter_map]
  congr 2
  exact funext fun form => (isMeaningful_withoutValue form).symm

namespace Lexeme

private theorem StartsWith.append_of_open {text rest after : Text}
    {lexeme : Lexeme}
    (starts : StartsWith text lexeme rest) {offset : Nat}
    (isOpen : lexeme.openQuote? = some offset) (noQuote : '"' ∉ after) :
    ∃ longer, StartsWith (text ++ after) longer [] ∧
      longer.form.withoutValue = lexeme.form.withoutValue := by
  cases starts with
  | blank | opening | closing => cases isOpen
  | run => simp [openQuote?_ofRunAlone] at isOpen
  | phrase inside =>
      cases closed : (PhraseRead.read inside).closed with
      | true => simp [openQuote?, closed] at isOpen
      | false =>
          have goesOn := PhraseRead.closed_append_of_open closed noQuote
          have grown := StartsWith.phrase (inside ++ after)
          rw [PhraseRead.rest_eq_nil_of_open goesOn, goesOn] at grown
          exact ⟨_, grown, rfl⟩
  | @quoted head named inside =>
      cases closed : (PhraseRead.read inside).closed with
      | true => simp [openQuote?_quoted, closed] at isOpen
      | false =>
          have goesOn := PhraseRead.closed_append_of_open closed noQuote
          have grown := StartsWith.quoted named (inside ++ after)
          rw [PhraseRead.rest_eq_nil_of_open goesOn, ← List.cons_append,
            ← List.append_assoc] at grown
          exact ⟨_, grown, rfl⟩

/-- What is written behind a text that an open phrase ends changes its last
lexeme only in its value. -/
theorem map_withoutValue_forms_append {text after : Text}
    {position quote : Nat}
    (isOpen : Quotation.openQuoteFrom position none text = some quote)
    (separates : Separates after) (noQuote : '"' ∉ after) :
    (forms (text ++ after)).map Form.withoutValue =
      (forms text).map Form.withoutValue := by
  fun_induction scan text generalizing position with
  | case1 => cases isOpen
  | case2 first rest ih =>
      have starts := startsWith_next first rest
      generalize (next first rest).1 = lexeme at starts
      generalize (next first rest).2 = later at starts ih
      rw [starts.openQuoteFrom_eq] at isOpen
      rw [starts.forms_eq]
      cases closed : lexeme.openQuote? with
      | none =>
          rw [closed] at isOpen
          have some : later ≠ [] := by
            rintro rfl
            cases isOpen
          have goesOn := starts.replace closed (replaces_append separates)
            fun blank next isNext => (starts.of_blank blank).2 next (by
              rwa [List.head?_append_of_ne_nil _ some] at isNext)
          rw [starts.split, List.append_assoc, goesOn.forms_eq,
            List.map_append, List.map_append, ih isOpen]
      | some offset =>
          obtain ⟨longer, grown, same⟩ := starts.append_of_open closed noQuote
          rw [grown.forms_eq, starts.rest_eq_nil_of_openQuote? closed,
            List.map_append, List.map_append, Form.map_withoutValue_filter,
            Form.map_withoutValue_filter, List.map_singleton,
            List.map_singleton, same]

end Lexeme

end CardQuery
