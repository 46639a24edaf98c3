import CardQuery.Proofs.Search.Clause
import CardQuery.Proofs.Search.Written

/-!
# Texts that can be put in a row

A text is read as a row of forms if it is read so in front of everything that a
blank or a bracket starts, and if it leaves no quote open.  Such texts may be
joined by blanks or by `OR` and put between brackets, and the rows of forms are
joined in the same way.
-/

namespace CardQuery.Lexeme

/-- Whether the run in front of a text is cut off from it for certain. -/
def Separates (rest : Text) : Prop :=
  ∀ next ∈ rest.head?, endsRun next = true ∧ next ≠ '"'

theorem separates_nil : Separates [] := by
  simp [Separates]

theorem separates_of_blank {rest : Text}
    (blank : ∀ next ∈ rest.head?, Text.isBlank next = true) :
    Separates rest := by
  intro next isNext
  have isBlank := blank next isNext
  refine ⟨by simp [endsRun, isBlank], ?_⟩
  rintro rfl
  exact absurd isBlank (by decide)

theorem separates_blank (rest : Text) : Separates (' ' :: rest) :=
  separates_of_blank fun next isNext => by
    rw [← Option.some.inj isNext]
    decide

theorem separates_blanks {blanks : Text}
    (blank : ∀ character ∈ blanks, Text.isBlank character = true) :
    Separates blanks :=
  separates_of_blank fun next isNext => blank next (List.mem_of_mem_head? isNext)

theorem separates_closing (rest : Text) : Separates (')' :: rest) := by
  intro next isNext
  rw [← Option.some.inj isNext]
  decide

theorem separates_opening (rest : Text) : Separates ('(' :: rest) := by
  intro next isNext
  rw [← Option.some.inj isNext]
  decide

/-- The text says what the forms say, whatever it is separated from. -/
structure ReadsAs (text : Text) (row : List Form) : Prop where
  before : ∀ rest, Separates rest →
    forms (text ++ rest) = row ++ forms rest
  balanced : Quotation.IsBalanced text

private theorem forms_or (rest : Text) :
    forms ("OR" ++ ' ' :: rest) = .connective .or :: forms rest := by
  have spoken : ofRunAlone "OR" = ⟨.connective .or, "OR"⟩ := by decide
  have inside : ∀ character ∈ ['O', 'R'], endsRun character = false :=
    List.forall_mem_cons.mpr
      ⟨by decide, List.forall_mem_singleton.mpr (by decide)⟩
  have isNext : next 'O' ['R'] = (⟨.connective .or, "OR"⟩, []) := by
    rw [next_eq_ofRunAlone inside]
    exact Prod.ext spoken rfl
  have alone : forms ['O', 'R'] = [.connective .or] := by
    rw [forms_cons, isNext]
    simp [Form.isMeaningful]
  change forms (['O', 'R'] ++ ' ' :: rest) = _
  rw [forms_append inside (separates_blank rest), alone, forms_blank]
  rfl

namespace ReadsAs

theorem forms_eq {text : Text} {row : List Form} (reads : ReadsAs text row) :
    forms text = row := by
  simpa using reads.before [] separates_nil

theorem enclose {text : Text} {row : List Form} (reads : ReadsAs text row) :
    ReadsAs ("(" ++ text ++ ")") (Structure.enclose row) where
  before := by
    intro rest _
    have inner := reads.before (')' :: rest) (separates_closing rest)
    rw [forms_closing] at inner
    simp [forms_opening, inner, Structure.enclose]
  balanced :=
    ((Quotation.isBalanced_singleton (by decide)).append reads.balanced).append
      (Quotation.isBalanced_singleton (by decide))

/-- Texts with blanks between them say one thing after another. -/
theorem joinBlank {α : Type} {items : List α} {text : α → Text}
    {row : α → List Form}
    (reads : ∀ item ∈ items, ReadsAs (text item) (row item)) :
    ReadsAs (Text.join " " (items.map text)) (items.map row).flatten := by
  induction items with
  | nil => exact ⟨by simp [Text.join], Quotation.isBalanced_nil⟩
  | cons first rest ih =>
      have isFirst := reads first List.mem_cons_self
      have later := ih fun item member =>
        reads item (List.mem_cons_of_mem first member)
      by_cases single : rest = []
      · subst single
        simpa [Text.join] using isFirst
      · have split : Text.join " " ((first :: rest).map text) =
            text first ++ ' ' :: Text.join " " (rest.map text) := by
          simp [Text.join, List.intercalate_cons_of_ne_nil, single]
        rw [split]
        constructor
        · intro after separates
          have inner := isFirst.before
            (' ' :: (Text.join " " (rest.map text) ++ after))
            (separates_blank _)
          rw [forms_blank, later.before after separates] at inner
          simpa using inner
        · exact isFirst.balanced.append
            ((Quotation.isBalanced_singleton (by decide)).append later.balanced)

theorem joinOr {α : Type} {items : List α} {text : α → Text}
    {row : α → List Form}
    (reads : ∀ item ∈ items, ReadsAs (text item) (row item)) :
    ReadsAs (Text.join " OR " (items.map text))
      (Structure.alternatives (items.map row)) := by
  induction items with
  | nil =>
      exact ⟨by simp [Text.join, Structure.alternatives],
        Quotation.isBalanced_nil⟩
  | cons first rest ih =>
      have isFirst := reads first List.mem_cons_self
      by_cases single : rest = []
      · subst single
        simpa [Text.join, Structure.alternatives] using isFirst
      · have later := ih fun item member =>
          reads item (List.mem_cons_of_mem first member)
        have split : Text.join " OR " ((first :: rest).map text) =
            text first ++ (' ' :: ("OR" ++
              ' ' :: Text.join " OR " (rest.map text))) := by
          simp [Text.join, List.intercalate_cons_of_ne_nil, single]
        have someRows : rest.map row ≠ [] := by simp [single]
        rw [split, List.map_cons, Structure.alternatives_cons someRows]
        constructor
        · intro after separates
          have inner := isFirst.before
            (' ' :: ("OR" ++ ' ' :: (Text.join " OR " (rest.map text) ++ after)))
            (separates_blank _)
          rw [forms_blank, forms_or, later.before after separates] at inner
          simpa using inner
        · have joiner : Quotation.IsBalanced " OR " :=
            Quotation.isBalanced_of_noQuote (by decide)
          have whole := isFirst.balanced.append
            (joiner.append later.balanced)
          simpa using whole

end ReadsAs

end CardQuery.Lexeme
