import CardQuery.Proofs.Mapping.Resolution

/-!
# From a reading to a valid query

The mappings of a reading are accepted one by one, and they are rendered to a
valid query whatever the reading says, except for bare values in which a symbol
is read on its own.  A keyword that is a symbol itself is the shortest example.
-/

namespace CardQuery

/-- The query for a reading is valid exactly if no symbol in a value does harm
where the value stands. -/
theorem Reading.validate_query_isValid_iff {reading : Reading} {text : Text}
    (rendered : Mapping.query (reading.mappings Registry.standard) = .ok text)
    (settings : Settings) (count : Option Int) :
    ((Validator.make Registry.standard settings).validate text
        (count.map .number)).isValid = true ↔
      Mapping.AreSeparate (reading.mappings Registry.standard) := by
  rw [Validator.isValid_iff_errors_eq_nil]
  exact Mapping.errors_query_eq_nil_iff
    (fun _ member => isWritable_of_mem_mappings member) rendered settings

/-- A reading of nothing but one keyword. -/
def Reading.ofKeyword (keyword : Text) : Reading :=
  { Reading.empty [] with keywords := [⟨keyword, percent 85⟩] }

theorem Reading.validate_query_isValid_iff_inner_symbol :
    Mapping.query ((ofKeyword "a&&b").mappings Registry.standard) =
        .ok "o:a&&b" ∧
      (((Validator.make Registry.standard Settings.standard).validate "o:a&&b"
          none).isValid = true ↔
        Mapping.AreSeparate ((ofKeyword "a&&b").mappings Registry.standard)) :=
  have rendered : Mapping.query
      ((ofKeyword "a&&b").mappings Registry.standard) = .ok "o:a&&b" := by
    decide
  ⟨rendered, validate_query_isValid_iff rendered Settings.standard none⟩

/-- A keyword that is a symbol is accepted, but its condition is read without a
value. -/
theorem Reading.not_validate_query_isValid_symbol :
    Mapping.query ((ofKeyword "&&").mappings Registry.standard) = .ok "o:&&" ∧
      ((Validator.make Registry.standard Settings.standard).validate "o:&&"
        none).isValid = false := by
  have rendered : Mapping.query ((ofKeyword "&&").mappings Registry.standard) =
      .ok "o:&&" := by
    decide
  refine ⟨rendered, ?_⟩
  rw [Bool.eq_false_iff]
  intro valid
  have faultless := (Validator.isValid_iff_errors_eq_nil _ _ none).mp valid
  have separate := (Mapping.errors_query_eq_nil_iff
    (fun _ member => isWritable_of_mem_mappings member) rendered
      Settings.standard).mp faultless
  have starts : ∃ mapping ∈ (ofKeyword "&&").mappings Registry.standard,
      ∃ term ∈ mapping.terms, Mapping.startsWithSymbol term.2 = true := by
    decide
  obtain ⟨mapping, member, term, isTerm, symbol⟩ := starts
  rw [separate.starts mapping member term isTerm] at symbol
  contradiction

end CardQuery
