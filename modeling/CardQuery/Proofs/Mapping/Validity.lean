import CardQuery.Mapping.Resolve
import CardQuery.Proofs.Mapping.Rendering
import CardQuery.Proofs.Operator.SymbolFree
import CardQuery.Proofs.Verdict

/-!
# Validity of rendered mappings

The registry accepts every term of a mapping before it is rendered, but the
validator sees only what the query is read as.  The two differ for bare values
with a symbol in them, and in two ways such a value makes the query invalid: a
condition is left without a value if the symbol stands first, and a connective
at the end of a value meets what follows the value.  Nothing else can go wrong.
-/

namespace CardQuery

open Structure

/-- A query is free of errors if it says a sound row of forms whose conditions
the registry accepts. -/
theorem Validator.errors_eq_nil_iff_of_readsAs {validator : Validator}
    {query : Text} {row : List Form} (reads : Lexeme.ReadsAs query row) :
    validator.errors query = [] ↔
      IsSound row ∧ ∀ condition, .condition condition ∈ row →
        validator.registry.accepts condition.name condition.value
          condition.comparison = true := by
  rw [errors_eq_nil_iff, findings_eq_nil_iff, meaningfulForms_read,
    reads.forms_eq]
  have members (condition : Condition) :
      (∃ token, (token, condition) ∈ Token.conditions (Token.read query)) ↔
        .condition condition ∈ row := by
    rw [← reads.forms_eq, ← meaningfulForms_read,
      mem_meaningfulForms_iff rfl]
    simp only [Token.mem_conditions_iff]
  constructor
  · rintro ⟨⟨closes, coherent⟩, _, accepted⟩
    refine ⟨⟨closes, coherent⟩, ?_⟩
    intro condition member
    obtain ⟨token, isCondition⟩ := (members condition).mpr member
    exact accepted (token, condition) isCondition
  · rintro ⟨sound, accepted⟩
    refine ⟨⟨sound.closes, sound.coherent⟩, reads.balanced.findings_eq_nil, ?_⟩
    rintro ⟨token, condition⟩ isCondition
    exact accepted condition ((members condition).mp ⟨token, isCondition⟩)

namespace Mapping

/-- A mapping with terms that the standard registry accepts. -/
structure IsWritable (mapping : Mapping) : Prop where
  named : Head.isName mapping.operator = true
  termed : mapping.terms ≠ []
  accepted : mapping.isAccepted Registry.standard = true

/-- Whether the value is written bare and has a symbol in front, so that its
condition is read without a value. -/
def startsWithSymbol (value : Text) : Bool :=
  isBare value && Lexeme.startsSymbol value

/-- Whether the value is written bare and the last thing in it is a connective
behind a symbol. -/
def endsInConnective (value : Text) : Bool :=
  dangles (Lexeme.forms (leftover value))

private theorem dangles_termForms (mapping : Mapping)
    (term : Option Comparison × Text) :
    dangles (mapping.termForms term) = endsInConnective term.2 := by
  rw [termForms, endsInConnective]
  by_cases none : Lexeme.forms (leftover term.2) = []
  · rw [none]
    rfl
  · rw [← List.singleton_append, dangles_append none]

/-- How values with symbols can stand in rendered mappings without harm. -/
structure AreSeparate (mappings : List Mapping) : Prop where
  /-- No value starts with a symbol. -/
  starts : ∀ mapping ∈ mappings, ∀ term ∈ mapping.terms,
    startsWithSymbol term.2 = false
  /-- No value with `OR` or a closing bracket behind it ends in a
  connective. -/
  alternatives : ∀ mapping ∈ mappings, mapping.joiner = some .or →
    ∀ term ∈ mapping.terms, endsInConnective term.2 = false
  /-- Nor does the value at the end of the query. -/
  ends : ∀ mapping ∈ mappings.getLast?, ∀ term ∈ mapping.terms.getLast?,
    endsInConnective term.2 = false

section

variable {mapping : Mapping}

private theorem isClause_of_mem_terms {clause : List Form}
    (member : clause ∈ mapping.terms.map mapping.termForms) :
    IsClause clause := by
  obtain ⟨term, _, rfl⟩ := List.mem_map.mp member
  exact mapping.termForms_isClause term

private theorem isPart_forms (termed : mapping.terms ≠ []) : IsPart
    mapping.forms := by
  have someTerms : mapping.terms.map mapping.termForms ≠ [] := by
    simpa using termed
  have parts : ∀ clause ∈ mapping.terms.map mapping.termForms,
      IsPart clause := fun clause member =>
    (isClause_of_mem_terms member).toIsPart
  rw [forms]
  split
  · exact isPart_enclose (isPart_alternatives someTerms parts)
  · exact isPart_flatten someTerms parts

private theorem isChain_forms_iff (termed : mapping.terms ≠ []) :
    mapping.forms.IsChain (mayAdjoin · ·) ↔
      (mapping.joiner = some .or → ∀ term ∈ mapping.terms,
        endsInConnective term.2 = false) := by
  have someTerms : mapping.terms.map mapping.termForms ≠ [] := by
    simpa using termed
  rw [forms]
  split
  next isOr =>
    simp only [isChain_enclose_alternatives_iff someTerms fun clause =>
      isClause_of_mem_terms, List.forall_mem_map, dangles_termForms, isOr,
      forall_const]
  next notOr =>
    have clauses : ∀ clause ∈ mapping.terms.map mapping.termForms,
        IsClause clause := fun clause => isClause_of_mem_terms
    have chain := (isChain_flatten_iff fun clause member =>
      (clauses clause member).toIsPart).mpr fun clause member =>
        (clauses clause member).chain
    simp [notOr, chain]

private theorem dangles_forms_eq_false_iff :
    dangles mapping.forms = false ↔
      (mapping.joiner ≠ some .or → ∀ term ∈ mapping.terms.getLast?,
        endsInConnective term.2 = false) := by
  rw [forms]
  split
  next isOr => simp [isOr, dangles_enclose]
  next notOr =>
    rw [dangles_flatten fun clause member =>
      (isClause_of_mem_terms member).toIsPart, List.getLast?_map,
      Option.any_map]
    cases mapping.terms.getLast? <;> simp [notOr, dangles_termForms]

private theorem condition_mem_forms_iff {condition : Condition} :
    .condition condition ∈ mapping.forms ↔
      ∃ term ∈ mapping.terms, condition = mapping.asked term := by
  have inRows : (∃ clause ∈ mapping.terms.map mapping.termForms,
      .condition condition ∈ clause) ↔
        ∃ term ∈ mapping.terms, condition = mapping.asked term := by
    simp [condition_mem_termForms_iff]
  rw [← inRows, forms]
  split
  · rw [mem_enclose_iff (by simp), mem_alternatives_iff (by simp)]
  · rw [List.mem_flatten]

private theorem accepts_asked_iff {term : Option Comparison × Text}
    (accepted : Registry.standard.accepts mapping.operator term.2 term.1 =
      true) :
    Registry.standard.accepts (mapping.asked term).name
        (mapping.asked term).value (mapping.asked term).comparison = true ↔
      startsWithSymbol term.2 = false := by
  change Registry.standard.accepts mapping.operator (readValue term.2)
    term.1 = true ↔ _
  rw [readValue, startsWithSymbol]
  cases bare : isBare term.2 with
  | false => simpa using accepted
  | true =>
      have inside : ∀ character ∈ term.2,
          Lexeme.endsRun character = false := fun character member =>
        endsRun_of_not_isSpecial (not_isSpecial_of_isBare bare member)
      rw [if_pos rfl, Bool.true_and]
      cases symbol : Lexeme.startsSymbol term.2 with
      | true =>
          have none : (Lexeme.spanRun term.2).1 = [] := by
            cases value : term.2 with
            | nil => rfl
            | cons first rest =>
                rw [value] at symbol
                simp [Lexeme.spanRun, symbol]
          have refused : ¬ Registry.standard.accepts mapping.operator []
              term.1 = true := by
            rw [Registry.accepts_iff]
            rintro ⟨_, _, nonempty, _⟩
            contradiction
          simp [none, refused]
      | false =>
          have some : (Lexeme.spanRun term.2).1 ≠ [] := by
            cases value : term.2 with
            | nil => simp [isBare, value] at bare
            | cons first rest =>
                rw [value] at symbol inside
                simp [Lexeme.spanRun, symbol, inside first List.mem_cons_self]
          simpa using Registry.accepts_spanRun accepted inside some

end

section

variable {mappings : List Mapping}

private theorem accepts_forms_iff
    (writable : ∀ mapping ∈ mappings, mapping.IsWritable) :
    (∀ condition, .condition condition ∈ (mappings.map forms).flatten →
        Registry.standard.accepts condition.name condition.value
          condition.comparison = true) ↔
      ∀ mapping ∈ mappings, ∀ term ∈ mapping.terms,
        startsWithSymbol term.2 = false := by
  have acceptedTerm {mapping : Mapping} (member : mapping ∈ mappings)
      {term : Option Comparison × Text} (isTerm : term ∈ mapping.terms) :
      Registry.standard.accepts mapping.operator term.2 term.1 = true :=
    List.all_eq_true.mp (writable mapping member).accepted term isTerm
  constructor
  · intro accepted mapping member term isTerm
    apply (accepts_asked_iff (acceptedTerm member isTerm)).mp
    apply accepted
    exact List.mem_flatten.mpr ⟨mapping.forms, List.mem_map_of_mem member,
      condition_mem_forms_iff.mpr ⟨term, isTerm, rfl⟩⟩
  · intro starts condition isCondition
    obtain ⟨_, isForms, inForms⟩ := List.mem_flatten.mp isCondition
    obtain ⟨mapping, member, rfl⟩ := List.mem_map.mp isForms
    obtain ⟨term, isTerm, rfl⟩ := condition_mem_forms_iff.mp inForms
    exact (accepts_asked_iff (acceptedTerm member isTerm)).mpr
      (starts mapping member term isTerm)

private theorem isSound_forms_iff (nonempty : mappings ≠ [])
    (writable : ∀ mapping ∈ mappings, mapping.IsWritable) :
    IsSound (mappings.map forms).flatten ↔
      (∀ mapping ∈ mappings, mapping.joiner = some .or →
        ∀ term ∈ mapping.terms, endsInConnective term.2 = false) ∧
      ∀ mapping ∈ mappings.getLast?, mapping.joiner ≠ some .or →
        ∀ term ∈ mapping.terms.getLast?, endsInConnective term.2 = false := by
  have someForms : mappings.map forms ≠ [] := by
    simpa using nonempty
  have parts : ∀ part ∈ mappings.map forms, IsPart part := by
    intro part member
    obtain ⟨mapping, isMapping, rfl⟩ := List.mem_map.mp member
    exact isPart_forms (writable mapping isMapping).termed
  have chains : (∀ part ∈ mappings.map forms,
      part.IsChain (mayAdjoin · ·)) ↔
        ∀ mapping ∈ mappings, mapping.joiner = some .or →
          ∀ term ∈ mapping.terms, endsInConnective term.2 = false := by
    rw [List.forall_mem_map]
    exact forall₂_congr fun mapping member =>
      isChain_forms_iff (writable mapping member).termed
  have last : (mappings.map forms).getLast?.any dangles = false ↔
      ∀ mapping ∈ mappings.getLast?, mapping.joiner ≠ some .or →
        ∀ term ∈ mapping.terms.getLast?, endsInConnective term.2 = false := by
    rw [List.getLast?_map, Option.any_map]
    cases mappings.getLast? with
    | none => simp
    | some mapping =>
        simp only [Option.any_some, Option.mem_def,
          Option.some.injEq, forall_eq', dangles_forms_eq_false_iff]
  rw [isSound_flatten_iff someForms parts, chains, last]

/-- Accepted mappings are rendered to a query without errors exactly if the
symbols in their values do no harm. -/
theorem errors_query_eq_nil_iff
    (writable : ∀ mapping ∈ mappings, mapping.IsWritable) {text : Text}
    (rendered : query mappings = .ok text) (settings : Settings) :
    (Validator.make Registry.standard settings).errors text = [] ↔
      AreSeparate mappings := by
  obtain ⟨_, nonempty, rfl⟩ := query_eq_ok_iff.mp rendered
  have reads : Lexeme.ReadsAs (Text.join " " (mappings.map written))
      (mappings.map forms).flatten :=
    Lexeme.ReadsAs.joinBlank fun mapping member =>
      written_readsAs (writable mapping member).named
  rw [Validator.errors_eq_nil_iff_of_readsAs reads,
    Validator.make_registry (by decide),
    isSound_forms_iff nonempty writable, accepts_forms_iff writable]
  constructor
  · rintro ⟨⟨alternatives, ends⟩, starts⟩
    refine ⟨starts, alternatives, ?_⟩
    intro mapping isLast term isLastTerm
    by_cases isOr : mapping.joiner = some .or
    · exact alternatives mapping (List.mem_of_getLast? isLast) isOr term
        (List.mem_of_getLast? isLastTerm)
    · exact ends mapping isLast isOr term isLastTerm
  · intro separate
    exact ⟨⟨separate.alternatives, fun mapping isLast _ =>
      separate.ends mapping isLast⟩, separate.starts⟩

end

end Mapping

end CardQuery
