import CardQuery.Mapping.Render
import CardQuery.Proofs.Search.Composition
import CardQuery.Proofs.Search.Remainder

/-!
# What a rendered mapping says

A value is written with quotes or bare.  With quotes it is read back as it is.
A bare value is cut at its first symbol: the condition gets what stands before
it, and the query the rest.  The forms of a mapping are put together from the
forms of its conditions in the way in which the mapping is written.
-/

namespace CardQuery.Mapping

open Structure

/-- Whether the value is written without quotes. -/
def isBare (value : Text) : Bool := !value.isEmpty && !value.any isSpecial

/-- The part of a value that its condition is read with. -/
def readValue (value : Text) : Text :=
  if isBare value then (Lexeme.spanRun value).1 else value

/-- The part of a value that is read behind its condition. -/
def leftover (value : Text) : Text :=
  if isBare value then (Lexeme.spanRun value).2 else []

theorem quote_of_isBare {value : Text} (bare : isBare value = true) :
    quote value = value := by
  simp_all [quote, isBare]

theorem quote_of_not_isBare {value : Text} (quoted : isBare value = false) :
    quote value = Edit.phrase value := by
  have special : (value.isEmpty || value.any isSpecial) = true := by
    rw [isBare] at quoted
    cases empty : value.isEmpty <;> simp_all
  rw [quote, if_pos special]

theorem not_isSpecial_of_isBare {value : Text} (bare : isBare value = true)
    {character : Char} (member : character ∈ value) :
    isSpecial character = false := by
  simp only [isBare, Bool.and_eq_true, Bool.not_eq_true',
    List.any_eq_false] at bare
  exact Bool.eq_false_iff.mpr (bare.2 character member)

theorem endsRun_of_not_isSpecial {character : Char}
    (plain : isSpecial character = false) :
    Lexeme.endsRun character = false := by
  rw [isSpecial] at plain
  simp_all [Lexeme.endsRun]

private theorem beginsSeparator_of_not_isSpecial {character : Char}
    (plain : isSpecial character = false) :
    Head.beginsSeparator character = false := by
  rw [isSpecial] at plain
  simp_all [Head.beginsSeparator]

/-- What the mapping says before a value. -/
def head (mapping : Mapping) (comparison : Option Comparison) : Head :=
  ⟨mapping.negated, mapping.operator, comparison⟩

/-- The condition that a term is read as. -/
def asked (mapping : Mapping) (term : Option Comparison × Text) : Condition :=
  { mapping.head term.1 with
    value := readValue term.2
    quoted := !isBare term.2 }

/-- The forms that a term is read as. -/
def termForms (mapping : Mapping) (term : Option Comparison × Text) :
    List Form :=
  .condition (mapping.asked term) :: Lexeme.forms (leftover term.2)

private theorem renderTerm_eq (mapping : Mapping)
    (term : Option Comparison × Text) :
    mapping.renderTerm term = (mapping.head term.1).text ++ quote term.2 := rfl

private theorem endsRun_of_mem_bare {head : Head}
    (named : Head.isName head.name = true) {value : Text}
    (bare : isBare value = true) {character : Char}
    (member : character ∈ head.text ++ value) :
    Lexeme.endsRun character = false := by
  rcases List.mem_append.mp member with inHead | inValue
  · exact (Head.text_bounds named inHead).1
  · exact endsRun_of_not_isSpecial (not_isSpecial_of_isBare bare inValue)

private theorem renderTerm_readsAs {mapping : Mapping}
    (named : Head.isName mapping.operator = true)
    (term : Option Comparison × Text) :
    Lexeme.ReadsAs (mapping.renderTerm term) (mapping.termForms term) := by
  obtain ⟨comparison, value⟩ := term
  have headNamed : Head.isName (mapping.head comparison).name = true := named
  rw [renderTerm_eq]
  cases bare : isBare value with
  | true =>
      have inside := fun character
          (member : character ∈ (mapping.head comparison).text ++ value) =>
        endsRun_of_mem_bare headNamed bare member
      rw [quote_of_isBare bare]
      constructor
      · intro rest separates
        rw [Lexeme.forms_append inside separates,
          Lexeme.forms_condition_bare headNamed]
        · simp [termForms, asked, readValue, leftover, bare]
        · intro character member
          exact inside character (List.mem_append_right _ member)
        · rintro character member rfl
          exact absurd (not_isSpecial_of_isBare bare member) (by decide)
      · exact Lexeme.isBalanced_of_inside inside
  | false =>
      rw [quote_of_not_isBare bare]
      constructor
      · intro rest _
        rw [List.append_assoc, Lexeme.forms_condition_quoted headNamed]
        simp [termForms, asked, readValue, leftover, bare]
      · apply Quotation.IsBalanced.append
        · exact Head.isBalanced_text headNamed
        · exact Quotation.isBalanced_phrase value

private theorem mem_of_mem_leftover {value : Text} {character : Char}
    (member : character ∈ leftover value) :
    character ∈ value ∧ isBare value = true := by
  rw [leftover] at member
  split at member
  next bare =>
    refine ⟨?_, bare⟩
    rw [← Lexeme.spanRun_append value]
    exact List.mem_append_right _ member
  next => cases member

private theorem startsSymbol_leftover {value : Text}
    (left : leftover value ≠ []) :
    Lexeme.startsSymbol (leftover value) = true := by
  rw [leftover] at left ⊢
  split at left
  next bare =>
    rw [if_pos bare]
    exact Lexeme.startsSymbol_of_spanRun (fun character member =>
      endsRun_of_not_isSpecial (not_isSpecial_of_isBare bare member)) left
  next => contradiction

theorem leftover_isRemainder (value : Text) :
    IsRemainder (Lexeme.forms (leftover value)) ∧
      ∀ first ∈ (Lexeme.forms (leftover value)).head?, first = .word := by
  obtain ⟨remainder, start⟩ := @isRemainder_forms (leftover value)
    (by
      intro character member
      obtain ⟨inValue, bare⟩ := mem_of_mem_leftover member
      exact endsRun_of_not_isSpecial (not_isSpecial_of_isBare bare inValue))
    (by
      intro character member
      obtain ⟨inValue, bare⟩ := mem_of_mem_leftover member
      exact beginsSeparator_of_not_isSpecial
        (not_isSpecial_of_isBare bare inValue))
  refine ⟨remainder, ?_⟩
  intro first isFirst
  by_cases left : leftover value = []
  · simp [left] at isFirst
  · exact start (startsSymbol_leftover left) first isFirst

theorem termForms_isClause (mapping : Mapping)
    (term : Option Comparison × Text) : IsClause (mapping.termForms term) :=
  isClause_condition (leftover_isRemainder term.2).1
    (leftover_isRemainder term.2).2

theorem condition_mem_termForms_iff {mapping : Mapping}
    {term : Option Comparison × Text} {condition : Condition} :
    .condition condition ∈ mapping.termForms term ↔
      condition = mapping.asked term := by
  rw [termForms, List.mem_cons, Form.condition.injEq, or_iff_left_iff_imp]
  intro member
  have spoken := (leftover_isRemainder term.2).1.spoken _ member
  simp [Lexeme.isSpoken, Form.connective?] at spoken

/-- The mapping as it is written. -/
def written (mapping : Mapping) : Text :=
  let terms := mapping.terms.map mapping.renderTerm
  if mapping.joiner = some .or then "(" ++ Text.join " OR " terms ++ ")"
  else Text.join " " terms

private theorem render_eq (mapping : Mapping) :
    mapping.render =
      if mapping.value.isEmpty then .error (.noValue mapping.operator)
      else .ok mapping.written := rfl

theorem render_isOk {mapping : Mapping} (filled : mapping.value ≠ []) :
    mapping.render = .ok mapping.written := by
  rw [render_eq, if_neg (by simpa using filled)]

theorem mapM_render_isOk {mappings : List Mapping}
    (filled : ∀ mapping ∈ mappings, mapping.value ≠ []) :
    mappings.mapM render = .ok (mappings.map written) := by
  induction mappings with
  | nil => rfl
  | cons first rest ih =>
      rw [List.mapM_cons, render_isOk (filled first List.mem_cons_self),
        ih fun mapping member =>
          filled mapping (List.mem_cons_of_mem first member)]
      rfl

private theorem mapM_render_eq_ok_iff {mappings : List Mapping}
    {rendered : List Text} :
    mappings.mapM render = .ok rendered ↔
      (∀ mapping ∈ mappings, mapping.value ≠ []) ∧
        rendered = mappings.map written := by
  constructor
  · intro isRendered
    have filled : ∀ mapping ∈ mappings, mapping.value ≠ [] := by
      induction mappings generalizing rendered with
      | nil => simp
      | cons first rest ih =>
          rw [List.mapM_cons, render_eq] at isRendered
          by_cases empty : first.value.isEmpty = true
          · rw [if_pos empty] at isRendered
            cases isRendered
          · rw [if_neg empty] at isRendered
            cases later : rest.mapM render with
            | error fault =>
                rw [later] at isRendered
                cases isRendered
            | ok more =>
                exact List.forall_mem_cons.mpr
                  ⟨by simpa using empty, ih later⟩
    rw [mapM_render_isOk filled] at isRendered
    exact ⟨filled, (Except.ok.inj isRendered).symm⟩
  · rintro ⟨filled, rfl⟩
    exact mapM_render_isOk filled

theorem query_eq_ok_iff {mappings : List Mapping} {text : Text} :
    query mappings = .ok text ↔
      (∀ mapping ∈ mappings, mapping.value ≠ []) ∧ mappings ≠ [] ∧
        text = Text.join " " (mappings.map written) := by
  rw [query]
  cases rendered : mappings.mapM render with
  | error fault =>
      constructor
      · intro found
        cases found
      · rintro ⟨filled, _⟩
        rw [mapM_render_isOk filled] at rendered
        cases rendered
  | ok texts =>
      obtain ⟨filled, rfl⟩ := mapM_render_eq_ok_iff.mp rendered
      by_cases none : mappings = []
      · subst none
        constructor
        · intro found
          cases found
        · rintro ⟨_, some, _⟩
          contradiction
      · have some : (mappings.map written).isEmpty = false := by
          simpa using none
        change (if (mappings.map written).isEmpty = true then
          Except.error RenderError.noMapping
            else .ok (Text.join " " (mappings.map written))) = .ok text ↔ _
        rw [some, if_neg (by simp), Except.ok.injEq]
        exact ⟨fun same => ⟨filled, none, same.symm⟩,
          fun ⟨_, _, same⟩ => same.symm⟩

/-- The forms that a mapping is read as. -/
def forms (mapping : Mapping) : List Form :=
  let terms := mapping.terms.map mapping.termForms
  if mapping.joiner = some .or then enclose (alternatives terms)
  else terms.flatten

theorem written_readsAs {mapping : Mapping}
    (named : Head.isName mapping.operator = true) :
    Lexeme.ReadsAs mapping.written mapping.forms := by
  have reads := fun term (_ : term ∈ mapping.terms) =>
    renderTerm_readsAs named term
  rw [written, forms]
  split
  · exact (Lexeme.ReadsAs.joinOr reads).enclose
  · exact Lexeme.ReadsAs.joinBlank reads

end CardQuery.Mapping
