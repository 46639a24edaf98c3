import CardQuery.Proofs.Mapping.Rendering

/-!
# When a rendered query says what the mappings mean

The forms of a rendered query and the forms that its mappings mean are arranged
in the same way and differ only in the terms.  A term says its condition and
what a bare value leaves.  It therefore says what it means exactly if the value
leaves nothing, which is to say that it is quoted or holds no symbol.  No two
deviations can cancel each other, since the conditions alone already tell the
terms apart.
-/

namespace CardQuery

/-- The form without the mark that its value was quoted. -/
def Form.unmarked : Form → Form
  | .condition asked => .condition { asked with quoted := false }
  | form => form

namespace Lexeme

private theorem startsSymbol_iff_prefixes {text : Text} :
    startsSymbol text = true ↔
      ("&&" : Text) <+: text ∨ ("||" : Text) <+: text := by
  simp [startsSymbol]

private theorem spanRun_takes_all_iff {text : Text}
    (inside : ∀ character ∈ text, endsRun character = false) :
    (spanRun text).2 = [] ↔
      ¬ ("&&" : Text) <:+: text ∧ ¬ ("||" : Text) <:+: text := by
  induction text with
  | nil => simp [spanRun]
  | cons first rest ih =>
      have later := ih fun character member =>
        inside character (List.mem_cons_of_mem first member)
      have starts := @startsSymbol_iff_prefixes (first :: rest)
      rw [spanRun, inside first List.mem_cons_self, Bool.false_or,
        List.infix_cons_iff, List.infix_cons_iff]
      cases symbol : startsSymbol (first :: rest) with
      | true =>
          have found := starts.mp symbol
          simp only [if_true, reduceCtorEq, false_iff]
          rintro ⟨noAnd, noOr⟩
          rcases found with isAnd | isOr
          · exact noAnd (Or.inl isAnd)
          · exact noOr (Or.inl isOr)
      | false =>
          have none : ¬ (("&&" : Text) <+: first :: rest ∨
              ("||" : Text) <+: first :: rest) := by
            rw [← starts, symbol]
            simp
          rw [not_or] at none
          simp only [Bool.false_eq_true, if_false, later, none.1, none.2,
            false_or]

end Lexeme

namespace Structure

private theorem map_alternatives {change : Form → Form}
    (keeps : change (.connective .or) = .connective .or)
    (clauses : List (List Form)) :
    (alternatives clauses).map change =
      alternatives (clauses.map (·.map change)) := by
  induction clauses with
  | nil => simp [alternatives]
  | cons first rest ih =>
      by_cases single : rest = []
      · subst single
        simp [alternatives]
      · rw [alternatives_cons single, List.map_cons,
          alternatives_cons (by simpa using single), List.map_append,
          List.map_cons, keeps, ih]

private theorem filterMap_alternatives {α : Type} {found : Form → Option α}
    (passes : found (.connective .or) = none) (clauses : List (List Form)) :
    (alternatives clauses).filterMap found =
      (clauses.map (·.filterMap found)).flatten := by
  induction clauses with
  | nil => simp [alternatives]
  | cons first rest ih =>
      by_cases single : rest = []
      · subst single
        simp [alternatives]
      · rw [alternatives_cons single, List.filterMap_append,
          List.filterMap_cons_none passes, ih, List.map_cons,
          List.flatten_cons]

end Structure

namespace Mapping

open Structure

/-- Rows of forms, one for each term, in the arrangement of the mapping. -/
def arrange (mapping : Mapping)
    (row : Option Comparison × Text → List Form) : List Form :=
  if mapping.joiner = some .or then
    enclose (alternatives (mapping.terms.map row))
  else (mapping.terms.map row).flatten

/-- The condition that a term stands for. -/
def meant (mapping : Mapping) (term : Option Comparison × Text) : Condition :=
  { mapping.head term.1 with value := term.2, quoted := false }

/-- The forms that a mapping stands for: a condition for each term, and where
any of the terms is enough, `OR` between them and brackets around them. -/
def flattening (mapping : Mapping) : List Form :=
  mapping.arrange fun term => [.condition (mapping.meant term)]

private theorem forms_eq_arrange (mapping : Mapping) :
    mapping.forms = mapping.arrange mapping.termForms := rfl

section

variable {mapping : Mapping}

private theorem map_arrange {change : Form → Form}
    (keepsBracket : ∀ isOpen, change (.bracket isOpen) = .bracket isOpen)
    (keepsOr : change (.connective .or) = .connective .or)
    (row : Option Comparison × Text → List Form) :
    (mapping.arrange row).map change =
      mapping.arrange fun term => (row term).map change := by
  rw [arrange, arrange]
  split
  · simp [enclose, keepsBracket, map_alternatives keepsOr, Function.comp_def]
  · simp [List.map_flatten, Function.comp_def]

private theorem filterMap_arrange (row : Option Comparison × Text → List Form) :
    (mapping.arrange row).filterMap Form.condition? =
      (mapping.terms.map fun term =>
        (row term).filterMap Form.condition?).flatten := by
  have inner := @filterMap_alternatives _ Form.condition? rfl
    (mapping.terms.map row)
  rw [List.map_map] at inner
  rw [arrange]
  split
  · rw [enclose, List.filterMap_cons_none rfl, List.filterMap_append, inner,
      List.filterMap_cons_none rfl, List.filterMap_nil, List.append_nil]
    rfl
  · simp [List.filterMap_flatten, Function.comp_def]

private theorem arrange_congr
    {left right : Option Comparison × Text → List Form}
    (same : ∀ term ∈ mapping.terms, left term = right term) :
    mapping.arrange left = mapping.arrange right := by
  rw [arrange, arrange, List.map_congr_left same]

end

private theorem length_lt_length_phrase (value : Text) :
    value.length < (Edit.phrase value).length := by
  have escaped : value.length ≤ (value.flatMap Edit.escape).length := by
    induction value with
    | nil => exact Nat.le_refl _
    | cons first rest ih =>
        have longer : 1 ≤ (Edit.escape first).length := by
          rw [Edit.escape]
          split <;> simp
        rw [List.flatMap_cons, List.length_append, List.length_cons]
        omega
  simp only [Edit.phrase, List.length_cons, List.length_append]
  omega

private theorem quote_eq_self_iff {value : Text} :
    quote value = value ↔ isBare value = true := by
  constructor
  · intro same
    by_contra quoted
    rw [quote_of_not_isBare (by simpa using quoted)] at same
    have longer := length_lt_length_phrase value
    rw [same] at longer
    exact Nat.lt_irrefl _ longer
  · exact quote_of_isBare

private theorem leftover_eq_nil_iff {value : Text} :
    leftover value = [] ↔ (quote value = value →
      ¬ ("&&" : Text) <:+: value ∧ ¬ ("||" : Text) <:+: value) := by
  rw [quote_eq_self_iff, leftover]
  cases bare : isBare value with
  | false => simp
  | true =>
      rw [if_pos rfl, Lexeme.spanRun_takes_all_iff fun character member =>
        endsRun_of_not_isSpecial (not_isSpecial_of_isBare bare member)]
      simp

private theorem readValue_append_leftover (value : Text) :
    readValue value ++ leftover value = value := by
  rw [readValue, leftover]
  split
  · exact Lexeme.spanRun_append value
  · exact List.append_nil value

/-- A term is read as the condition that it stands for exactly if its value
leaves nothing. -/
theorem unmarked_asked_iff {mapping : Mapping}
    {term : Option Comparison × Text} :
    (Form.condition (mapping.asked term)).unmarked =
        .condition (mapping.meant term) ↔
      leftover term.2 = [] := by
  have whole := readValue_append_leftover term.2
  have sameValue : (Form.condition (mapping.asked term)).unmarked =
        .condition (mapping.meant term) ↔ readValue term.2 = term.2 := by
    simp [Form.unmarked, asked, meant]
  rw [sameValue]
  constructor
  · intro same
    rw [same] at whole
    exact List.append_right_eq_self.mp whole
  · intro none
    rwa [none, List.append_nil] at whole

/-- The condition of a term is the only one among its forms. -/
theorem filterMap_termForms (mapping : Mapping)
    (term : Option Comparison × Text) :
    ((mapping.termForms term).map Form.unmarked).filterMap Form.condition? =
      [{ mapping.asked term with quoted := false }] := by
  have others : ((Lexeme.forms (leftover term.2)).map
      Form.unmarked).filterMap Form.condition? = [] := by
    rw [List.filterMap_map, List.filterMap_eq_nil_iff]
    intro form member
    have spoken := (leftover_isRemainder term.2).1.spoken form member
    rcases Lexeme.isSpoken_iff.mp spoken with rfl | ⟨joining, rfl⟩ <;> rfl
  rw [termForms, List.map_cons, List.filterMap_cons, others]
  rfl

/-- The terms of all mappings, each with its mapping. -/
def allTerms (mappings : List Mapping) :
    List (Mapping × (Option Comparison × Text)) :=
  mappings.flatMap fun mapping => mapping.terms.map (mapping, ·)

private theorem mem_allTerms {mappings : List Mapping} {mapping : Mapping}
    (member : mapping ∈ mappings) {term : Option Comparison × Text}
    (isTerm : term ∈ mapping.terms) : (mapping, term) ∈ allTerms mappings :=
  List.mem_flatMap.mpr ⟨mapping, member, List.mem_map_of_mem isTerm⟩

/-- Where every row has one condition, the arrangements have them in the order
of the terms. -/
theorem filterMap_arrangements {row : Mapping → Option Comparison × Text →
      List Form}
    {condition : Mapping → Option Comparison × Text → Condition}
    (only : ∀ mapping term,
      (row mapping term).filterMap Form.condition? = [condition mapping term])
    (mappings : List Mapping) :
    (mappings.map fun mapping => mapping.arrange (row mapping)).flatten.filterMap
        Form.condition? =
      (allTerms mappings).map fun pair => condition pair.1 pair.2 := by
  have single {α : Type} {items : List α} (item : α → Condition) :
      (items.map fun one => [item one]).flatten = items.map item := by
    induction items with
    | nil => rfl
    | cons first rest ih => simp [ih]
  simp [allTerms, List.filterMap_flatten, filterMap_arrange, only,
    List.flatMap_def, Function.comp_def, single]

/-- Rendered mappings are read as the conditions that they stand for, with
nothing before, between or behind them, exactly if no value that is written
without quotes holds a symbol. -/
theorem read_query_eq_flattening_iff {mappings : List Mapping}
    (named : ∀ mapping ∈ mappings, Head.isName mapping.operator = true)
    {text : Text} (rendered : query mappings = .ok text) :
    (meaningfulForms (Token.read text)).map Form.unmarked =
        (mappings.map flattening).flatten ↔
      ∀ mapping ∈ mappings, ∀ term ∈ mapping.terms,
        quote term.2 = term.2 →
          ¬ ("&&" : Text) <:+: term.2 ∧ ¬ ("||" : Text) <:+: term.2 := by
  obtain ⟨_, _, rfl⟩ := query_eq_ok_iff.mp rendered
  have reads := Lexeme.ReadsAs.joinBlank fun mapping member =>
    written_readsAs (named mapping member)
  have readForms :
      (meaningfulForms (Token.read (Text.join " " (mappings.map written)))).map
        Form.unmarked = (mappings.map fun mapping => mapping.arrange fun term =>
          (mapping.termForms term).map Form.unmarked).flatten := by
    rw [meaningfulForms_read, reads.forms_eq, List.map_flatten, List.map_map]
    congr 2
    funext mapping
    rw [Function.comp_apply, forms_eq_arrange]
    exact map_arrange (fun _ => rfl) rfl mapping.termForms
  rw [readForms]
  simp only [← leftover_eq_nil_iff]
  constructor
  · intro same mapping member term isTerm
    have conditions := congrArg (List.filterMap Form.condition?) same
    have asMeant : ((mappings.map flattening).flatten).filterMap
        Form.condition? =
          (allTerms mappings).map fun pair => pair.1.meant pair.2 :=
      filterMap_arrangements (fun _ _ => rfl) mappings
    rw [filterMap_arrangements filterMap_termForms, asMeant] at conditions
    have sameTerm := List.map_inj_left.mp conditions (mapping, term)
      (mem_allTerms member isTerm)
    exact unmarked_asked_iff.mp (congrArg Form.condition sameTerm)
  · intro none
    congr 1
    apply List.map_congr_left
    intro mapping member
    apply arrange_congr
    intro term isTerm
    have left := none mapping member term isTerm
    rw [termForms, left, Lexeme.forms_nil, List.map_singleton,
      unmarked_asked_iff.mpr left]

theorem read_query_eq_flattening_colors_and_text :
    let colors := joined .or "c" ["red", "blue"] (.finite 1) .color none
    let text := single "o" "draw a \"card\"" none (.finite 1) .keyword none
    query [colors, text] =
        .ok "(c:red OR c:blue) o:\"draw a \\\"card\\\"\"" ∧
      (meaningfulForms (Token.read
        "(c:red OR c:blue) o:\"draw a \\\"card\\\"\"")).map Form.unmarked =
        ([colors, text].map flattening).flatten := by
  intro colors text
  have rendered : query [colors, text] =
      .ok "(c:red OR c:blue) o:\"draw a \\\"card\\\"\"" := by decide
  exact ⟨rendered,
    (read_query_eq_flattening_iff (by decide) rendered).mpr (by decide)⟩

end Mapping

end CardQuery
