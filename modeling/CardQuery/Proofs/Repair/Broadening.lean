import CardQuery.Proofs.Mapping.Validity
import CardQuery.Proofs.Repair.Removal
import Mathlib.Data.List.Nodup

/-!
# Broadened queries

Broadening drops the conditions of a group from a query, and the query that is
offered says what the query said without them.  Its brackets still close and the
registry still accepts its conditions, so only neighbours can be at fault: a
connective may have lost what it joined, and brackets may have lost all that was
between them.  A broadened query is therefore valid exactly if the forms that
are left are coherent.

The conditions are dropped one after another, by places in the query as it was.
What is behind a place has been dealt with before, so none of these places
moves: in a text whose quotes are closed, the lexemes that are left are those
that no place covers, in order.
-/

namespace CardQuery

open Structure

private theorem Structure.closesAll_filter {keeps : Form → Bool}
    (brackets : ∀ isOpen, keeps (.bracket isOpen) = true) (pending : Nat)
    (row : List Form) :
    closesAll pending (row.filter keeps) = closesAll pending row := by
  induction row generalizing pending with
  | nil => rfl
  | cons form row ih =>
      cases kept : keeps form with
      | false =>
          have noBracket (isOpen : Bool) : form ≠ .bracket isOpen := by
            rintro rfl
            rw [brackets] at kept
            cases kept
          rw [List.filter_cons_of_neg (by simp [kept]), ih,
            closesAll_other (noBracket true) (noBracket false)]
      | true =>
          rw [List.filter_cons_of_pos kept]
          cases form with
          | bracket isOpen =>
              cases isOpen with
              | true => simp [ih]
              | false => cases pending <;> simp [ih]
          | _ => simp [closesAll_other, ih]

namespace Lexeme

/-- A text that was stripped says something unless it is empty. -/
theorem forms_strip_ne_nil {text : Text} (nonempty : Text.strip text ≠ []) :
    forms (Text.strip text) ≠ [] := by
  obtain ⟨blanks, split, _⟩ := Text.exists_blanks (Text.stripStart text)
  rw [Text.strip] at nonempty ⊢
  cases stripped : Text.stripEnd (Text.stripStart text) with
  | nil => contradiction
  | cons first rest =>
      have start := List.head?_dropWhile_not Text.isBlank text
      rw [stripped] at split
      rw [← Text.stripStart, split] at start
      have noBlank : Text.isBlank first = false := by simpa using start
      rw [forms_cons, if_pos (isMeaningful_next noBlank rest)]
      exact List.cons_ne_nil _ _

end Lexeme

namespace Refine

namespace Group

variable (group : Group) (registry : Registry)

/-- Whether a form is a condition with an operator of the group. -/
def drops (form : Form) : Bool :=
  (form.condition?.bind (registry.get? ·.name)).any
    (group.names.contains ·.name)

/-- Forms without the conditions of the group. -/
def without (row : List Form) : List Form :=
  row.filter (!group.drops registry ·)

end Group

variable {registry : Registry} {query : Text} {group : Group}

/-- The spans of the conditions of a group. -/
def groupSpans (registry : Registry) (query : Text) (group : Group) :
    List Span :=
  ((knownConditions registry query).filter fun (_, name) =>
    group.names.contains name).map (·.1.span)

/-- The query without the conditions of a group, whether it is offered or
not. -/
def broadened (registry : Registry) (query : Text) (group : Group) : Text :=
  Text.strip (removeAll query (groupSpans registry query group))

theorem broadenBy?_eq (registry : Registry) (query : Text) (group : Group) :
    broadenBy? registry query group =
      if (groupSpans registry query group).isEmpty ||
          (broadened registry query group).isEmpty ||
          broadened registry query group == query then none
      else
        some ⟨.refinement, group.description ++ " to broaden your search",
          broadened registry query group, .medium, .broadensResults⟩ := rfl

private theorem groupSpans_eq (registry : Registry) (query : Text)
    (group : Group) :
    groupSpans registry query group =
      ((Token.pieces query).filter (group.drops registry ·.form)).map
        Token.span := by
  have noFinish : [Token.mk ⟨.finish, []⟩ query.length].filter
      (group.drops registry ·.form) = [] := rfl
  rw [← List.append_nil ((Token.pieces query).filter _), ← noFinish,
    ← List.filter_append, ← Token.read_eq, groupSpans, knownConditions]
  simp only [Token.conditions, ← List.filterMap_eq_map,
    ← List.filterMap_eq_filter, List.filterMap_filterMap]
  apply List.filterMap_congr
  intro token _
  cases isAsked : token.form.condition? with
  | none => simp [Group.drops, isAsked, Option.guard]
  | some asked =>
      cases found : registry.get? asked.name with
      | none => simp [Group.drops, isAsked, found, Option.guard]
      | some operator =>
          cases named : group.names.contains operator.name <;>
            simp_all [Group.drops, Option.guard]

/-- A broadened query comprises what counts in the query apart from the
conditions of the group. -/
theorem broadened_comprises (balanced : Quotation.IsBalanced query) :
    Lexeme.Comprises (broadened registry query group)
      ((Lexeme.counted query).filter (!group.drops registry ·.form)) := by
  have closed := fun lexeme (member : lexeme ∈ Lexeme.scan query) =>
    Lexeme.openQuote?_eq_none_of_mem_scan
      (Quotation.isBalanced_iff.mp balanced) member
  have only : ∀ form, group.drops registry form = true →
      ∃ asked, form = .condition asked := by
    intro form dropped
    cases form with
    | condition asked => exact ⟨asked, rfl⟩
    | _ => cases dropped
  have scanned : Lexeme.scan query = [] ++ ([] ++ Lexeme.scan query) := rfl
  obtain ⟨tail, removed, comprises⟩ := exists_removeAll only closed scanned
    (by simp [Edit.IsFirm]) (by simp)
  rw [broadened, groupSpans_eq]
  change removeAll query (((Token.pieces query).filter
    (group.drops registry ·.form)).map Token.span) = tail at removed
  rw [removed]
  exact comprises.stripStart.stripEnd

private theorem broadened_readsAs (balanced : Quotation.IsBalanced query) :
    Lexeme.ReadsAs (broadened registry query group)
      (group.without registry (Lexeme.forms query)) := by
  rw [Group.without, ← Lexeme.map_form_counted, List.filter_map]
  exact (broadened_comprises balanced).readsAs

theorem readsAs_of_errors_eq_nil {validator : Validator}
    (faultless : validator.errors query = []) :
    Lexeme.ReadsAs query (Lexeme.forms query) := by
  obtain ⟨_, quoted, _⟩ := Validator.errors_eq_nil_iff.mp faultless
  have closed := Quotation.findings_eq_nil_iff.mp quoted
  exact Lexeme.readsAs_iff.mpr ⟨Quotation.isBalanced_iff.mpr closed, rfl⟩

/-- A query without errors has none without the conditions of a group exactly
if the forms that are left are coherent. -/
theorem errors_broadened_eq_nil_iff {validator : Validator}
    (faultless : validator.errors query = []) :
    validator.errors (broadened registry query group) = [] ↔
      IsCoherent (group.without registry (Lexeme.forms query)) := by
  have reads := readsAs_of_errors_eq_nil faultless
  obtain ⟨sound, accepted⟩ :=
    (Validator.errors_eq_nil_iff_of_readsAs reads).mp faultless
  have closes : closesAll 0 (group.without registry (Lexeme.forms query)) =
      true := by
    rw [Group.without, closesAll_filter (fun _ => rfl)]
    exact sound.closes
  rw [Validator.errors_eq_nil_iff_of_readsAs (broadened_readsAs reads.balanced)]
  constructor
  · exact fun ⟨stillSound, _⟩ => stillSound.coherent
  · intro coherent
    exact ⟨⟨closes, coherent⟩, fun condition member =>
      accepted condition (List.mem_of_mem_filter member)⟩

/-- Every group whose conditions a query can do without has its broadened query
offered, unless that is the query itself. -/
theorem broadenBy?_cases (registry : Registry) (query : Text) (group : Group) :
    (∃ suggestion, broadenBy? registry query group = some suggestion ∧
      suggestion.query = broadened registry query group ∧
      broadened registry query group ≠ []) ∨
    (broadenBy? registry query group = none ∧
      (groupSpans registry query group = [] ∨
        broadened registry query group = [] ∨
        broadened registry query group = query)) := by
  rw [broadenBy?_eq]
  split
  next withheld =>
    right
    simpa [or_assoc] using withheld
  next offered =>
    simp only [Bool.or_eq_true, not_or, List.isEmpty_iff] at offered
    exact Or.inl ⟨_, rfl, rfl, offered.1.2⟩

/-- A query that is not broadened is left with nothing or stays as it is. -/
theorem without_eq_of_withheld
    (reads : Lexeme.ReadsAs query (Lexeme.forms query))
    (withheld : groupSpans registry query group = [] ∨
      broadened registry query group = [] ∨
      broadened registry query group = query) :
    group.without registry (Lexeme.forms query) = [] ∨
      group.without registry (Lexeme.forms query) = Lexeme.forms query := by
  have kept := @broadened_readsAs registry query group reads.balanced
  rw [← kept.forms_eq]
  rcases withheld with none | empty | same
  · right
    rw [broadened, none]
    exact reads.stripStart.stripEnd.forms_eq
  · left
    rw [empty, Lexeme.forms_nil]
  · right
    rw [same]

/-- Broadening a valid query without results always succeeds.  What it offers is
valid exactly if for no group that leaves something of the query a connective or
a pair of brackets is left without what it needs. -/
theorem suggestions_isValid_iff (validator : Validator) {query : Text}
    (valid : (validator.validate query none).isValid = true)
    (threshold : Int) :
    ∃ offered,
      suggestions validator.registry threshold query (.number 0) =
          .ok offered ∧
        ((∀ suggestion ∈ offered,
            (validator.validate suggestion.query none).isValid = true) ↔
          ∀ group ∈ groups,
            group.without validator.registry
                (meaningfulForms (Token.read query)) ≠ [] →
              IsCoherent (group.without validator.registry
                (meaningfulForms (Token.read query)))) := by
  have isValid_iff (query : Text) :
      (validator.validate query none).isValid = true ↔
        validator.errors query = [] :=
    Validator.isValid_iff_errors_eq_nil validator query none
  rw [isValid_iff] at valid
  have reads := readsAs_of_errors_eq_nil valid
  refine ⟨broaden validator.registry query, rfl, ?_⟩
  simp only [isValid_iff, meaningfulForms_read]
  constructor
  · intro allValid group member left
    rcases broadenBy?_cases validator.registry query group with
      ⟨suggestion, offered, isQuery, _⟩ | ⟨_, withheld⟩
    · have isOffered : suggestion ∈ broaden validator.registry query :=
        List.mem_filterMap.mpr ⟨group, member, offered⟩
      have suggested := allValid suggestion isOffered
      rw [isQuery] at suggested
      exact (errors_broadened_eq_nil_iff valid).mp suggested
    · have same := (without_eq_of_withheld reads withheld).resolve_left left
      rw [same]
      exact ((Validator.errors_eq_nil_iff_of_readsAs reads).mp valid).1.coherent
  · intro coherent suggestion isOffered
    obtain ⟨group, member, offered⟩ := List.mem_filterMap.mp isOffered
    rcases broadenBy?_cases validator.registry query group with
      ⟨other, isOther, isQuery, some⟩ | ⟨none, _⟩
    · rw [offered, Option.some.injEq] at isOther
      rw [isOther, isQuery, errors_broadened_eq_nil_iff valid]
      apply coherent group member
      rw [← (broadened_readsAs reads.balanced).forms_eq]
      exact Lexeme.forms_strip_ne_nil some
    · rw [offered] at none
      cases none

theorem suggestions_isValid_iff_set_and_format :
    (Validator.standard.validate "c:red (t:elf OR t:goblin) set:neo f:modern"
        none).isValid = true ∧
      ∃ offered,
        suggestions Registry.standard 100
            "c:red (t:elf OR t:goblin) set:neo f:modern" (.number 0) =
          .ok offered ∧
        ∀ suggestion ∈ offered,
          (Validator.standard.validate suggestion.query none).isValid =
            true := by
  have valid : (Validator.standard.validate
      "c:red (t:elf OR t:goblin) set:neo f:modern" none).isValid = true := by
    decide +kernel
  obtain ⟨offered, found, allValid⟩ :=
    suggestions_isValid_iff Validator.standard valid 100
  exact ⟨valid, offered, found, allValid.mpr (by decide +kernel)⟩

/-- A set may be one of two alternatives, and then the query that is offered
without it ends in the `OR` between them. -/
theorem not_suggestions_isValid_set_alternative :
    (Validator.standard.validate "c:red OR set:neo" none).isValid = true ∧
      ∃ offered,
        suggestions Registry.standard 100 "c:red OR set:neo" (.number 0) =
          .ok offered ∧
        ∃ suggestion ∈ offered, suggestion.query = "c:red OR" ∧
          (Validator.standard.validate suggestion.query none).isValid =
            false := by
  refine ⟨by decide +kernel, _, rfl, ?_⟩
  decide +kernel

/-- The group that a suggestion speaks of. -/
def Group.IsNamedBy (group : Group) (suggestion : Suggestion) : Prop :=
  suggestion.description = group.description ++ " to broaden your search"

private theorem eq_of_isNamedBy {other : Group} (isGroup : group ∈ groups)
    (isOther : other ∈ groups) {suggestion : Suggestion}
    (named : group.IsNamedBy suggestion)
    (otherNamed : other.IsNamedBy suggestion) : group = other := by
  have same : group.description = other.description :=
    List.append_cancel_right (named.symm.trans otherNamed)
  have distinct : (groups.map (·.description)).Nodup := by decide
  exact List.inj_on_of_nodup_map distinct isGroup isOther same

/-- A suggestion that is offered for a group is the broadened query. -/
theorem query_eq_broadened {suggestion : Suggestion}
    (offered : suggestion ∈ broaden registry query) (isGroup : group ∈ groups)
    (named : group.IsNamedBy suggestion) :
    broadenBy? registry query group = some suggestion ∧
      suggestion.query = broadened registry query group := by
  obtain ⟨other, isOther, isOffered⟩ := List.mem_filterMap.mp offered
  have whole := isOffered
  rw [broadenBy?_eq] at whole
  split at whole
  · cases whole
  · cases whole
    cases eq_of_isNamedBy isGroup isOther named rfl
    exact ⟨isOffered, rfl⟩

private theorem groupSpans_ne_nil_iff :
    groupSpans registry query group ≠ [] ↔
      ∃ lexeme ∈ Lexeme.counted query,
        group.drops registry lexeme.form = true := by
  rw [groupSpans_eq, Ne, List.map_eq_nil_iff, List.filter_eq_nil_iff]
  push Not
  constructor
  · rintro ⟨token, isPiece, dropped⟩
    have counts : token.form.isMeaningful = true := by
      cases form : token.form with
      | blank | finish =>
          rw [form] at dropped
          cases dropped
      | _ => rfl
    exact ⟨token.toLexeme, List.mem_filter.mpr
      ⟨Token.toLexeme_mem_scan_of_mem_pieces isPiece, counts⟩, dropped⟩
  · rintro ⟨lexeme, isCounted, dropped⟩
    have isLexeme := List.mem_of_mem_filter isCounted
    rw [← Lexeme.map_toLexeme_placed 0 (Lexeme.scan query)] at isLexeme
    obtain ⟨token, isPiece, rfl⟩ := List.mem_map.mp isLexeme
    exact ⟨token, isPiece, dropped⟩

private theorem broadened_ne_nil_iff (balanced : Quotation.IsBalanced query) :
    broadened registry query group ≠ [] ↔
      ∃ lexeme ∈ Lexeme.counted query,
        group.drops registry lexeme.form = false := by
  have left := (@broadened_comprises registry query group balanced).counted_eq
  have some : broadened registry query group ≠ [] ↔
      Lexeme.counted (broadened registry query group) ≠ [] := by
    constructor
    · intro nonempty none
      apply Lexeme.forms_strip_ne_nil nonempty
      rw [← Lexeme.map_form_counted]
      exact List.map_eq_nil_iff.mpr none
    · intro nonempty none
      exact nonempty (none ▸ Lexeme.counted_nil)
  rw [some, left, Ne, List.filter_eq_nil_iff]
  push Not
  simp

/-- The broadened query is offered exactly if something is dropped and something
else that counts is left. -/
theorem broadenBy?_isSome_iff (balanced : Quotation.IsBalanced query) :
    (broadenBy? registry query group).isSome = true ↔
      (∃ lexeme ∈ Lexeme.counted query,
        group.drops registry lexeme.form = true) ∧
      ∃ lexeme ∈ Lexeme.counted query,
        group.drops registry lexeme.form = false := by
  have differs : groupSpans registry query group ≠ [] →
      broadened registry query group ≠ query := by
    intro some same
    obtain ⟨lexeme, isCounted, dropped⟩ := groupSpans_ne_nil_iff.mp some
    have left := (@broadened_comprises registry query group balanced).counted_eq
    rw [same] at left
    have kept := List.filter_eq_self.mp left.symm lexeme isCounted
    simp [dropped] at kept
  rw [← groupSpans_ne_nil_iff, ← broadened_ne_nil_iff balanced, broadenBy?_eq]
  split
  next withheld =>
    simp only [Bool.or_eq_true, List.isEmpty_iff, beq_iff_eq] at withheld
    simp only [Option.isSome_none, Bool.false_eq_true, false_iff]
    rintro ⟨some, nonempty⟩
    exact withheld.elim (Or.rec some nonempty) (differs some)
  next offered =>
    simp only [Bool.or_eq_true, not_or, List.isEmpty_iff] at offered
    simp [offered]

/-- If the quotes of a query are closed, its broadened queries are those without
the conditions of one group each: there is one for a group exactly if the query
has such a condition and something else that counts, and what counts in it is
what counts in the query, in the same order, without these conditions. -/
theorem broadening_drops_group (registry : Registry) (threshold : Int)
    {query : Text} (closed : Quotation.findings query = []) :
    ∃ offered,
      suggestions registry threshold query (.number 0) = .ok offered ∧
        ∀ group ∈ groups,
          ((∃ suggestion ∈ offered, group.IsNamedBy suggestion) ↔
            (∃ token ∈ Token.meaningful (Token.read query),
              group.drops registry token.form = true) ∧
            ∃ token ∈ Token.meaningful (Token.read query),
              group.drops registry token.form = false) ∧
          ∀ suggestion ∈ offered, group.IsNamedBy suggestion →
            (Token.meaningful (Token.read suggestion.query)).map
                Token.toLexeme =
              ((Token.meaningful (Token.read query)).filter
                (!group.drops registry ·.form)).map Token.toLexeme := by
  have balanced := Quotation.isBalanced_iff.mpr
    (Quotation.findings_eq_nil_iff.mp closed)
  refine ⟨broaden registry query, rfl, fun group isGroup => ⟨?_, ?_⟩⟩
  · have among (dropped : Bool) :
        (∃ token ∈ Token.meaningful (Token.read query),
          group.drops registry token.form = dropped) ↔
        ∃ lexeme ∈ Lexeme.counted query,
          group.drops registry lexeme.form = dropped := by
      rw [← Token.map_toLexeme_meaningful_read]
      simp
    rw [among, among, ← broadenBy?_isSome_iff balanced,
      Option.isSome_iff_exists]
    constructor
    · rintro ⟨suggestion, offered, named⟩
      exact ⟨suggestion, (query_eq_broadened offered isGroup named).1⟩
    · rintro ⟨suggestion, isOffered⟩
      refine ⟨suggestion, List.mem_filterMap.mpr ⟨group, isGroup, isOffered⟩, ?_⟩
      rw [broadenBy?_eq, Option.ite_none_left_eq_some] at isOffered
      rw [← Option.some.inj isOffered.2]
      rfl
  · intro suggestion offered named
    rw [Token.map_toLexeme_meaningful_read,
      (query_eq_broadened offered isGroup named).2,
      (broadened_comprises balanced).counted_eq,
      ← Token.map_toLexeme_meaningful_read, List.filter_map]
    rfl

/-- Terms of a group may touch others, stand in brackets or go by another
name. -/
theorem broadening_drops_group_touching :
    Quotation.findings "f:\"modern\"t:elf (banned:legacy)set:neo" = [] ∧
      ∃ offered,
        suggestions Registry.standard 100
            "f:\"modern\"t:elf (banned:legacy)set:neo" (.number 0) =
          .ok offered ∧
        ∃ suggestion ∈ offered,
          suggestion.description =
            "Remove the format restriction to broaden your search" ∧
          (Token.meaningful (Token.read suggestion.query)).map (·.text) =
            ["t:elf", "(", ")", "set:neo"] := by
  have closed : Quotation.findings
      "f:\"modern\"t:elf (banned:legacy)set:neo" = [] := by
    decide
  obtain ⟨offered, found, each⟩ :=
    broadening_drops_group Registry.standard 100 closed
  obtain ⟨some, left⟩ := each ⟨["format", "banned", "restricted"],
    "Remove the format restriction"⟩ (by simp [groups])
  obtain ⟨suggestion, isOffered, named⟩ := some.mpr (by decide +kernel)
  refine ⟨closed, offered, found, suggestion, isOffered, named, ?_⟩
  have texts := congrArg (List.map Lexeme.text)
    (left suggestion isOffered named)
  rw [List.map_map, List.map_map] at texts
  exact texts.trans (by decide +kernel)

end Refine

end CardQuery
