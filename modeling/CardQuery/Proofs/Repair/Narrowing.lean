import CardQuery.Proofs.Repair.Broadening

/-!
# Narrowed queries

Narrowing writes one more condition behind a query.  In a query whose quotes are
closed the blank in front of it keeps it apart, so that the tokens of the query
stay what and where they are and the condition is the one behind them.  A row
of forms that is sound stays so with a condition behind it, and the registry
accepts what is added.

A condition is only added if none of its operator is there, by whatever name.
The new query has one, so every step takes away one of the two operators that
can still be added.
-/

namespace CardQuery.Refine

open Structure

variable {registry : Registry} {query : Text}

/-- The operators' own names of the conditions in a row of forms. -/
def knownNames (registry : Registry) (row : List Form) : List Text :=
  row.filterMap fun form =>
    (form.condition?.bind (registry.get? ·.name)).map (·.name)

private theorem map_knownConditions (registry : Registry) (query : Text) :
    (knownConditions registry query).map (·.2) =
      knownNames registry (Lexeme.forms query) := by
  rw [knownNames, ← meaningfulForms_read, meaningfulForms, forms,
    Token.meaningful, List.filterMap_map, List.filterMap_filter,
    knownConditions, Token.conditions, List.filterMap_filterMap,
    List.map_filterMap]
  apply List.filterMap_congr
  intro token _
  cases isAsked : token.form.condition? with
  | none => simp [isAsked]
  | some asked =>
      have counts : token.isMeaningful = true := by
        cases form : token.form with
        | blank | finish =>
            rw [form] at isAsked
            cases isAsked
        | _ =>
            rw [Token.isMeaningful, form]
            rfl
      cases found : registry.get? asked.name <;>
        simp [isAsked, found, counts]

/-- The operators that narrowing may add a condition for and that the query has
none for. -/
def missing (registry : Registry) (query : Text) : List Text :=
  ["format".toList, "manavalue".toList].filter
    (!(knownNames registry (Lexeme.forms query)).contains ·)

/-- The text is a condition that the registry accepts, and its operator has the
name. -/
structure IsAddition (registry : Registry) (name : Text) (asked : Condition)
    (added : Text) : Prop where
  scanned : Lexeme.scan added = [⟨.condition asked, added⟩]
  noQuote : '"' ∉ added
  accepted :
    registry.accepts asked.name asked.value asked.comparison = true
  named : (registry.get? asked.name).map (·.name) = some name

private theorem isAddition_format :
    IsAddition Registry.standard "format"
      ⟨⟨false, "f", none⟩, "standard", false⟩ "f:standard" where
  scanned := by decide +kernel
  noQuote := by decide
  accepted := by decide +kernel
  named := by decide +kernel

private theorem isAddition_manaValue :
    IsAddition Registry.standard "manavalue"
      ⟨⟨false, "mv", some .le⟩, "6", false⟩ "mv<=6" where
  scanned := by decide +kernel
  noQuote := by decide
  accepted := by decide +kernel
  named := by decide +kernel

/-- What is suggested is the query with a condition for a missing operator. -/
theorem exists_addition_of_mem_narrow {suggestion : Suggestion}
    (member : suggestion ∈ narrow Registry.standard query) :
    ∃ name ∈ missing Registry.standard query, ∃ asked added,
      IsAddition Registry.standard name asked added ∧
        suggestion.query = Text.stripEnd query ++ ' ' :: added := by
  rw [narrow, map_knownConditions] at member
  split at member
  next absent =>
    refine ⟨"format".toList, List.mem_filter.mpr ⟨by simp, absent⟩, _, _,
      isAddition_format, ?_⟩
    rw [List.mem_singleton.mp member]
    rfl
  next =>
    split at member
    next absent =>
      refine ⟨"manavalue".toList, List.mem_filter.mpr ⟨by simp, absent⟩, _, _,
        isAddition_manaValue, ?_⟩
      rw [List.mem_singleton.mp member]
      rfl
    next => cases member

namespace IsAddition

variable {name added : Text} {asked : Condition}

private theorem countedFrom_eq (addition : IsAddition registry name asked added)
    (start : Nat) :
    Lexeme.countedFrom start (' ' :: added) =
      [⟨⟨.condition asked, added⟩, start + 1⟩] := by
  have behind := @Lexeme.countedFrom_blanks [' ']
    (List.forall_mem_singleton.mpr (by decide)) start added
  rw [List.singleton_append] at behind
  rw [behind, Lexeme.countedFrom, addition.scanned]
  rfl

/-- The tokens of a query stay where they are, and the added condition is the
only other one. -/
theorem meaningful_read_append
    (addition : IsAddition registry name asked added)
    (balanced : Quotation.IsBalanced query) :
    Quotation.IsBalanced (Text.stripEnd query ++ ' ' :: added) ∧
      Token.meaningful (Token.read (Text.stripEnd query ++ ' ' :: added)) =
        Token.meaningful (Token.read query) ++
          [⟨⟨.condition asked, added⟩, (Text.stripEnd query).length + 1⟩] := by
  obtain ⟨stripped, same⟩ := Lexeme.countedFrom_stripEnd balanced 0
  have noQuote : '"' ∉ ' ' :: added := by
    rw [List.mem_cons, not_or]
    exact ⟨by decide, addition.noQuote⟩
  refine ⟨stripped.append (Quotation.isBalanced_of_noQuote noQuote), ?_⟩
  rw [Token.meaningful_read_eq, Token.meaningful_read_eq,
    Lexeme.countedFrom_append stripped (Lexeme.separates_blank added), same,
    addition.countedFrom_eq, Nat.zero_add]

theorem readsAs_append (addition : IsAddition registry name asked added)
    (balanced : Quotation.IsBalanced query) :
    Lexeme.ReadsAs (Text.stripEnd query ++ ' ' :: added)
      (Lexeme.forms query ++ [.condition asked]) := by
  obtain ⟨stillBalanced, tokens⟩ := addition.meaningful_read_append balanced
  rw [Lexeme.readsAs_iff, ← meaningfulForms_read, ← meaningfulForms_read,
    meaningfulForms, tokens]
  exact ⟨stillBalanced, List.map_append⟩

/-- A query without errors has none with the condition. -/
theorem errors_append_eq_nil {validator : Validator}
    (addition : IsAddition validator.registry name asked added)
    (faultless : validator.errors query = []) :
    validator.errors (Text.stripEnd query ++ ' ' :: added) = [] := by
  have reads := readsAs_of_errors_eq_nil faultless
  obtain ⟨sound, accepted⟩ :=
    (Validator.errors_eq_nil_iff_of_readsAs reads).mp faultless
  rw [Validator.errors_eq_nil_iff_of_readsAs
    (addition.readsAs_append reads.balanced)]
  refine ⟨sound.append (isSound_singleton rfl (by simp)), ?_⟩
  intro condition member
  rcases List.mem_append.mp member with old | new
  · exact accepted condition old
  · cases List.mem_singleton.mp new
    exact addition.accepted

theorem missing_append (addition : IsAddition registry name asked added)
    (balanced : Quotation.IsBalanced query) :
    missing registry (Text.stripEnd query ++ ' ' :: added) =
      (missing registry query).filter (· ≠ name) := by
  have named : knownNames registry [.condition asked] = [name] := by
    simp [knownNames, Form.condition?, addition.named]
  rw [missing, (addition.readsAs_append balanced).forms_eq, missing,
    List.filter_filter]
  congr 1
  funext other
  rw [knownNames, List.filterMap_append, ← knownNames, ← knownNames, named]
  simp [Bool.and_comm]

end IsAddition

/-- The query is narrowed to another one, at a number of results. -/
def Narrows (registry : Registry) (threshold : Int) (count : ResultCount)
    (query next : Text) : Prop :=
  ∃ offered, suggestions registry threshold query count = .ok offered ∧
    ∃ suggestion ∈ offered, suggestion.impact = .narrowsResults ∧
      suggestion.query = next

section

variable {threshold : Int} {count : ResultCount} {next : Text}

/-- Above the threshold something is offered, and what narrows is a suggestion
to narrow. -/
theorem exists_offered (registry : Registry) (query : Text)
    (above : count.exceeds threshold = .ok true) :
    ∃ offered, suggestions registry threshold query count = .ok offered ∧
      ∀ suggestion ∈ offered, suggestion.impact = .narrowsResults →
        suggestion ∈ narrow registry query := by
  rw [suggestions, above]
  cases count.isZero with
  | false => exact ⟨narrow registry query, rfl, fun _ member _ => member⟩
  | true =>
      refine ⟨broaden registry query, rfl, fun suggestion member narrows => ?_⟩
      obtain ⟨group, _, found⟩ := List.mem_filterMap.mp member
      rw [broadenBy?_eq, Option.ite_none_left_eq_some] at found
      rw [← Option.some.inj found.2] at narrows
      cases narrows

private theorem exists_addition_of_narrows
    (above : count.exceeds threshold = .ok true)
    (narrows : Narrows Registry.standard threshold count query next) :
    ∃ name ∈ missing Registry.standard query, ∃ asked added,
      IsAddition Registry.standard name asked added ∧
        next = Text.stripEnd query ++ ' ' :: added := by
  obtain ⟨offered, isOffered, suggestion, member, impact, rfl⟩ := narrows
  obtain ⟨others, same, each⟩ := exists_offered Registry.standard query above
  rw [isOffered, Except.ok.injEq] at same
  exact exists_addition_of_mem_narrow (each suggestion (same ▸ member) impact)

private theorem length_missing_lt (above : count.exceeds threshold = .ok true)
    (balanced : Quotation.IsBalanced query)
    (narrows : Narrows Registry.standard threshold count query next) :
    Quotation.IsBalanced next ∧
      (missing Registry.standard next).length <
        (missing Registry.standard query).length := by
  obtain ⟨name, isMissing, asked, added, addition, rfl⟩ :=
    exists_addition_of_narrows above narrows
  refine ⟨(addition.meaningful_read_append balanced).1, ?_⟩
  rw [addition.missing_append balanced, List.length_filter_lt_length_iff_exists]
  exact ⟨name, isMissing, by simp⟩

/-- A run has no more steps than operators are missing. -/
theorem length_le_of_isChain (above : count.exceeds threshold = .ok true)
    (balanced : Quotation.IsBalanced query) {path : List Text}
    (run : (query :: path).IsChain
      (Narrows Registry.standard threshold count)) :
    path.length ≤ (missing Registry.standard query).length := by
  induction path generalizing query with
  | nil => exact Nat.zero_le _
  | cons next path ih =>
      rw [List.isChain_cons_cons] at run
      obtain ⟨stillBalanced, fewer⟩ :=
        length_missing_lt above balanced run.1
      have later := ih stillBalanced run.2
      rw [List.length_cons]
      omega

/-- A run that goes on as long as it can ends. -/
theorem exists_run (above : count.exceeds threshold = .ok true)
    (balanced : Quotation.IsBalanced query) :
    ∃ path : List Text,
      (query :: path).IsChain (Narrows Registry.standard threshold count) ∧
      ∀ last ∈ (query :: path).getLast?, ∀ next,
        ¬ Narrows Registry.standard threshold count last next := by
  induction size : (missing Registry.standard query).length
    using Nat.strongRecOn generalizing query with
  | _ size ih =>
      subst size
      by_cases goesOn : ∃ next,
          Narrows Registry.standard threshold count query next
      · obtain ⟨next, narrows⟩ := goesOn
        obtain ⟨stillBalanced, fewer⟩ :=
          length_missing_lt above balanced narrows
        obtain ⟨path, run, ends⟩ := ih _ fewer stillBalanced rfl
        refine ⟨next :: path, List.isChain_cons_cons.mpr ⟨narrows, run⟩, ?_⟩
        rwa [List.getLast?_cons_cons]
      · refine ⟨[], List.isChain_singleton query, ?_⟩
        rintro last isLast next narrows
        rw [← Option.some.inj isLast] at narrows
        exact goesOn ⟨next, narrows⟩

end

/-- Above the threshold, narrowing a valid query leaves it valid and adds one
condition behind its tokens.  Narrowing again and again takes at most two steps
and ends in a query that is not narrowed. -/
theorem narrowing_is_sound_and_stops (settings : Settings) {query : Text}
    (valid : ((Validator.make Registry.standard settings).validate query
      none).isValid = true)
    {threshold : Int} {count : ResultCount}
    (above : count.exceeds threshold = .ok true) :
    (∃ offered,
      suggestions Registry.standard threshold query count = .ok offered ∧
        ∀ suggestion ∈ offered, suggestion.impact = .narrowsResults →
          ((Validator.make Registry.standard settings).validate
            suggestion.query none).isValid = true ∧
          ∃ added : Token, added.form.condition?.isSome = true ∧
            Token.meaningful (Token.read suggestion.query) =
              Token.meaningful (Token.read query) ++ [added]) ∧
    (∀ path : List Text,
      (query :: path).IsChain (Narrows Registry.standard threshold count) →
        path.length ≤ 2) ∧
    ∃ path : List Text,
      (query :: path).IsChain (Narrows Registry.standard threshold count) ∧
        ∀ last ∈ (query :: path).getLast?, ∀ next,
          ¬ Narrows Registry.standard threshold count last next := by
  have isValid_iff (query : Text) :=
    Validator.isValid_iff_errors_eq_nil
      (Validator.make Registry.standard settings) query none
  have faultless := (isValid_iff query).mp valid
  have balanced := (readsAs_of_errors_eq_nil faultless).balanced
  refine ⟨?_, ?_, exists_run above balanced⟩
  · obtain ⟨offered, isOffered, each⟩ :=
      exists_offered Registry.standard query above
    refine ⟨offered, isOffered, fun suggestion member impact => ?_⟩
    obtain ⟨name, _, asked, added, addition, isQuery⟩ :=
      exists_addition_of_mem_narrow (each suggestion member impact)
    rw [isQuery]
    exact ⟨(isValid_iff _).mpr (addition.errors_append_eq_nil faultless), _,
      rfl, (addition.meaningful_read_append balanced).2⟩
  · intro path run
    calc path.length
      _ ≤ (missing Registry.standard query).length :=
        length_le_of_isChain above balanced run
      _ ≤ 2 := List.length_filter_le _ _

/-- A query with blanks at its end, which asks neither for a format nor for a
mana value. -/
theorem narrowing_is_sound_and_stops_colors :
    ((Validator.make Registry.standard Settings.standard).validate
        "c:red OR (t:elf -c:g)  " none).isValid = true ∧
      (ResultCount.number 500).exceeds 100 = .ok true ∧
      ∃ path : List Text, path.length ≤ 2 ∧
        ("c:red OR (t:elf -c:g)  ".toList :: path).IsChain
          (Narrows Registry.standard 100 (.number 500)) ∧
        ∀ last ∈ ("c:red OR (t:elf -c:g)  ".toList :: path).getLast?,
          ∀ next, ¬ Narrows Registry.standard 100 (.number 500) last next := by
  have valid : ((Validator.make Registry.standard Settings.standard).validate
      "c:red OR (t:elf -c:g)  " none).isValid = true := by
    decide +kernel
  obtain ⟨_, short, path, run, ends⟩ := narrowing_is_sound_and_stops
    Settings.standard valid (show (ResultCount.number 500).exceeds 100 =
      .ok true from rfl)
  exact ⟨valid, rfl, path, short path run, run, ends⟩

end CardQuery.Refine
