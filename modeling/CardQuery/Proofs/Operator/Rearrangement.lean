import CardQuery.Operator.Standard
import CardQuery.Operator.Usage
import CardQuery.Proofs.Operator.Lookup
import Mathlib.Data.List.Forall2

/-!
# Conditions in another order and under other names

The checks of conditions and values report the same kinds of findings, each the
same number of times, when the conditions of a query change places and their
operators are called by other names of theirs.  What a check asks of a single
condition goes through the operator that its name finds.  What it asks of a pair
does not distinguish the first condition from the second, so the number of
pairs that it warns of does not depend on the order.
-/

namespace CardQuery

open Finding (code)

/-- Two outcomes have findings of the same kinds, each equally often. -/
def CheckResult.HasSameCodes (result other : CheckResult) : Prop :=
  (result.errors.map code).Perm (other.errors.map code) ∧
    (result.warnings.map code).Perm (other.warnings.map code)

namespace CheckResult.HasSameCodes

variable {result other further : CheckResult}

private theorem symm (same : result.HasSameCodes other) : other.HasSameCodes
    result :=
  ⟨same.1.symm, same.2.symm⟩

private theorem trans (same : result.HasSameCodes other)
    (sameFurther : other.HasSameCodes further) : result.HasSameCodes further :=
  ⟨same.1.trans sameFurther.1, same.2.trans sameFurther.2⟩

end CheckResult.HasSameCodes

namespace Usage

/-- Two tokens say the same, wherever they stand and however they are written,
but for the name that a known operator is called by. -/
inductive IsRespelled (registry : Registry) : Token → Token → Prop where
  | same {token other : Token} :
      token.form = other.form → IsRespelled registry token other
  | renamed {token other : Token} {condition : Condition} {operator : Operator}
      {name : Text} :
      token.form = .condition condition →
      registry.get? condition.name = some operator →
      operator.isNamed name = true →
      other.form = .condition { condition with name := name } →
      IsRespelled registry token other

/-- Tokens change places, and then known operators are called by other names. -/
def IsRearranged (registry : Registry) (tokens others : List Token) : Prop :=
  ∃ permuted, tokens.Perm permuted ∧
    List.Forall₂ (IsRespelled registry) permuted others

section Bare

variable (registry : Registry)

/-- The condition under the first name of its operator. -/
def proper (condition : Condition) : Condition :=
  { condition with
    name := ((registry.get? condition.name).map Operator.name).getD
      condition.name }

/-- The form with the first name of its operator. -/
def properForm : Form → Form
  | .condition condition => .condition (proper registry condition)
  | form => form

/-- What a token says under the first name of its operator, without its place
and its wording. -/
def bare (token : Token) : Token := ⟨⟨properForm registry token.form, []⟩, 0⟩

def Known.bare (item : Known) : Known :=
  ⟨Usage.bare registry item.token, proper registry item.condition,
    item.operator⟩

variable {registry}

private theorem get?_proper (condition : Condition) :
    registry.get? (proper registry condition).name =
      registry.get? condition.name := by
  rw [proper]
  cases found : registry.get? condition.name with
  | none => exact found
  | some operator => exact Registry.get?_name found

private theorem IsRespelled.bare_eq {token other : Token}
    (respelled : IsRespelled registry token other) :
    bare registry token = bare registry other := by
  cases respelled with
  | same sameForm => rw [bare, bare, sameForm]
  | renamed isCondition found isNamed isOther =>
      have foundOther := Registry.get?_of_isNamed found isNamed
      simp [bare, properForm, proper, isCondition, isOther, found, foundOther]

private theorem IsRearranged.bare_perm {tokens others : List Token}
    (rearranged : IsRearranged registry tokens others) :
    (tokens.map (bare registry)).Perm (others.map (bare registry)) := by
  obtain ⟨permuted, perm, respelled⟩ := rearranged
  have same : permuted.map (bare registry) = others.map (bare registry) := by
    clear perm
    induction respelled with
    | nil => rfl
    | cons first _ ih => rw [List.map_cons, List.map_cons, first.bare_eq, ih]
  rw [← same]
  exact perm.map _

private theorem conditions_map_bare (tokens : List Token) :
    Token.conditions (tokens.map (bare registry)) =
      (Token.conditions tokens).map fun (token, condition) =>
        (bare registry token, proper registry condition) := by
  rw [Token.conditions, Token.conditions, List.filterMap_map,
    List.map_filterMap]
  congr 1
  funext token
  cases form : token.form <;>
    simp [bare, properForm, form, Form.condition?]

private theorem isMeasurable_map_bare (maxDistance : Int) (tokens : List Token)
    :
    isMeasurable registry maxDistance (tokens.map (bare registry)) =
      isMeasurable registry maxDistance tokens := by
  rw [isMeasurable, isMeasurable, conditions_map_bare, List.all_map]
  congr 1
  funext entry
  obtain ⟨token, condition⟩ := entry
  cases found : registry.get? condition.name with
  | none => simp [proper, found]
  | some operator =>
      simp [Registry.contains, get?_proper, found]

private theorem codes_place (token : Token) (issues : List Issue) :
    (issues.map (place token)).map code = issues.map (·.code) := by
  rw [List.map_map]
  rfl

private theorem codes_unsupportedComparison_bare (token : Token)
    (condition : Condition) (operator : Operator) :
    (unsupportedComparison (bare registry token) (proper registry condition)
        operator).map code =
      (unsupportedComparison token condition operator).map code := by
  rw [unsupportedComparison, unsupportedComparison]
  have sameComparison :
      (proper registry condition).comparison = condition.comparison := rfl
  rw [sameComparison]
  cases condition.comparison with
  | none => rfl
  | some comparison =>
      dsimp only
      split <;> rfl

private theorem codes_conditionErrors_bare (maxDistance : Int) (token : Token)
    (condition : Condition) :
    (conditionErrors registry maxDistance (bare registry token)
        (proper registry condition)).map code =
      (conditionErrors registry maxDistance token condition).map code := by
  rw [conditionErrors, conditionErrors, get?_proper]
  cases registry.get? condition.name with
  | none => rfl
  | some operator =>
      have unsupported :
          (unsupportedComparison (bare registry token)
              (proper registry condition) operator).map code =
            (unsupportedComparison token condition operator).map code :=
        codes_unsupportedComparison_bare token condition operator
      have noneUnsupported := congrArg List.isEmpty unsupported
      rw [List.isEmpty_map, List.isEmpty_map] at noneUnsupported
      have sameValue : (proper registry condition).value = condition.value := rfl
      dsimp only
      rw [sameValue, noneUnsupported]
      split
      · rw [List.map_append, List.map_append, unsupported]
        rfl
      · split
        · rw [refusedComparison, refusedComparison, codes_place, codes_place]
          rfl
        · exact unsupported

private theorem known_map_bare (tokens : List Token) :
    known registry (tokens.map (bare registry)) =
      (known registry tokens).map (Known.bare registry) := by
  rw [known, known, conditions_map_bare, List.filterMap_map,
    List.map_filterMap]
  congr 1
  funext entry
  obtain ⟨token, condition⟩ := entry
  have sameValue : (proper registry condition).value = condition.value := rfl
  simp only [Function.comp_apply, get?_proper, sameValue]
  split
  · rfl
  · rw [Option.map_map]
    rfl

private theorem laterPairs_map {α β : Type} (view : α → β) (items : List α) :
    laterPairs (items.map view) =
      (laterPairs items).map (Prod.map view view) := by
  induction items with
  | nil => rfl
  | cons first rest ih =>
      rw [List.map_cons, laterPairs, laterPairs, ih, List.map_append,
        List.map_map, List.map_map]
      rfl

private theorem codes_ite (holds : Bool) (finding : Finding) :
    (if holds = true then [finding] else []).map code =
      List.replicate (if holds = true then 1 else 0) finding.code := by
  cases holds <;> rfl

private theorem codes_pairWarnings_map_bare (formats printing : Bool)
    (pairs : List (Known × Known)) :
    (pairWarnings formats printing
        (pairs.map (Prod.map (Known.bare registry)
          (Known.bare registry)))).map code =
      (pairWarnings formats printing pairs).map code := by
  induction pairs generalizing formats printing with
  | nil => rfl
  | cons pair rest ih =>
      obtain ⟨first, second⟩ := pair
      have duplicate : isDuplicate (first.bare registry) (second.bare registry) =
          isDuplicate first second := rfl
      have conflict : isColorConflict (first.bare registry)
          (second.bare registry) = isColorConflict first second := rfl
      have format : isFormatPair (first.bare registry) (second.bare registry) =
          isFormatPair first second := rfl
      have print : isPrintingPair (first.bare registry) (second.bare registry) =
          isPrintingPair first second := rfl
      rw [List.map_cons, Prod.map_apply, pairWarnings, pairWarnings, duplicate,
        conflict, format, print]
      simp only [List.map_append, ih, codes_ite, duplicateWarning, colorWarning,
        formatWarning, printingWarning, Finding.onToken]

/-- Whether a condition asks for a card's value under a name. -/
def isRequired (name : Text) (item : Known) : Bool :=
  item.operator.name == name && !item.condition.negated

/-- Whether one of two values of a card is compared with the other. -/
def areRelated (usable : List Known) : Bool :=
  (usable.any fun item =>
      isRequired "power" item && refersTo ["tou", "toughness"] item) ||
    usable.any fun item =>
      isRequired "toughness" item && refersTo ["pow", "power"] item

private theorem codes_statWarnings (usable : List Known) :
    (statWarnings usable).map code =
      if areRelated usable then []
      else
        match usable.any (isRequired "power"),
            usable.any (isRequired "toughness") with
        | true, false => [.powerWithoutToughness]
        | false, true => [.toughnessWithoutPower]
        | _, _ => [] := by
  have required (name : Text) : usable.any (isRequired name) =
      !(usable.filter (isRequired name)).isEmpty := by
    rw [Bool.eq_iff_iff]
    simp
  rw [areRelated, ← List.any_filter, ← List.any_filter, required, required]
  cases power : usable.filter (isRequired "power") <;>
    cases toughness : usable.filter (isRequired "toughness") <;>
      (unfold isRequired at power toughness
       simp only [statWarnings, power, toughness]
       split <;> rfl)

private theorem codes_statWarnings_map_bare (usable : List Known) :
    (statWarnings (usable.map (Known.bare registry))).map code =
      (statWarnings usable).map code := by
  rw [codes_statWarnings, codes_statWarnings, areRelated, areRelated,
    List.any_map, List.any_map, List.any_map, List.any_map]
  rfl

/-- A check of conditions has findings of the same kinds, in the same order,
whatever the names, the wording and the places of the conditions. -/
theorem codes_checkConditions_map_bare (maxDistance : Int)
    (tokens : List Token) :
    (checkConditions registry maxDistance tokens).HasSameCodes
      (checkConditions registry maxDistance (tokens.map (bare registry))) := by
  constructor
  · apply List.Perm.of_eq
    rw [checkConditions, checkConditions, conditions_map_bare, List.flatMap_map,
      List.map_flatMap, List.map_flatMap]
    congr 1
    funext entry
    obtain ⟨token, condition⟩ := entry
    exact (codes_conditionErrors_bare maxDistance token condition).symm
  · apply List.Perm.of_eq
    simp only [checkConditions, known_map_bare, laterPairs_map, List.map_append,
      codes_pairWarnings_map_bare, codes_statWarnings_map_bare]

/-- A check of values has findings of the same kinds, in the same order,
whatever the names, the wording and the places of the conditions. -/
theorem codes_checkValues_map_bare (tokens : List Token) :
    (checkValues registry tokens).HasSameCodes
      (checkValues registry (tokens.map (bare registry))) := by
  constructor
  · apply List.Perm.of_eq
    simp only [checkValues, known_map_bare, List.map_map, List.flatMap_map,
      List.map_flatMap]
    rfl
  · apply List.Perm.of_eq
    simp only [checkValues, known_map_bare, List.map_map, List.flatMap_map,
      List.map_flatMap]
    rfl

end Bare

section Order

variable {registry : Registry} {tokens others : List Token}

private theorem countP_laterPairs_perm {α : Type} {property : α × α → Bool}
    (symmetric : ∀ first second,
      property (first, second) = property (second, first))
    {items others : List α} (perm : items.Perm others) :
    (laterPairs items).countP property =
      (laterPairs others).countP property := by
  induction perm with
  | nil => rfl
  | cons first perm ih =>
      rw [laterPairs, laterPairs, List.countP_append, List.countP_append, ih,
        List.countP_map, List.countP_map, perm.countP_eq]
  | swap first second rest =>
      simp only [laterPairs, List.map_cons, List.cons_append,
        List.countP_cons, List.countP_append, symmetric first second]
      omega
  | trans _ _ ih ih' => exact ih.trans ih'

private theorem isDuplicate_comm (first second : Known) :
    isDuplicate first second = isDuplicate second first := by
  rw [isDuplicate, isDuplicate, Bool.eq_iff_iff]
  simp only [Bool.and_eq_true, beq_iff_eq]
  grind

private theorem isColorConflict_comm (first second : Known) :
    isColorConflict first second = isColorConflict second first := by
  rw [isColorConflict, isColorConflict, bne_comm]
  ac_rfl

private theorem isFormatPair_comm (first second : Known) :
    isFormatPair first second = isFormatPair second first := by
  rw [isFormatPair, isFormatPair, bne_comm]
  ac_rfl

private theorem isPrintingPair_comm (first second : Known) :
    isPrintingPair first second = isPrintingPair second first := by
  simp only [isPrintingPair, List.contains_cons, List.contains_nil,
    Bool.or_false]
  ac_rfl

/-- How often is warned of something that is warned of once: not again if that
has been done. -/
def onceCount (done : Bool) (count : Nat) : Nat :=
  if done then 0 else min 1 count

theorem onceCount_succ (done holds : Bool) (count : Nat) :
    onceCount done (count + if holds = true then 1 else 0) =
      (if (!done && holds) = true then 1 else 0) +
        onceCount (done || (!done && holds)) count := by
  cases done <;> cases holds <;> simp [onceCount]

/-- The kinds of the warnings about pairs: one for each pair of duplicates and
for each conflict of colors, and at most one about formats and one about
printings. -/
def pairCodes (formats printing : Bool) (pairs : List (Known × Known)) :
    List Code :=
  List.replicate (pairs.countP (Function.uncurry isDuplicate))
      .duplicateOperator ++
    List.replicate (pairs.countP (Function.uncurry isColorConflict))
      .conflictingColors ++
    List.replicate
      (onceCount formats (pairs.countP (Function.uncurry isFormatPair)))
      .multipleFormats ++
    List.replicate
      (onceCount printing (pairs.countP (Function.uncurry isPrintingPair)))
      .overlySpecific

private theorem codes_pairWarnings_perm (formats printing : Bool)
    (pairs : List (Known × Known)) :
    ((pairWarnings formats printing pairs).map code).Perm
      (pairCodes formats printing pairs) := by
  induction pairs generalizing formats printing with
  | nil => cases formats <;> cases printing <;> exact List.Perm.refl _
  | cons pair rest ih =>
      obtain ⟨first, second⟩ := pair
      have counted (property : Known → Known → Bool) :
          ((first, second) :: rest).countP (Function.uncurry property) =
            rest.countP (Function.uncurry property) +
              if property first second = true then 1 else 0 :=
        List.countP_cons
      rw [pairWarnings, List.map_append]
      apply ((ih _ _).append_left _).trans
      rw [List.perm_iff_count]
      intro kind
      simp only [pairCodes, counted, onceCount_succ, List.map_append, codes_ite,
        List.replicate_add, List.count_append, duplicateWarning, colorWarning,
        formatWarning, printingWarning, Finding.onToken]
      omega

private theorem pairCodes_laterPairs_perm (formats printing : Bool)
    {usable further : List Known} (perm : usable.Perm further) :
    pairCodes formats printing (laterPairs usable) =
      pairCodes formats printing (laterPairs further) := by
  rw [pairCodes, pairCodes,
    countP_laterPairs_perm (fun first second =>
      isDuplicate_comm first second) perm,
    countP_laterPairs_perm (fun first second =>
      isColorConflict_comm first second) perm,
    countP_laterPairs_perm (fun first second =>
      isFormatPair_comm first second) perm,
    countP_laterPairs_perm (fun first second =>
      isPrintingPair_comm first second) perm]

private theorem codes_statWarnings_perm {usable further : List Known}
    (perm : usable.Perm further) :
    (statWarnings usable).map code = (statWarnings further).map code := by
  rw [codes_statWarnings, codes_statWarnings, areRelated, areRelated,
    perm.any_eq, perm.any_eq, perm.any_eq, perm.any_eq]

private theorem conditions_perm (perm : tokens.Perm others) :
    (Token.conditions tokens).Perm (Token.conditions others) :=
  perm.filterMap _

private theorem known_perm (perm : tokens.Perm others) :
    (known registry tokens).Perm (known registry others) :=
  (conditions_perm perm).filterMap _

private theorem isMeasurable_perm (maxDistance : Int)
    (perm : tokens.Perm others) :
    isMeasurable registry maxDistance tokens =
      isMeasurable registry maxDistance others :=
  (conditions_perm perm).all_eq

private theorem codes_checkConditions_perm (maxDistance : Int)
    (perm : tokens.Perm others) :
    (checkConditions registry maxDistance tokens).HasSameCodes
      (checkConditions registry maxDistance others) := by
  constructor
  · exact ((conditions_perm perm).flatMap_right _).map code
  · have usable : (known registry tokens).Perm (known registry others) :=
      known_perm perm
    rw [checkConditions, checkConditions, List.map_append, List.map_append,
      codes_statWarnings_perm usable]
    refine List.Perm.append_right _ ?_
    apply (codes_pairWarnings_perm _ _ _).trans
    rw [pairCodes_laterPairs_perm _ _ usable]
    exact (codes_pairWarnings_perm _ _ _).symm

private theorem codes_checkValues_perm (perm : tokens.Perm others) :
    (checkValues registry tokens).HasSameCodes
      (checkValues registry others) := by
  have usable : (known registry tokens).Perm (known registry others) :=
    known_perm perm
  have checked := usable.map fun item =>
    (item.token, item.operator.grammar.check item.condition.value
      item.condition.sign?)
  exact ⟨(checked.flatMap_right _).map code, (checked.flatMap_right _).map code⟩

end Order

/-- When conditions change places and known operators are called by other names,
the check of conditions can be carried out or not as before, and both checks
have findings of the same kinds, each equally often. -/
theorem codes_of_isRearranged {registry : Registry} {tokens others : List Token}
    (rearranged : IsRearranged registry tokens others) (maxDistance : Int) :
    requireMeasurable registry maxDistance tokens =
        requireMeasurable registry maxDistance others ∧
      (checkConditions registry maxDistance tokens).HasSameCodes
        (checkConditions registry maxDistance others) ∧
      (checkValues registry tokens).HasSameCodes
        (checkValues registry others) := by
  have perm := rearranged.bare_perm
  refine ⟨?_, ?_, ?_⟩
  · rw [requireMeasurable, requireMeasurable, ← isMeasurable_map_bare,
      isMeasurable_perm maxDistance perm, isMeasurable_map_bare]
  · exact ((codes_checkConditions_map_bare maxDistance tokens).trans
      (codes_checkConditions_perm maxDistance perm)).trans
        (codes_checkConditions_map_bare maxDistance others).symm
  · exact ((codes_checkValues_map_bare tokens).trans
      (codes_checkValues_perm perm)).trans
        (codes_checkValues_map_bare others).symm

/-- A single printing and a set that is asked for twice are warned of in either
order and under either name. -/
theorem codes_of_isRearranged_printing :
    let asks (name value : Text) : Token :=
      ⟨⟨.condition ⟨⟨false, name, none⟩, value, false⟩,
        name ++ ':' :: value⟩, 0⟩
    let tokens := [asks "set" "neo", asks "cn" "12", asks "S" "NEO"]
    let others := [asks "number" "12", asks "E" "neo", asks "set" "NEO"]
    IsRearranged Registry.standard tokens others ∧
      (checkConditions Registry.standard 2 tokens).warnings.map code =
        [.overlySpecific, .duplicateOperator] ∧
      (checkConditions Registry.standard 2 tokens).HasSameCodes
        (checkConditions Registry.standard 2 others) := by
  intro asks tokens others
  have respelled (name other value : Text)
      (known : (Registry.standard.get? name).any (·.isNamed other) = true) :
      IsRespelled Registry.standard (asks name value) (asks other value) := by
    obtain ⟨operator, found, isNamed⟩ := Option.any_eq_true _ _ |>.mp known
    exact .renamed rfl found isNamed rfl
  have rearranged : IsRearranged Registry.standard tokens others :=
    ⟨[asks "cn" "12", asks "set" "neo", asks "S" "NEO"], List.Perm.swap _ _ _,
      .cons (respelled _ _ _ (by decide +kernel))
        (.cons (respelled _ _ _ (by decide +kernel))
          (.cons (respelled _ _ _ (by decide +kernel)) .nil))⟩
  exact ⟨rearranged, by decide +kernel,
    (codes_of_isRearranged rearranged 2).2.1⟩

end Usage

end CardQuery
