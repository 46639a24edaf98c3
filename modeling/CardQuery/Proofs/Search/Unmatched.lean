import CardQuery.Proofs.Search.OpenBrackets

/-!
# Brackets without a partner

A closing bracket has no partner if, wherever one starts to count, there are
more closing brackets than opening ones up to it.  An opening bracket has none
if there are more opening brackets than closing ones wherever one stops to
count.  These conditions speak of all segments of a row of tokens and of no
stack, and the stack finds just the brackets that meet them.

Two facts about the tokens that the stack has yet to see carry the proof.  A
closing bracket among them is spare if it has no partner there and there are
more such brackets up to it than the stack is high.  And of the stack, as many
brackets are taken as the tokens have closing brackets without a partner.
-/

namespace CardQuery.Structure

def openings (tokens : List Token) : Nat := tokens.countP Token.isOpening

def closings (tokens : List Token) : Nat := tokens.countP Token.isClosing

/-- The tokens from one index up to another one, both included. -/
def segment (tokens : List Token) (start stop : Nat) : List Token :=
  (tokens.take (stop + 1)).drop start

/-- Whether the token is a closing bracket and, at the index, ends no segment
with as many opening brackets as closing ones. -/
def isStrayClosing (tokens : List Token) (token : Token) (index : Nat) : Bool :=
  token.isClosing && decide (∀ start ≤ index,
    openings (segment tokens start index) <
      closings (segment tokens start index))

/-- Whether the token is an opening bracket and, at the index, starts no segment
with as many closing brackets as opening ones. -/
def isStrayOpening (tokens : List Token) (token : Token) (index : Nat) : Bool :=
  token.isOpening && decide (∀ stop < tokens.length, index ≤ stop →
    closings (segment tokens index stop) <
      openings (segment tokens index stop))

/-- The tokens that a rule picks by what they are and by their index. -/
def picked (rule : Token → Nat → Bool) (tokens : List Token) : List Token :=
  (tokens.zipIdx.filter fun (token, index) => rule token index).map Prod.fst

/-- No part from the start has more closing brackets than opening ones, and as a
whole there are as many of each. -/
def AreBalanced (tokens : List Token) : Prop :=
  (∀ count ≤ tokens.length,
    closings (tokens.take count) ≤ openings (tokens.take count)) ∧
  openings tokens = closings tokens

section

variable {token : Token} {rest : List Token}

theorem not_isClosing_of_isOpening (opening : token.isOpening = true) :
    token.isClosing = false := by
  rw [Token.isClosing, isOpening_iff.mp opening]
  rfl

@[simp] theorem openings_nil : openings [] = 0 := rfl

@[simp] theorem closings_nil : closings [] = 0 := rfl

theorem openings_cons (token : Token) (rest : List Token) :
    openings (token :: rest) = openings rest + token.isOpening.toNat := by
  rw [openings, List.countP_cons, openings]
  cases token.isOpening <;> rfl

theorem closings_cons (token : Token) (rest : List Token) :
    closings (token :: rest) = closings rest + token.isClosing.toNat := by
  rw [closings, List.countP_cons, closings]
  cases token.isClosing <;> rfl

@[simp] theorem segment_cons_zero (token : Token) (rest : List Token)
    (stop : Nat) : segment (token :: rest) 0 stop = token :: rest.take stop :=
  rfl

@[simp] theorem segment_cons_succ (token : Token) (rest : List Token)
    (start stop : Nat) :
    segment (token :: rest) (start + 1) (stop + 1) = segment rest start stop :=
  rfl

@[simp] theorem picked_nil (rule : Token → Nat → Bool) : picked rule [] = [] :=
  rfl

theorem picked_cons (rule : Token → Nat → Bool) (token : Token)
    (rest : List Token) :
    picked rule (token :: rest) =
      (if rule token 0 then [token] else []) ++
        picked (fun other index => rule other (index + 1)) rest := by
  have later : rest.zipIdx 1 =
      rest.zipIdx.map fun (other, index) => (other, index + 1) := by
    rw [List.zipIdx_eq_map_add]
    exact List.map_congr_left fun (other, index) _ => by simp [Nat.add_comm]
  simp only [picked, List.zipIdx_cons, later, Nat.zero_add, List.filter_cons,
    List.filter_map, Function.comp_def]
  split <;> simp [Function.comp_def]

/-- The closing bracket at the index has no partner, not even among `pending`
opening brackets in front of the tokens. -/
def IsSpare (pending : Nat) (tokens : List Token) (index : Nat) : Prop :=
  pending + openings (tokens.take (index + 1)) <
    closings (tokens.take (index + 1)) ∧
  ∀ start ≤ index, openings (segment tokens start index) <
    closings (segment tokens start index)

instance (pending : Nat) (tokens : List Token) (index : Nat) :
    Decidable (IsSpare pending tokens index) :=
  inferInstanceAs (Decidable (_ ∧ _))

theorem isSpare_cons_zero (closing : token.isClosing = true)
    (opening : token.isOpening = false) (pending : Nat) :
    IsSpare pending (token :: rest) 0 ↔ pending = 0 := by
  simp [IsSpare, openings_cons, closings_cons, closing, opening]

theorem isSpare_cons_succ (pending index : Nat) :
    IsSpare pending (token :: rest) (index + 1) ↔
      pending + openings (rest.take (index + 1)) + token.isOpening.toNat <
          closings (rest.take (index + 1)) + token.isClosing.toNat ∧
        ∀ start ≤ index, openings (segment rest start index) <
          closings (segment rest start index) := by
  simp only [IsSpare, List.take_succ_cons, openings_cons, closings_cons,
    ← Nat.add_assoc]
  refine and_congr_right fun whole => ⟨fun spare start le => ?_,
    fun spare start le => ?_⟩
  · exact spare (start + 1) (Nat.add_le_add_right le 1)
  · cases start with
    | zero =>
        rw [segment_cons_zero, openings_cons, closings_cons]
        omega
    | succ start => exact spare start (Nat.le_of_succ_le_succ le)

private theorem isSpare_cons_succ_iff {pending left : Nat}
    (step : left = if token.isOpening then pending + 1
      else if token.isClosing then pending - 1 else pending) (index : Nat) :
    IsSpare pending (token :: rest) (index + 1) ↔ IsSpare left rest index := by
  rw [isSpare_cons_succ, IsSpare, and_congr_left_iff]
  intro spare
  have fromStart : openings (rest.take (index + 1)) <
      closings (rest.take (index + 1)) := spare 0 (Nat.zero_le index)
  cases opening : token.isOpening with
  | true =>
      rw [opening] at step
      rw [not_isClosing_of_isOpening opening]
      simp only [if_true, Bool.toNat_true, Bool.toNat_false] at step ⊢
      omega
  | false =>
      rw [opening] at step
      cases closing : token.isClosing with
      | true =>
          simp only [closing, Bool.false_eq_true, if_false, if_true,
            Bool.toNat_true, Bool.toNat_false] at step ⊢
          omega
      | false =>
          simp only [closing, Bool.false_eq_true, if_false,
            Bool.toNat_false] at step ⊢
          omega

private theorem isSpare_zero_iff {tokens : List Token} {index : Nat} :
    IsSpare 0 tokens index ↔ ∀ start ≤ index,
      openings (segment tokens start index) <
        closings (segment tokens start index) := by
  rw [IsSpare, Nat.zero_add, and_iff_right_iff_imp]
  exact fun spare => spare 0 (Nat.zero_le index)

/-- The closing brackets that the stack reports are the spare ones. -/
theorem filter_closing_bracketFindings (pending tokens : List Token) :
    (bracketFindings pending tokens).filter
        (·.code == .unmatchedClosingBracket) =
      (picked (fun token index => token.isClosing &&
        decide (IsSpare pending.length tokens index)) tokens).map
          unmatchedClosing := by
  fun_induction bracketFindings pending tokens with
  | case1 pending =>
      rw [picked_nil, List.map_nil, List.filter_eq_nil_iff]
      intro finding member
      obtain ⟨token, _, rfl⟩ := List.mem_map.mp member
      exact Bool.false_ne_true
  | case2 pending token rest opening ih =>
      have later := @isSpare_cons_succ_iff token rest pending.length
        (token :: pending).length (by simp [opening])
      simp only [List.filter_append,
        filter_emptyBrackets (show Code.unmatchedClosingBracket ≠ _ by decide),
        ih, picked_cons, later,
        not_isClosing_of_isOpening opening, Bool.false_and,
        Bool.false_eq_true, if_false, List.nil_append]
  | case3 token rest opening closing ih =>
      rw [Bool.not_eq_true] at opening
      have later := @isSpare_cons_succ_iff token rest 0 0
        (by simp [opening, closing])
      have spare : IsSpare 0 (token :: rest) 0 :=
        (isSpare_cons_zero closing opening 0).mpr rfl
      rw [List.filter_cons_of_pos rfl, ih, picked_cons]
      simp only [List.length_nil, later, closing, Bool.true_and, spare,
        decide_true, if_true, List.singleton_append, List.map_cons]
  | case4 token rest opening closing innermost outer ih =>
      rw [Bool.not_eq_true] at opening
      have later := @isSpare_cons_succ_iff token rest
        (innermost :: outer).length outer.length (by simp [opening, closing])
      have noSpare :
          ¬ IsSpare (innermost :: outer).length (token :: rest) 0 := by
        rw [isSpare_cons_zero closing opening]
        exact Nat.succ_ne_zero _
      rw [ih, picked_cons]
      simp only [later, closing, Bool.true_and, noSpare, decide_false,
        Bool.false_eq_true, if_false, List.nil_append]
  | case5 pending token rest opening closing ih =>
      rw [Bool.not_eq_true] at opening closing
      have later := @isSpare_cons_succ_iff token rest pending.length
        pending.length (by simp [opening, closing])
      rw [ih, picked_cons]
      simp only [later, closing, Bool.false_and, Bool.false_eq_true, if_false,
        List.nil_append]

/-- How many closing brackets of the tokens have no partner among them. -/
def spareClosings : List Token → Nat
  | [] => 0
  | token :: rest =>
      if token.isOpening then spareClosings rest - 1
      else if token.isClosing then spareClosings rest + 1
      else spareClosings rest

private theorem spareClosings_le_iff {tokens : List Token} {bound : Nat} :
    spareClosings tokens ≤ bound ↔ ∀ count ≤ tokens.length,
      closings (tokens.take count) ≤
        bound + openings (tokens.take count) := by
  induction tokens generalizing bound with
  | nil => simp [spareClosings]
  | cons token rest ih =>
      have parts : (∀ count ≤ (token :: rest).length,
          closings ((token :: rest).take count) ≤
            bound + openings ((token :: rest).take count)) ↔
          ∀ count ≤ rest.length,
            closings (rest.take count) + token.isClosing.toNat ≤
              bound + openings (rest.take count) + token.isOpening.toNat := by
        constructor
        · intro each count le
          have part := each (count + 1) (Nat.succ_le_succ le)
          rwa [List.take_succ_cons, closings_cons, openings_cons,
            ← Nat.add_assoc] at part
        · intro each count le
          cases count with
          | zero => simp
          | succ count =>
              rw [List.take_succ_cons, closings_cons, openings_cons,
                ← Nat.add_assoc]
              exact each count (Nat.le_of_succ_le_succ le)
      rw [parts, spareClosings]
      cases opening : token.isOpening with
      | true =>
          simp only [if_true, not_isClosing_of_isOpening opening,
            Bool.toNat_true, Bool.toNat_false, Nat.add_zero,
            Nat.sub_le_iff_le_add, ih, Nat.add_right_comm]
      | false =>
          cases closing : token.isClosing with
          | true =>
              simp only [Bool.false_eq_true, if_false, if_true,
                Bool.toNat_true, Bool.toNat_false, Nat.add_zero]
              cases bound with
              | zero =>
                  refine iff_of_false (Nat.not_succ_le_zero _) fun each => ?_
                  have first := each 0 (Nat.zero_le _)
                  simp at first
              | succ bound =>
                  rw [Nat.add_le_add_iff_right, ih]
                  refine forall_congr' fun count => imp_congr_right fun _ => ?_
                  omega
          | false => simp [ih]

theorem isStrayOpening_cons_zero (token : Token) (rest : List Token) :
    isStrayOpening (token :: rest) token 0 =
      (token.isOpening && decide (spareClosings rest = 0)) := by
  rw [isStrayOpening]
  cases opening : token.isOpening with
  | false => rfl
  | true =>
      rw [Bool.true_and, Bool.true_and, decide_eq_decide, ← Nat.le_zero,
        spareClosings_le_iff]
      simp only [segment_cons_zero, closings_cons, openings_cons, opening,
        not_isClosing_of_isOpening opening, Bool.toNat_true, Bool.toNat_false,
        Nat.add_zero, Nat.zero_add, List.length_cons, Nat.lt_succ_iff,
        Nat.zero_le, true_implies]

theorem isStrayOpening_cons_succ (other : Token) (index : Nat) :
    isStrayOpening (token :: rest) other (index + 1) =
      isStrayOpening rest other index := by
  rw [isStrayOpening, isStrayOpening]
  congr 1
  rw [decide_eq_decide]
  constructor
  · intro each stop lt le
    exact each (stop + 1) (Nat.succ_lt_succ lt) (Nat.succ_le_succ le)
  · intro each stop lt le
    cases stop with
    | zero => exact absurd le (Nat.not_succ_le_zero index)
    | succ stop =>
        exact each stop (Nat.lt_of_succ_lt_succ lt) (Nat.le_of_succ_le_succ le)

theorem picked_isStrayOpening_cons (token : Token) (rest : List Token) :
    picked (isStrayOpening (token :: rest)) (token :: rest) =
      (if token.isOpening && decide (spareClosings rest = 0) then [token]
        else []) ++ picked (isStrayOpening rest) rest := by
  rw [picked_cons, isStrayOpening_cons_zero]
  simp only [isStrayOpening_cons_succ]

/-- The opening brackets that the stack reports are those that the tokens leave
on it and those without a partner in the tokens. -/
theorem filter_opening_bracketFindings (pending tokens : List Token) :
    (bracketFindings pending tokens).filter
        (·.code == .unmatchedOpeningBracket) =
      ((pending.drop (spareClosings tokens)).reverse ++
        picked (isStrayOpening tokens) tokens).map unmatchedOpening := by
  fun_induction bracketFindings pending tokens with
  | case1 pending =>
      rw [picked_nil, List.append_nil, spareClosings, List.drop_zero,
        List.filter_eq_self]
      intro finding member
      obtain ⟨token, _, rfl⟩ := List.mem_map.mp member
      rfl
  | case2 pending token rest opening ih =>
      rw [List.filter_append, filter_emptyBrackets (by decide),
        List.nil_append, ih, picked_isStrayOpening_cons, spareClosings,
        if_pos opening, opening]
      cases spareClosings rest <;> simp
  | case3 token rest opening closing ih =>
      rw [List.filter_cons_of_neg (by simp [unmatchedClosing, Finding.onToken]),
        ih, picked_isStrayOpening_cons]
      simp [opening]
  | case4 token rest opening closing innermost outer ih =>
      rw [ih, picked_isStrayOpening_cons, spareClosings, if_neg opening,
        if_pos closing]
      simp [opening]
  | case5 pending token rest opening closing ih =>
      rw [ih, picked_isStrayOpening_cons, spareClosings, if_neg opening,
        if_neg closing]
      simp [opening]

private theorem countP_closing_bracketFindings (pending tokens : List Token) :
    (bracketFindings pending tokens).countP
        (·.code == .unmatchedClosingBracket) =
      spareClosings tokens - pending.length := by
  fun_induction bracketFindings pending tokens with
  | case1 pending =>
      rw [List.countP_eq_zero.mpr, spareClosings, Nat.zero_sub]
      intro finding member
      obtain ⟨token, _, rfl⟩ := List.mem_map.mp member
      exact Bool.false_ne_true
  | case2 pending token rest opening ih =>
      rw [List.countP_append, List.countP_eq_length_filter,
        filter_emptyBrackets (by decide), ih, spareClosings, if_pos opening,
        List.length_nil, List.length_cons]
      omega
  | case3 token rest opening closing ih =>
      rw [List.countP_cons_of_pos rfl, ih, spareClosings, if_neg opening,
        if_pos closing]
      rfl
  | case4 token rest opening closing innermost outer ih =>
      rw [ih, spareClosings, if_neg opening, if_pos closing, List.length_cons,
        Nat.add_sub_add_right]
  | case5 pending token rest opening closing ih =>
      rw [ih, spareClosings, if_neg opening, if_neg closing]

private theorem leftOpen_add_closings {pending : Nat} {tokens : List Token}
    (few : spareClosings tokens ≤ pending) :
    leftOpen pending (forms tokens) + closings tokens =
      pending + openings tokens := by
  induction tokens generalizing pending with
  | nil => rfl
  | cons token rest ih =>
      rw [spareClosings] at few
      rw [forms_cons, closings_cons, openings_cons]
      split at few
      next opening =>
        have later := @ih (pending + 1) (by omega)
        rw [isOpening_iff.mp opening, leftOpen_opening,
          not_isClosing_of_isOpening opening, opening, Bool.toNat_true,
          Bool.toNat_false]
        omega
      next opening =>
        rw [Bool.not_eq_true] at opening
        split at few
        next closing =>
          have later := @ih (pending - 1) (by omega)
          rw [isClosing_iff.mp closing, leftOpen_closing, closing, opening,
            Bool.toNat_true, Bool.toNat_false]
          omega
        next closing =>
          rw [leftOpen_other (by simpa [← isOpening_iff] using opening)
            (by simpa [← isClosing_iff] using closing), opening]
          rw [Bool.not_eq_true] at closing
          rw [closing]
          exact ih few

private theorem areBalanced_iff {tokens : List Token} :
    AreBalanced tokens ↔
      spareClosings tokens = 0 ∧ leftOpen 0 (forms tokens) = 0 := by
  have none : (∀ count ≤ tokens.length, closings (tokens.take count) ≤
      openings (tokens.take count)) ↔ spareClosings tokens = 0 := by
    simp only [← Nat.le_zero, spareClosings_le_iff, Nat.zero_add]
  rw [AreBalanced, none]
  refine and_congr_right fun none => ?_
  have counted := leftOpen_add_closings (Nat.le_of_eq none)
  omega

end

/-- A code of brackets is reported for a row of tokens by the stack alone. -/
theorem filter_findings_of_brackets {code : Code}
    (isBracket : code.origin = .brackets) (tokens : List Token) :
    (findings tokens).filter (·.code == code) =
      (bracketFindings [] (Token.meaningful tokens)).filter
        (·.code == code) := by
  have noOther {origin : Origin} {others : List Finding}
      (from' : AllFrom origin others) (differs : origin ≠ .brackets) :
      others.filter (·.code == code) = [] := by
    rw [List.filter_eq_nil_iff]
    intro finding member same
    rw [beq_iff_eq] at same
    apply differs
    rw [← from' finding member, same, isBracket]
  rw [findings_eq, List.filter_append, List.filter_append,
    noOther (connectiveFindings_allFrom _) (by decide),
    noOther (extentFindings_allFrom _) (by decide), List.append_nil,
    List.append_nil]

/-- The brackets without a partner are reported, each once and where it is, and
no other token is.  Nothing is reported exactly if the brackets are
balanced. -/
theorem unmatched_findings_exact (tokens : List Token) :
    (findings tokens).filter (·.code == .unmatchedClosingBracket) =
        (picked (isStrayClosing (Token.meaningful tokens))
          (Token.meaningful tokens)).map (fun token =>
            { code := .unmatchedClosingBracket
              message := "Unmatched closing parenthesis ')'"
              span := some ⟨token.position, token.text.length⟩
              corrections := [] }) ∧
      (findings tokens).filter (·.code == .unmatchedOpeningBracket) =
        (picked (isStrayOpening (Token.meaningful tokens))
          (Token.meaningful tokens)).map (fun token =>
            { code := .unmatchedOpeningBracket
              message := "Unmatched opening parenthesis '(' (missing ')')"
              span := some ⟨token.position, token.text.length⟩
              corrections := [] }) ∧
      ((∀ finding ∈ findings tokens,
          finding.code ≠ .unmatchedClosingBracket ∧
            finding.code ≠ .unmatchedOpeningBracket) ↔
        AreBalanced (Token.meaningful tokens)) := by
  have isClosingFilter := @filter_findings_of_brackets
    .unmatchedClosingBracket rfl tokens
  have isOpeningFilter := @filter_findings_of_brackets
    .unmatchedOpeningBracket rfl tokens
  refine ⟨?_, ?_, ?_⟩
  · rw [isClosingFilter, filter_closing_bracketFindings]
    simp only [List.length_nil, isSpare_zero_iff]
    rfl
  · rw [isOpeningFilter, filter_opening_bracketFindings, List.drop_nil,
      List.reverse_nil, List.nil_append]
    rfl
  · have noneClosing := countP_closing_bracketFindings []
      (Token.meaningful tokens)
    have noneOpening := countP_bracketFindings [] (Token.meaningful tokens)
    rw [List.countP_eq_length_filter, ← isClosingFilter] at noneClosing
    rw [List.countP_eq_length_filter, ← isOpeningFilter] at noneOpening
    rw [areBalanced_iff, ← Nat.sub_zero (spareClosings _)]
    rw [List.length_nil] at noneClosing noneOpening
    rw [← noneClosing, ← noneOpening]
    simp only [List.length_eq_zero_iff, List.filter_eq_nil_iff, beq_iff_eq,
      forall_and]

end CardQuery.Structure
