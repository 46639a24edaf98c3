import CardQuery.Proofs.Search.Faultless

/-!
# The grammar of queries

An expression is a row of items of which any two neighbours may have `AND` or
`OR` between them.  An item is an atom, perhaps after `NOT`, and an atom is a
word, a phrase, a condition or an expression between brackets.

The checks of the structure know no grammar: they match brackets and compare
neighbours.  Below they are shown to accept exactly the expressions.
-/

namespace CardQuery.Structure

mutual

/-- A row of items, with `AND`, `OR` or nothing between neighbours. -/
inductive IsExpression : List Form → Prop where
  | intro {item rest : List Form} :
      IsItem item → IsContinuation rest → IsExpression (item ++ rest)

/-- What follows the first item of an expression. -/
inductive IsContinuation : List Form → Prop where
  | nil : IsContinuation []
  | juxtaposed {item rest : List Form} :
      IsItem item → IsContinuation rest → IsContinuation (item ++ rest)
  | joined {joining : Connective} {item rest : List Form} :
      joining ≠ .not → IsItem item → IsContinuation rest →
      IsContinuation (.connective joining :: (item ++ rest))

/-- An atom, perhaps after `NOT`. -/
inductive IsItem : List Form → Prop where
  | plain {atom : List Form} : IsAtom atom → IsItem atom
  | negated {atom : List Form} :
      IsAtom atom → IsItem (.connective .not :: atom)

/-- A word, a phrase, a condition or an expression between brackets. -/
inductive IsAtom : List Form → Prop where
  | word : IsAtom [.word]
  | phrase (value : Text) (closed : Bool) : IsAtom [.phrase value closed]
  | condition (asked : Condition) : IsAtom [.condition asked]
  | bracketed {inner : List Form} :
      IsExpression inner → IsAtom (enclose inner)

end

/-- Forms that close their own brackets and may stand between brackets. -/
structure IsSound (forms : List Form) : Prop where
  closes : closesAll 0 forms = true
  coherent : IsCoherent forms

/-- Whether an atom can begin with the form. -/
def beginsAtom : Form → Bool
  | .word | .phrase _ _ | .condition _ | .bracket true => true
  | _ => false

theorem mayAdjoin_of_beginsAtom {second : Form} (begins : beginsAtom second)
    (first : Form) : mayAdjoin first second = true := by
  cases second with
  | bracket isOpen =>
      cases isOpen <;> simp_all [beginsAtom, mayAdjoin, isFilled, isJoined]
  | _ => simp_all [beginsAtom, mayAdjoin, isFilled, isJoined]

private theorem mayAdjoin_of_closing {first : Form}
    (last : mayAdjoin first (.bracket false) = true) (second : Form) :
    mayAdjoin first second = true := by
  cases first with
  | connective joining => simp [mayAdjoin, isJoined] at last
  | bracket isOpen =>
      cases isOpen <;> simp_all [mayAdjoin, isFilled, isJoined]
  | _ => simp [mayAdjoin, isFilled, isJoined]

private theorem mayAdjoin_joining_iff {joining : Connective}
    (joins : joining ≠ .not)
    {second : Form} :
    mayAdjoin (.connective joining) second = true ↔
      mayAdjoin (.bracket true) second = true := by
  cases second with
  | connective next =>
      simp [mayAdjoin, isFilled, isJoined, mayFollow, joins]
  | bracket isOpen => cases isOpen <;> simp [mayAdjoin, isFilled, isJoined]
  | _ => simp [mayAdjoin, isFilled, isJoined]

theorem isCoherent_iff_ends {forms : List Form} (nonempty : forms ≠ []) :
    IsCoherent forms ↔
      (∀ first ∈ forms.head?, mayAdjoin (.bracket true) first = true) ∧
        forms.IsChain (mayAdjoin · ·) ∧
        ∀ last ∈ forms.getLast?, mayAdjoin last (.bracket false) = true := by
  rw [IsCoherent, enclose, List.isChain_cons, List.isChain_append,
    List.head?_append_of_ne_nil _ nonempty]
  simp

theorem not_isCoherent_nil : ¬ IsCoherent [] := by
  decide

theorem IsCoherent.ne_nil {forms : List Form} (coherent : IsCoherent forms) :
    forms ≠ [] := by
  rintro rfl
  exact not_isCoherent_nil coherent

theorem IsSound.ne_nil {forms : List Form} (sound : IsSound forms) :
    forms ≠ [] :=
  sound.coherent.ne_nil

theorem IsSound.append {left right : List Form} (leftSound : IsSound left)
    (rightSound : IsSound right) : IsSound (left ++ right) := by
  have leftSome := leftSound.ne_nil
  have rightSome := rightSound.ne_nil
  obtain ⟨leftFirst, leftChain, leftLast⟩ :=
    (isCoherent_iff_ends leftSome).mp leftSound.coherent
  obtain ⟨_, rightChain, rightLast⟩ :=
    (isCoherent_iff_ends rightSome).mp rightSound.coherent
  constructor
  · rw [← rightSound.closes]
    exact closesAll_append leftSound.closes 0 right
  · rw [isCoherent_iff_ends (by simp [leftSome]),
      List.head?_append_of_ne_nil _ leftSome,
      List.getLast?_append_of_ne_nil _ rightSome]
    refine ⟨leftFirst, ?_, rightLast⟩
    exact leftChain.append rightChain fun last isLast first _ =>
      mayAdjoin_of_closing (leftLast last isLast) first

private theorem IsSound.joined {joining : Connective} (joins : joining ≠ .not)
    {left right : List Form} (leftSound : IsSound left)
    (rightSound : IsSound right) :
    IsSound (left ++ .connective joining :: right) := by
  have leftSome := leftSound.ne_nil
  have rightSome := rightSound.ne_nil
  obtain ⟨leftFirst, leftChain, leftLast⟩ :=
    (isCoherent_iff_ends leftSome).mp leftSound.coherent
  obtain ⟨rightFirst, rightChain, rightLast⟩ :=
    (isCoherent_iff_ends rightSome).mp rightSound.coherent
  constructor
  · rw [← rightSound.closes]
    have passed := closesAll_append leftSound.closes 0
      (.connective joining :: right)
    simpa [closesAll_other] using passed
  · rw [isCoherent_iff_ends (by simp),
      List.head?_append_of_ne_nil _ leftSome,
      List.getLast?_append_of_ne_nil _ (by simp),
      List.getLast?_cons_of_ne_nil rightSome]
    refine ⟨leftFirst, ?_, rightLast⟩
    refine leftChain.append ?_ fun last isLast first _ =>
      mayAdjoin_of_closing (leftLast last isLast) first
    exact List.isChain_cons.mpr ⟨fun first isFirst =>
      (mayAdjoin_joining_iff joins).mpr (rightFirst first isFirst), rightChain⟩

private theorem IsSound.negated {atom : List Form} (sound : IsSound atom)
    (begins : ∀ first ∈ atom.head?, beginsAtom first = true) :
    IsSound (.connective .not :: atom) := by
  have some := sound.ne_nil
  obtain ⟨_, chain, last⟩ := (isCoherent_iff_ends some).mp sound.coherent
  constructor
  · simpa [closesAll_other] using sound.closes
  · rw [isCoherent_iff_ends (by simp), List.getLast?_cons_of_ne_nil some]
    refine ⟨by simp [mayAdjoin, isFilled, isJoined], ?_, last⟩
    exact List.isChain_cons.mpr ⟨fun first isFirst =>
      mayAdjoin_of_beginsAtom (begins first isFirst) _, chain⟩

private theorem IsSound.enclose {inner : List Form} (sound : IsSound inner) :
    IsSound (enclose inner) := by
  constructor
  · rw [Structure.enclose, closesAll_opening]
    exact closesAll_append sound.closes 1 [.bracket false]
  · rw [isCoherent_iff_ends (by simp [Structure.enclose])]
    refine ⟨?_, sound.coherent, ?_⟩
    · simp [Structure.enclose, mayAdjoin, isFilled, isJoined]
    · simp [Structure.enclose, List.getLast?_cons_of_ne_nil, mayAdjoin,
        isFilled, isJoined]

theorem isSound_singleton {form : Form} (begins : beginsAtom form = true)
    (noBracket : form ≠ .bracket true) : IsSound [form] := by
  have fits : mayAdjoin form (.bracket false) = true := by
    cases form with
    | bracket isOpen => cases isOpen <;> simp_all [beginsAtom]
    | _ => simp_all [beginsAtom, mayAdjoin, isFilled, isJoined]
  have noClosing : form ≠ .bracket false := by
    rintro rfl
    simp [beginsAtom] at begins
  constructor
  · simp [closesAll_other noBracket noClosing]
  · rw [isCoherent_iff_ends (by simp)]
    refine ⟨?_, List.isChain_singleton _, by simpa using fits⟩
    simpa using mayAdjoin_of_beginsAtom begins (.bracket true)

private theorem IsAtom.begins {forms : List Form} (atom : IsAtom forms) :
    ∀ first ∈ forms.head?, beginsAtom first = true := by
  cases atom <;> simp [beginsAtom, Structure.enclose]

mutual

private theorem IsExpression.isSound {forms : List Form} :
    IsExpression forms → IsSound forms
  | .intro item rest => rest.isSound_append item.isSound

/-- A continuation may follow whatever may stand between brackets. -/
theorem IsContinuation.isSound_append {rest : List Form} :
    IsContinuation rest → ∀ {front : List Form}, IsSound front →
      IsSound (front ++ rest)
  | .nil, _, sound => by simpa using sound
  | .juxtaposed item later, _, sound => by
      rw [← List.append_assoc]
      exact later.isSound_append (sound.append item.isSound)
  | .joined joins item later, _, sound => by
      have joined := later.isSound_append (sound.joined joins item.isSound)
      simpa using joined

theorem IsItem.isSound {forms : List Form} : IsItem forms → IsSound forms
  | .plain atom => atom.isSound
  | .negated atom => atom.isSound.negated atom.begins

theorem IsAtom.isSound {forms : List Form} : IsAtom forms → IsSound forms
  | .word => isSound_singleton rfl (by simp)
  | .phrase value closed => isSound_singleton rfl (by simp)
  | .condition asked => isSound_singleton rfl (by simp)
  | .bracketed inner => inner.isSound.enclose

end

/-- Forms which close their own brackets and whose neighbours fit up to the
closing bracket behind them. -/
structure IsTail (forms : List Form) : Prop where
  meaningful : ∀ form ∈ forms, form.isMeaningful = true
  closes : closesAll 0 forms = true
  chain : (forms ++ [Form.bracket false]).IsChain (mayAdjoin · ·)

theorem IsTail.of_cons {form : Form} {rest : List Form}
    (tail : IsTail (form :: rest)) (noOpening : form ≠ .bracket true)
    (noClosing : form ≠ .bracket false) : IsTail rest where
  meaningful := fun other member => tail.meaningful other (by simp [member])
  closes := by
    simpa [closesAll_other noOpening noClosing] using tail.closes
  chain := tail.chain.tail

/-- Forms whose first one may stand after an opening bracket. -/
def MayStart (forms : List Form) : Prop :=
  ∀ first ∈ (forms ++ [Form.bracket false]).head?,
    mayAdjoin (.bracket true) first = true

private theorem IsTail.mayAdjoin_head {form next : Form} {rest : List Form}
    (tail : IsTail (form :: rest))
    (isNext : next ∈ (rest ++ [Form.bracket false]).head?) :
    mayAdjoin form next = true :=
  (List.isChain_cons.mp tail.chain).1 next isNext

private theorem IsTail.mayAdjoin_opening {first : Form} {rest : List Form}
    (tail : IsTail (first :: rest))
    (plain : ¬ ∃ joining, joining ≠ .not ∧ first = .connective joining) :
    mayAdjoin (.bracket true) first = true := by
  cases first with
  | connective joining =>
      have negation : joining = .not := by
        by_contra joins
        exact plain ⟨joining, joins, rfl⟩
      simp [negation, mayAdjoin, isFilled, isJoined]
  | bracket isOpen =>
      cases isOpen with
      | true => simp [mayAdjoin, isFilled, isJoined]
      | false => exact absurd tail.closes (by simp)
  | _ => simp [mayAdjoin, isFilled, isJoined]

private theorem IsTail.exists_atom {first : Form} {rest : List Form}
    (tail : IsTail (first :: rest)) (begins : beginsAtom first = true)
    (inside : ∀ inner : List Form, inner.length < rest.length →
      IsTail inner → MayStart inner → IsExpression inner) :
    ∃ atom later, first :: rest = atom ++ later ∧ IsAtom atom ∧
      IsTail later ∧ later.length ≤ rest.length := by
  cases first with
  | word => exact ⟨[.word], rest, rfl, .word, tail.of_cons (by simp) (by simp),
      Nat.le_refl _⟩
  | phrase value closed =>
      exact ⟨[.phrase value closed], rest, rfl, .phrase value closed,
        tail.of_cons (by simp) (by simp), Nat.le_refl _⟩
  | condition asked =>
      exact ⟨[.condition asked], rest, rfl, .condition asked,
        tail.of_cons (by simp) (by simp), Nat.le_refl _⟩
  | bracket isOpen =>
      have opening : isOpen = true := by
        cases isOpen <;> simp_all [beginsAtom]
      subst opening
      obtain ⟨inner, later, split, innerCloses, laterCloses⟩ :=
        @exists_closing 0 0 rest (by simpa using tail.closes)
      subst split
      have chain : (enclose inner ++ (later ++ [Form.bracket false])).IsChain
          (mayAdjoin · ·) := by
        simpa [Structure.enclose] using tail.chain
      have innerTail : IsTail inner :=
        { meaningful := fun form member =>
            tail.meaningful form (by simp [member])
          closes := innerCloses
          chain := chain.left_of_append.tail }
      have innerStart := (List.isChain_cons.mp chain.left_of_append).1
      refine ⟨enclose inner, later, by simp [Structure.enclose], ?_, ?_, ?_⟩
      · exact .bracketed (inside inner (by simp) innerTail innerStart)
      · exact
          { meaningful := fun form member =>
              tail.meaningful form (by simp [member])
            closes := laterCloses
            chain := chain.right_of_append }
      · simp
        omega
  | _ => simp [beginsAtom] at begins

private theorem beginsAtom_of_negated {second : Form}
    (counts : second.isMeaningful = true)
    (fits : mayAdjoin (.connective .not) second = true) :
    beginsAtom second = true := by
  cases second with
  | connective joining => simp [mayAdjoin, isJoined, mayFollow] at fits
  | bracket isOpen => cases isOpen <;> simp_all [mayAdjoin, isJoined, beginsAtom]
  | _ => simp_all [Form.isMeaningful, beginsAtom]

private theorem beginsAtom_of_started {first : Form}
    (counts : first.isMeaningful = true)
    (fits : mayAdjoin (.bracket true) first = true)
    (plain : first ≠ .connective .not) : beginsAtom first = true := by
  cases first with
  | connective joining => cases joining <;> simp_all [mayAdjoin, isJoined]
  | bracket isOpen => cases isOpen <;> simp_all [mayAdjoin, isFilled, beginsAtom]
  | _ => simp_all [Form.isMeaningful, beginsAtom]

private theorem IsTail.exists_item {forms : List Form} (tail : IsTail forms)
    (starts : MayStart forms)
    (inside : ∀ inner : List Form, inner.length < forms.length →
      IsTail inner → MayStart inner → IsExpression inner) :
    ∃ item later, forms = item ++ later ∧ IsItem item ∧ IsTail later ∧
      later.length < forms.length := by
  cases forms with
  | nil => simp [MayStart, mayAdjoin, isFilled] at starts
  | cons first rest =>
      have start : mayAdjoin (.bracket true) first = true := by
        simpa [MayStart] using starts
      by_cases negation : first = .connective .not
      · subst negation
        have later := tail.of_cons (by simp) (by simp)
        cases rest with
        | nil =>
            have fits : mayAdjoin (.connective .not) (.bracket false) = true :=
              tail.mayAdjoin_head (by simp)
            simp [mayAdjoin, isJoined] at fits
        | cons second rest =>
            have begins : beginsAtom second = true :=
              beginsAtom_of_negated (tail.meaningful second (by simp))
                (tail.mayAdjoin_head (by simp))
            obtain ⟨atom, after, split, isAtom, afterTail, shorter⟩ :=
              later.exists_atom begins fun inner small =>
                inside inner (by simp; omega)
            exact ⟨.connective .not :: atom, after, by simp [split],
              .negated isAtom, afterTail, by simp; omega⟩
      · have begins : beginsAtom first = true :=
          beginsAtom_of_started (tail.meaningful first (by simp)) start negation
        obtain ⟨atom, after, split, isAtom, afterTail, shorter⟩ :=
          tail.exists_atom begins fun inner small =>
            inside inner (by simp; omega)
        exact ⟨atom, after, split, .plain isAtom, afterTail, by simp; omega⟩

private theorem IsTail.derivable {forms : List Form} (tail : IsTail forms) :
    IsContinuation forms ∧ (MayStart forms → IsExpression forms) := by
  induction size : forms.length using Nat.strongRecOn generalizing forms with
  | _ size ih =>
      subst size
      have inside : ∀ inner : List Form, inner.length < forms.length →
          IsTail inner → MayStart inner → IsExpression inner :=
        fun inner shorter innerTail => (ih _ shorter innerTail rfl).2
      constructor
      · cases forms with
        | nil => exact .nil
        | cons first rest =>
            by_cases joins : ∃ joining, joining ≠ .not ∧
                first = .connective joining
            · obtain ⟨joining, isJoining, rfl⟩ := joins
              have later := tail.of_cons (by simp) (by simp)
              obtain ⟨item, after, split, isItem, afterTail, shorter⟩ :=
                later.exists_item
                  (fun next isNext => (mayAdjoin_joining_iff isJoining).mp
                    (tail.mayAdjoin_head isNext))
                  fun inner small => inside inner (by simp; omega)
              rw [split]
              exact .joined isJoining isItem
                (ih _ (by simp; omega) afterTail rfl).1
            · obtain ⟨item, after, split, isItem, afterTail, shorter⟩ :=
                tail.exists_item
                  (by simpa [MayStart] using tail.mayAdjoin_opening joins)
                  inside
              rw [split]
              exact .juxtaposed isItem (ih _ shorter afterTail rfl).1
      · intro starts
        obtain ⟨item, after, split, isItem, afterTail, shorter⟩ :=
          tail.exists_item starts inside
        rw [split]
        exact .intro isItem (ih _ shorter afterTail rfl).1

/-- Meaningful forms are an expression exactly if they close their own
brackets and may stand between brackets. -/
theorem isExpression_iff_isSound {forms : List Form}
    (meaningful : ∀ form ∈ forms, form.isMeaningful = true) :
    IsExpression forms ↔ IsSound forms := by
  constructor
  · exact IsExpression.isSound
  · intro sound
    have tail : IsTail forms := ⟨meaningful, sound.closes, sound.coherent.tail⟩
    exact tail.derivable.2 (List.isChain_cons.mp sound.coherent).1

/-- The structure of a query has no fault exactly if its meaningful tokens are
derived from the grammar of expressions. -/
theorem check_isValid_iff_isExpression (tokens : List Token) :
    (check tokens).isValid = true ↔ IsExpression (meaningfulForms tokens) := by
  rw [isExpression_iff_isSound fun _ => isMeaningful_of_mem, CheckResult.isValid,
    check, List.isEmpty_iff, findings_eq_nil_iff]
  exact ⟨fun ⟨closes, coherent⟩ => ⟨closes, coherent⟩,
    fun sound => ⟨sound.closes, sound.coherent⟩⟩

end CardQuery.Structure
