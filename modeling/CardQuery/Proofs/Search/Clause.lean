import CardQuery.Proofs.Search.Expression

/-!
# Clauses

A clause begins like an atom, closes its own brackets and has neighbours that
fit, but it may end in a connective.  Clauses can be put one after another, for
anything may stand before what begins like an atom.  The one thing at stake is
a connective at the end of a clause: it must not meet the end of the query, a
closing bracket or another connective.
-/

namespace CardQuery.Structure

/-- Whether the last form is a connective. -/
def dangles (forms : List Form) : Bool :=
  forms.getLast?.any (·.connective?.isSome)

/-- Forms that may follow anything and close their own brackets. -/
structure IsPart (forms : List Form) : Prop where
  nonempty : forms ≠ []
  begins : ∀ first ∈ forms.head?, beginsAtom first = true
  closes : closesAll 0 forms = true

/-- A part whose neighbours fit. -/
structure IsClause (forms : List Form) : Prop extends IsPart forms where
  chain : forms.IsChain (mayAdjoin · ·)

theorem dangles_append {left right : List Form} (nonempty : right ≠ []) :
    dangles (left ++ right) = dangles right := by
  rw [dangles, List.getLast?_append_of_ne_nil _ nonempty, dangles]

private theorem mayAdjoin_iff_of_follower {last follower : Form}
    (noOpening : last ≠ .bracket true)
    (follows : follower = .bracket false ∨ follower = .connective .or) :
    mayAdjoin last follower = true ↔ last.connective? = none := by
  rcases follows with rfl | rfl
  · cases last with
    | bracket isOpen =>
        cases isOpen <;>
          simp_all [mayAdjoin, isFilled, isJoined, Form.connective?]
    | _ => simp [mayAdjoin, isFilled, isJoined, Form.connective?]
  · cases last with
    | bracket isOpen =>
        cases isOpen <;>
          simp_all [mayAdjoin, isFilled, isJoined, Form.connective?]
    | _ =>
        simp [mayAdjoin, isFilled, isJoined, Form.connective?, mayFollow]

private theorem IsPart.last_ne_opening {forms : List Form} (part : IsPart forms)
    {last : Form} (isLast : last ∈ forms.getLast?) : last ≠ .bracket true := by
  rintro rfl
  obtain ⟨front, rfl⟩ := List.getLast?_eq_some_iff.mp isLast
  exact not_opening_of_closesAll part.closes

private theorem dangles_eq_false_iff {forms : List Form} :
    dangles forms = false ↔
      ∀ last ∈ forms.getLast?, last.connective? = none := by
  cases last : forms.getLast? with
  | none => simp [dangles, last]
  | some form => simp [dangles, last]

private theorem IsPart.mayAdjoin_follower_iff {forms : List Form}
    (part : IsPart forms) {follower : Form}
    (follows : follower = .bracket false ∨ follower = .connective .or) :
    (∀ last ∈ forms.getLast?, mayAdjoin last follower = true) ↔
      dangles forms = false := by
  rw [dangles_eq_false_iff]
  constructor
  · intro fits last isLast
    exact (mayAdjoin_iff_of_follower (part.last_ne_opening isLast) follows).mp
      (fits last isLast)
  · intro ended last isLast
    exact (mayAdjoin_iff_of_follower (part.last_ne_opening isLast) follows).mpr
      (ended last isLast)

private theorem IsPart.isSound_iff {forms : List Form} (part : IsPart forms) :
    IsSound forms ↔
      forms.IsChain (mayAdjoin · ·) ∧ dangles forms = false := by
  rw [← part.mayAdjoin_follower_iff (Or.inl rfl)]
  constructor
  · intro sound
    obtain ⟨_, chain, last⟩ :=
      (isCoherent_iff_ends part.nonempty).mp sound.coherent
    exact ⟨chain, last⟩
  · rintro ⟨chain, last⟩
    refine ⟨part.closes, (isCoherent_iff_ends part.nonempty).mpr
      ⟨?_, chain, last⟩⟩
    intro first isFirst
    exact mayAdjoin_of_beginsAtom (part.begins first isFirst) _

private theorem isChain_append_iff_of_begins {left right : List Form}
    (begins : ∀ first ∈ right.head?, beginsAtom first = true) :
    (left ++ right).IsChain (mayAdjoin · ·) ↔
      left.IsChain (mayAdjoin · ·) ∧ right.IsChain (mayAdjoin · ·) := by
  rw [List.isChain_append]
  constructor
  · rintro ⟨leftChain, rightChain, _⟩
    exact ⟨leftChain, rightChain⟩
  · rintro ⟨leftChain, rightChain⟩
    exact ⟨leftChain, rightChain, fun last _ first isFirst =>
      mayAdjoin_of_beginsAtom (begins first isFirst) last⟩

private theorem IsClause.isChain_append_follower_iff {forms : List Form}
    (clause : IsClause forms) {follower : Form}
    (follows : follower = .bracket false ∨ follower = .connective .or) :
    (forms ++ [follower]).IsChain (mayAdjoin · ·) ↔
      dangles forms = false := by
  rw [← clause.mayAdjoin_follower_iff follows, List.isChain_append]
  constructor
  · rintro ⟨_, _, fits⟩ last isLast
    exact fits last isLast follower rfl
  · intro fits
    refine ⟨clause.chain, List.isChain_singleton _, ?_⟩
    intro last isLast next isNext
    rw [← Option.some.inj isNext]
    exact fits last isLast

theorem IsPart.append {left right : List Form} (leftPart : IsPart left)
    (rightPart : IsPart right) : IsPart (left ++ right) where
  nonempty := by simp [leftPart.nonempty]
  begins := by
    rw [List.head?_append_of_ne_nil _ leftPart.nonempty]
    exact leftPart.begins
  closes := by
    rw [← rightPart.closes]
    exact closesAll_append leftPart.closes 0 right

theorem isPart_flatten {parts : List (List Form)} (nonempty : parts ≠ [])
    (all : ∀ part ∈ parts, IsPart part) : IsPart parts.flatten := by
  induction parts with
  | nil => contradiction
  | cons first rest ih =>
      have isFirst := all first List.mem_cons_self
      cases rest with
      | nil => simpa using isFirst
      | cons second rest =>
          exact isFirst.append (ih (by simp) fun part member =>
            all part (List.mem_cons_of_mem first member))

theorem isChain_flatten_iff {parts : List (List Form)}
    (all : ∀ part ∈ parts, IsPart part) :
    parts.flatten.IsChain (mayAdjoin · ·) ↔
      ∀ part ∈ parts, part.IsChain (mayAdjoin · ·) := by
  induction parts with
  | nil => simp
  | cons first rest ih =>
      have later := ih fun part member =>
        all part (List.mem_cons_of_mem first member)
      cases rest with
      | nil => simp
      | cons second rest =>
          have isPart : IsPart (second :: rest).flatten :=
            isPart_flatten (by simp) fun part member =>
              all part (List.mem_cons_of_mem first member)
          rw [List.flatten_cons, isChain_append_iff_of_begins isPart.begins,
            later]
          exact List.forall_mem_cons.symm

theorem dangles_flatten {parts : List (List Form)}
    (all : ∀ part ∈ parts, IsPart part) :
    dangles parts.flatten = parts.getLast?.any dangles := by
  induction parts with
  | nil => rfl
  | cons first rest ih =>
      have later := ih fun part member =>
        all part (List.mem_cons_of_mem first member)
      cases rest with
      | nil => simp
      | cons second rest =>
          have some : (second :: rest).flatten ≠ [] := by
            simp [(all second (by simp)).nonempty]
          rw [List.flatten_cons, dangles_append some, later,
            List.getLast?_cons_cons]

/-- Parts in a row are sound if each of them is coherent in itself and the last
one does not end in a connective. -/
theorem isSound_flatten_iff {parts : List (List Form)} (nonempty : parts ≠ [])
    (all : ∀ part ∈ parts, IsPart part) :
    IsSound parts.flatten ↔
      (∀ part ∈ parts, part.IsChain (mayAdjoin · ·)) ∧
        parts.getLast?.any dangles = false := by
  rw [(isPart_flatten nonempty all).isSound_iff, isChain_flatten_iff all,
    dangles_flatten all]

/-- Forms with `OR` between them. -/
def alternatives (clauses : List (List Form)) : List Form :=
  [Form.connective .or].intercalate clauses

theorem alternatives_cons {clause : List Form} {rest : List (List Form)}
    (nonempty : rest ≠ []) :
    alternatives (clause :: rest) =
      clause ++ .connective .or :: alternatives rest := by
  simp [alternatives, List.intercalate_cons_of_ne_nil nonempty]

theorem isPart_alternatives {clauses : List (List Form)}
    (nonempty : clauses ≠ []) (all : ∀ clause ∈ clauses, IsPart clause) :
    IsPart (alternatives clauses) := by
  induction clauses with
  | nil => contradiction
  | cons first rest ih =>
      have isFirst := all first List.mem_cons_self
      by_cases single : rest = []
      · subst single
        simpa [alternatives] using isFirst
      · have later := ih single fun clause member =>
          all clause (List.mem_cons_of_mem first member)
        rw [alternatives_cons single]
        constructor
        · simp
        · rw [List.head?_append_of_ne_nil _ isFirst.nonempty]
          exact isFirst.begins
        · have passed := closesAll_append isFirst.closes 0
            (.connective .or :: alternatives rest)
          simpa [closesAll_other, later.closes] using passed

theorem isPart_enclose {inner : List Form} (part : IsPart inner) :
    IsPart (enclose inner) where
  nonempty := by simp [enclose]
  begins := by simp [enclose, beginsAtom]
  closes := by
    rw [enclose, closesAll_opening]
    exact closesAll_append part.closes 1 [.bracket false]

theorem dangles_enclose (inner : List Form) :
    dangles (enclose inner) = false := by
  simp [dangles, enclose, List.getLast?_cons_of_ne_nil, Form.connective?]

theorem mem_enclose_iff {form : Form} {inner : List Form}
    (noBracket : ∀ isOpen, form ≠ .bracket isOpen) :
    form ∈ enclose inner ↔ form ∈ inner := by
  simp [enclose, noBracket]

theorem mem_alternatives_iff {form : Form} {clauses : List (List Form)}
    (noConnective : form ≠ .connective .or) :
    form ∈ alternatives clauses ↔ ∃ clause ∈ clauses, form ∈ clause := by
  induction clauses with
  | nil => simp [alternatives]
  | cons first rest ih =>
      by_cases single : rest = []
      · subst single
        simp [alternatives]
      · rw [alternatives_cons single]
        simp [noConnective, ih]

/-- Alternatives between brackets are coherent exactly if none of them ends in
a connective. -/
theorem isChain_enclose_alternatives_iff {clauses : List (List Form)}
    (nonempty : clauses ≠ []) (all : ∀ clause ∈ clauses, IsClause clause) :
    (enclose (alternatives clauses)).IsChain (mayAdjoin · ·) ↔
      ∀ clause ∈ clauses, dangles clause = false := by
  have begins {clauses : List (List Form)} (nonempty : clauses ≠ [])
      (all : ∀ clause ∈ clauses, IsClause clause) :
      ∀ first ∈ (alternatives clauses ++ [Form.bracket false]).head?,
        beginsAtom first = true := by
    have part := isPart_alternatives nonempty fun clause member =>
      (all clause member).toIsPart
    rw [List.head?_append_of_ne_nil _ part.nonempty]
    exact part.begins
  rw [enclose, ← List.singleton_append,
    isChain_append_iff_of_begins (begins nonempty all)]
  simp only [List.isChain_singleton, true_and]
  induction clauses with
  | nil => contradiction
  | cons first rest ih =>
      have isFirst := all first List.mem_cons_self
      by_cases single : rest = []
      · subst single
        simp [alternatives,
          isFirst.isChain_append_follower_iff (Or.inl rfl)]
      · have allLater : ∀ clause ∈ rest, IsClause clause :=
          fun clause member => all clause (List.mem_cons_of_mem first member)
        have split : alternatives (first :: rest) ++ [Form.bracket false] =
            (first ++ [.connective .or]) ++
              (alternatives rest ++ [.bracket false]) := by
          simp [alternatives_cons single]
        have later := ih single allLater
        rw [split, isChain_append_iff_of_begins (begins single allLater),
          isFirst.isChain_append_follower_iff (Or.inr rfl)]
        constructor
        · rintro ⟨firstEnded, chain⟩
          exact List.forall_mem_cons.mpr ⟨firstEnded, later.mp chain⟩
        · intro ended
          obtain ⟨firstEnded, restEnded⟩ := List.forall_mem_cons.mp ended
          exact ⟨firstEnded, later.mpr restEnded⟩

end CardQuery.Structure
