import BookFinder.Proofs.Query.Grammar

/-! # Expressions in writing

The written form of what a keyword is read as is the keyword. Of expressions in general, those that
can be read back from their written form are the ones that some keyword is read as. -/

namespace BookFinder.Query

/-- The text can stand on either side of the `-` of a keyword. -/
structure IsPart (text : String) : Prop where
  ne_empty : text ≠ ""
  allowed (c : Char) : c ∈ text.toList → c ∉ disallowedCharacters
  no_operator (op : Operator) : op.toChar ∉ text.toList

structure IsWhole (text : String) : Prop where
  not_blank : ¬ IsBlank text
  allowed (c : Char) : c ∈ text.toList → c ∉ disallowedCharacters
  no_mark : '-' ∉ text.toList
  at_most_one : text.toList.count '|' ≤ 1
  not_first : text.toList.head? ≠ some '|'
  not_last : text.toList.getLast? ≠ some '|'

/-- The expression is one that a keyword can stand for. -/
inductive Expression.IsWritable : Expression → Prop
  | plain {keyword : String} (h : IsWhole keyword) : IsWritable (.plain keyword)
  | excluding {wanted unwanted : String} (hwanted : IsPart wanted) (hunwanted : IsPart unwanted) :
      IsWritable (.excluding wanted unwanted)

/-! ## Exclusions -/

theorem operatorCount_eq_zero_iff {text : String} :
    operatorCount text = 0 ↔ ∀ op : Operator, op.toChar ∉ text.toList := by
  refine ⟨not_mem_of_operatorCount, ?_⟩
  intro h
  rw [operatorCount, List.count_eq_zero.mpr (h .without), List.count_eq_zero.mpr (h .alternative)]

theorem IsPart.isTerm {text : String} (h : IsPart text) : IsTerm text :=
  ⟨h.ne_empty, operatorCount_eq_zero_iff.mpr h.no_operator⟩

theorem not_isBlank_of_mem {text : String} {c : Char} (hc : c ∈ text.toList)
    (h : Text.isBlank c = false) : ¬ IsBlank text := by
  intro hblank
  rw [hblank c hc] at h
  cases h

theorem parse_of_parts {wanted unwanted : String} (hwanted : IsPart wanted)
    (hunwanted : IsPart unwanted) :
    Expression.parse (wanted ++ "-" ++ unwanted) = .ok (.excluding wanted unwanted) := by
  have htext : (wanted ++ "-" ++ unwanted).toList = wanted.toList ++ '-' :: unwanted.toList := by
    simp
  have hwording : IsWording (wanted ++ "-" ++ unwanted) := by
    refine ⟨not_isBlank_of_mem (c := '-') (by simp [htext]) (by decide), ?_⟩
    intro c hc
    rw [htext, List.mem_append, List.mem_cons] at hc
    rcases hc with hc | rfl | hc
    · exact hwanted.allowed c hc
    · decide
    · exact hunwanted.allowed c hc
  exact (Verdict.excluding hwording hwanted.isTerm hunwanted.isTerm rfl).parse_eq

theorem parts_of_parse {raw wanted unwanted : String}
    (h : Expression.parse raw = .ok (.excluding wanted unwanted)) :
    IsPart wanted ∧ IsPart unwanted ∧ wanted ++ "-" ++ unwanted = raw := by
  have hverdict := verdict_parse raw
  rw [h] at hverdict
  cases hverdict with
  | excluding hwording hwanted hunwanted hraw =>
      have hpart {text : String} (hterm : IsTerm text)
          (hin : ∀ c ∈ text.toList, c ∈ raw.toList) : IsPart text :=
        ⟨hterm.ne_empty, fun c hc => hwording.allowed c (hin c hc),
          not_mem_of_operatorCount hterm.no_operator⟩
      refine ⟨hpart hwanted ?_, hpart hunwanted ?_, hraw⟩
      · intro c hc
        simp [← hraw, hc]
      · intro c hc
        simp [← hraw, hc]

/-! ## Plain keywords -/

theorem isAtAnEnd_iff {op : Operator} {text : String} :
    op.IsAtAnEnd text ↔
      text.toList.head? = some op.toChar ∨ text.toList.getLast? = some op.toChar := by
  rw [← atAnEnd_iff, Operator.atAnEnd, Bool.or_eq_true, beq_iff_eq, beq_iff_eq]

theorem operatorCount_of_no_mark {text : String} (h : '-' ∉ text.toList) :
    operatorCount text = text.toList.count '|' := by
  rw [operatorCount, Operator.toChar, List.count_eq_zero.mpr h, Nat.zero_add]
  rfl

/-- A keyword without a `-` is read as itself if it can be one at all. -/
theorem parse_eq_plain_iff {raw keyword : String} :
    Expression.parse raw = .ok (.plain keyword) ↔ IsWhole keyword ∧ keyword = raw := by
  constructor
  · intro h
    have hverdict := verdict_parse raw
    rw [h] at hverdict
    cases hverdict with
    | plain hwording hfew hend hmark =>
        rw [operatorCount_of_no_mark hmark] at hfew
        have hbar := hend .alternative
        rw [isAtAnEnd_iff, not_or] at hbar
        exact ⟨⟨hwording.not_blank, hwording.allowed, hmark, Nat.le_of_lt_succ hfew, hbar.1,
          hbar.2⟩, rfl⟩
  · rintro ⟨h, rfl⟩
    have hfew : operatorCount keyword < 2 := by
      rw [operatorCount_of_no_mark h.no_mark]
      exact Nat.lt_succ_of_le h.at_most_one
    have hend (op : Operator) : ¬ op.IsAtAnEnd keyword := by
      cases op with
      | without => exact fun hmark => h.no_mark hmark.mem
      | alternative =>
          rw [isAtAnEnd_iff, not_or]
          exact ⟨h.not_first, h.not_last⟩
    exact (Verdict.plain ⟨h.not_blank, h.allowed⟩ hfew hend h.no_mark).parse_eq

/-! ## There and back -/

/-- A keyword is read as an expression if and only if that can be written and the keyword is how it
is written. -/
theorem parse_eq_ok_iff {raw : String} {expression : Expression} :
    Expression.parse raw = .ok expression ↔ expression.IsWritable ∧ expression.display = raw := by
  cases expression with
  | plain keyword =>
      rw [parse_eq_plain_iff]
      refine and_congr_left' ⟨.plain, ?_⟩
      intro h
      cases h with
      | plain h => exact h
  | excluding wanted unwanted =>
      constructor
      · intro h
        obtain ⟨hwanted, hunwanted, hraw⟩ := parts_of_parse h
        exact ⟨.excluding hwanted hunwanted, hraw⟩
      · rintro ⟨h, rfl⟩
        cases h with
        | excluding hwanted hunwanted => exact parse_of_parts hwanted hunwanted

/-- Writing undoes reading for every keyword that is accepted. Reading undoes writing for just those
expressions that can be written, and these are the ones that keywords are read as. -/
theorem parse_display_inverse :
    (∀ raw expression, Expression.parse raw = .ok expression → expression.display = raw) ∧
    (∀ expression : Expression,
      Expression.parse expression.display = .ok expression ↔ expression.IsWritable) ∧
    ∀ expression : Expression,
      expression.IsWritable ↔ ∃ raw, Expression.parse raw = .ok expression := by
  refine ⟨?_, ?_, ?_⟩
  · intro raw expression h
    exact (parse_eq_ok_iff.mp h).2
  · intro expression
    rw [parse_eq_ok_iff]
    exact and_iff_left rfl
  · intro expression
    constructor
    · intro h
      exact ⟨expression.display, parse_eq_ok_iff.mpr ⟨h, rfl⟩⟩
    · rintro ⟨raw, h⟩
      exact (parse_eq_ok_iff.mp h).1

/-- An expression with an operator in its second part is written like a keyword of two operators. -/
example : Expression.parse (Expression.excluding "a" "b|c").display =
    .error (.tooManyOperators 2) := by
  decide

end BookFinder.Query
