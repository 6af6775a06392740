import BookFinder.Query.Expression
import BookFinder.Text.Split
import Mathlib.Data.List.Basic
import Mathlib.Data.List.TakeWhile

/-! # The grammar of keywords

A keyword has to keep four rules, in a fixed order, and is refused for the first that it breaks. A
keyword that keeps them all is an exclusion if it has a `-`, and a plain term if not. -/

namespace BookFinder.Query

/-! ## The rules -/

/-- There is nothing but white space in the text. -/
def IsBlank (text : String) : Prop := ∀ c ∈ text.toList, Text.isBlank c = true

/-- How many operators the text has, of both kinds together. -/
def operatorCount (text : String) : Nat :=
  text.toList.count Operator.without.toChar + text.toList.count Operator.alternative.toChar

def Operator.IsAtAnEnd (op : Operator) (text : String) : Prop :=
  ∃ rest, text.toList = op.toChar :: rest ∨ text.toList = rest ++ [op.toChar]

/-- The text keeps the first two rules, which do not look at operators. -/
structure IsWording (text : String) : Prop where
  not_blank : ¬ IsBlank text
  allowed (c : Char) : c ∈ text.toList → c ∉ disallowedCharacters

structure IsTerm (text : String) : Prop where
  ne_empty : text ≠ ""
  no_operator : operatorCount text = 0

/-- What a keyword comes to: the first rule that it breaks, or what it stands for if it breaks
none. -/
inductive Verdict (raw : String) : Except QueryError Expression → Prop
  | blank (h : IsBlank raw) : Verdict raw (.error .blank)
  | disallowed {before after : List Char} {c : Char} (hwritten : ¬ IsBlank raw)
      (hraw : raw.toList = before ++ c :: after) (hc : c ∈ disallowedCharacters)
      (hbefore : ∀ d ∈ before, d ∉ disallowedCharacters) :
      Verdict raw (.error (.disallowedCharacter c))
  | crowded (hwording : IsWording raw) (hmany : 2 ≤ operatorCount raw) :
      Verdict raw (.error (.tooManyOperators (operatorCount raw)))
  | misplaced (op : Operator) (hwording : IsWording raw) (hfew : operatorCount raw < 2)
      (hend : op.IsAtAnEnd raw) : Verdict raw (.error (.misplacedOperator op))
  | excluding {wanted unwanted : String} (hwording : IsWording raw) (hwanted : IsTerm wanted)
      (hunwanted : IsTerm unwanted) (hraw : wanted ++ "-" ++ unwanted = raw) :
      Verdict raw (.ok (.excluding wanted unwanted))
  | plain (hwording : IsWording raw) (hfew : operatorCount raw < 2)
      (hend : ∀ op : Operator, ¬ op.IsAtAnEnd raw) (hmark : '-' ∉ raw.toList) :
      Verdict raw (.ok (.plain raw))

/-! ## Operators of a text -/

theorem countP_isOperator (cs : List Char) :
    cs.countP isOperator =
      cs.count Operator.without.toChar + cs.count Operator.alternative.toChar := by
  induction cs with
  | nil => rfl
  | cons c cs ih =>
      rw [List.countP_cons, List.count_cons, List.count_cons, ih]
      by_cases hmark : c = Operator.without.toChar
      · simp [isOperator, hmark, Operator.toChar]
        omega
      · simp [isOperator, hmark]
        omega

theorem operatorCount_append (text more : String) :
    operatorCount (text ++ more) = operatorCount text + operatorCount more := by
  simp only [operatorCount, String.toList_append, List.count_append]
  omega

theorem count_le_operatorCount (op : Operator) (text : String) :
    text.toList.count op.toChar ≤ operatorCount text := by
  cases op with
  | without => exact Nat.le_add_right _ _
  | alternative => exact Nat.le_add_left _ _

theorem not_mem_of_operatorCount {text : String} (h : operatorCount text = 0) (op : Operator) :
    op.toChar ∉ text.toList := by
  have hcount := count_le_operatorCount op text
  rw [← List.count_eq_zero]
  omega

theorem Operator.IsAtAnEnd.mem {op : Operator} {text : String} (h : op.IsAtAnEnd text) :
    op.toChar ∈ text.toList := by
  obtain ⟨rest, hstart | hend⟩ := h
  · simp [hstart]
  · simp [hend]

theorem atAnEnd_iff (op : Operator) (text : String) :
    op.atAnEnd text.toList = true ↔ op.IsAtAnEnd text := by
  rw [Operator.atAnEnd, Bool.or_eq_true, beq_iff_eq, beq_iff_eq, List.head?_eq_some_iff,
    List.getLast?_eq_some_iff, ← exists_or]
  rfl

theorem eq_of_mem_of_operatorCount {text : String} (hfew : operatorCount text < 2)
    {op other : Operator} (hop : op.toChar ∈ text.toList) (hother : other.toChar ∈ text.toList) :
    other = op := by
  have hmany (h₁ : Operator.without.toChar ∈ text.toList)
      (h₂ : Operator.alternative.toChar ∈ text.toList) : 2 ≤ operatorCount text := by
    have hwithout := List.count_pos_iff.mpr h₁
    have halternative := List.count_pos_iff.mpr h₂
    rw [operatorCount]
    omega
  cases op <;> cases other
  · rfl
  · have := hmany hop hother
    omega
  · have := hmany hother hop
    omega
  · rfl

/-! ## Terms -/

theorem operatorCount_of_terms {wanted unwanted : String} (hwanted : IsTerm wanted)
    (hunwanted : IsTerm unwanted) : operatorCount (wanted ++ "-" ++ unwanted) = 1 := by
  rw [operatorCount_append, operatorCount_append, hwanted.no_operator, hunwanted.no_operator]
  rfl

theorem not_isAtAnEnd_of_terms {wanted unwanted : String} (hwanted : IsTerm wanted)
    (hunwanted : IsTerm unwanted) (op : Operator) :
    ¬ op.IsAtAnEnd (wanted ++ "-" ++ unwanted) := by
  have htext : (wanted ++ "-" ++ unwanted).toList = wanted.toList ++ '-' :: unwanted.toList := by
    simp
  have hfront : wanted.toList ≠ [] := by simpa using hwanted.ne_empty
  have hback : unwanted.toList ≠ [] := by simpa using hunwanted.ne_empty
  rintro ⟨rest, hstart | hend⟩
  · have hhead := congrArg List.head? (htext.symm.trans hstart)
    rw [List.head?_append_of_ne_nil _ hfront, List.head?_cons] at hhead
    exact not_mem_of_operatorCount hwanted.no_operator op (List.mem_of_head? hhead)
  · have hlast := congrArg List.getLast? (htext.symm.trans hend)
    rw [List.append_cons, List.getLast?_append_of_ne_nil _ hback, List.getLast?_concat] at hlast
    exact not_mem_of_operatorCount hunwanted.no_operator op (List.mem_of_getLast? hlast)

theorem text_of_split {raw : String} {before after : List Char}
    (hraw : raw.toList = before ++ '-' :: after) :
    raw = String.ofList before ++ "-" ++ String.ofList after := by
  rw [← String.toList_inj, hraw]
  simp

/-- What stands before and after a `-` that is the only operator and not at an end. -/
theorem isTerm_of_split {raw : String} {before after : List Char}
    (hraw : raw.toList = before ++ '-' :: after) (hfew : operatorCount raw < 2)
    (hend : ¬ Operator.without.IsAtAnEnd raw) :
    IsTerm (String.ofList before) ∧ IsTerm (String.ofList after) := by
  have hcount : operatorCount raw =
      operatorCount (String.ofList before) + 1 + operatorCount (String.ofList after) := by
    rw [text_of_split hraw, operatorCount_append, operatorCount_append]
    rfl
  have hbefore : before ≠ [] := by
    rintro rfl
    exact hend ⟨after, .inl hraw⟩
  have hafter : after ≠ [] := by
    rintro rfl
    exact hend ⟨before, .inr hraw⟩
  exact ⟨⟨by simpa using hbefore, by omega⟩, ⟨by simpa using hafter, by omega⟩⟩

/-! ## Splitting -/

theorem splitExpression_of_not_mem {cs : List Char} (h : '-' ∉ cs) :
    splitExpression cs = .plain (String.ofList cs) := by
  have hnone : cs.dropWhile (· != '-') = [] :=
    List.dropWhile_eq_nil_iff.mpr (Text.forall_mem_bne h)
  rw [splitExpression, hnone]

theorem splitExpression_append {before : List Char} (h : '-' ∉ before) (after : List Char) :
    splitExpression (before ++ '-' :: after) =
      .excluding (String.ofList before) (String.ofList after) := by
  obtain ⟨htake, hdrop⟩ := Text.span_bne_append h after
  rw [splitExpression, hdrop, htake]

/-! ## Reading, rule by rule -/

theorem isDisallowed_iff (c : Char) : isDisallowed c = true ↔ c ∈ disallowedCharacters := by
  rw [isDisallowed, List.contains_iff_mem]

theorem isBlankText_iff (text : String) :
    Text.isBlankText text.toList = true ↔ IsBlank text := by
  rw [Text.isBlankText, List.all_eq_true, IsBlank]

theorem parse_of_blank {raw : String} (h : IsBlank raw) :
    Expression.parse raw = .error .blank := by
  simp only [Expression.parse, if_pos ((isBlankText_iff raw).mpr h)]

theorem parse_of_disallowed {raw : String} {before after : List Char} {c : Char}
    (hwritten : ¬ IsBlank raw) (hraw : raw.toList = before ++ c :: after)
    (hc : c ∈ disallowedCharacters) (hbefore : ∀ d ∈ before, d ∉ disallowedCharacters) :
    Expression.parse raw = .error (.disallowedCharacter c) := by
  have hfind : raw.toList.find? isDisallowed = some c := by
    rw [List.find?_eq_some_iff_append]
    refine ⟨(isDisallowed_iff c).mpr hc, before, after, hraw, ?_⟩
    intro d hd
    rw [Bool.not_eq_true', Bool.eq_false_iff, ne_eq, isDisallowed_iff]
    exact hbefore d hd
  simp only [Expression.parse, if_neg (mt (isBlankText_iff raw).mp hwritten), hfind]

/-- Of a text that keeps the first two rules the operators decide. -/
theorem parse_of_wording {raw : String} (h : IsWording raw) :
    Expression.parse raw =
      if 2 ≤ operatorCount raw then .error (.tooManyOperators (operatorCount raw))
      else if Operator.alternative.atAnEnd raw.toList then
        .error (.misplacedOperator .alternative)
      else if Operator.without.atAnEnd raw.toList then .error (.misplacedOperator .without)
      else .ok (splitExpression raw.toList) := by
  have hfind : raw.toList.find? isDisallowed = none := by
    rw [List.find?_eq_none]
    intro c hc
    rw [isDisallowed_iff]
    exact h.allowed c hc
  simp only [Expression.parse, if_neg (mt (isBlankText_iff raw).mp h.not_blank), hfind,
    countP_isOperator]
  rfl

theorem parse_of_inside {raw : String} (h : IsWording raw) (hfew : operatorCount raw < 2)
    (hend : ∀ op : Operator, ¬ op.IsAtAnEnd raw) :
    Expression.parse raw = .ok (splitExpression raw.toList) := by
  have hnone (op : Operator) : ¬ op.atAnEnd raw.toList = true := mt (atAnEnd_iff op raw).mp (hend op)
  rw [parse_of_wording h, if_neg (Nat.not_le.mpr hfew), if_neg (hnone .alternative),
    if_neg (hnone .without)]

/-! ## The verdict -/

theorem Verdict.parse_eq {raw : String} {result : Except QueryError Expression}
    (h : Verdict raw result) : Expression.parse raw = result := by
  cases h with
  | blank h => exact parse_of_blank h
  | disallowed hwritten hraw hc hbefore => exact parse_of_disallowed hwritten hraw hc hbefore
  | crowded hwording hmany => rw [parse_of_wording hwording, if_pos hmany]
  | misplaced op hwording hfew hend =>
      rw [parse_of_wording hwording, if_neg (Nat.not_le.mpr hfew)]
      cases op with
      | alternative => rw [if_pos ((atAnEnd_iff .alternative raw).mpr hend)]
      | without =>
          have hother : ¬ Operator.alternative.atAnEnd raw.toList = true := by
            rw [atAnEnd_iff]
            intro halternative
            cases eq_of_mem_of_operatorCount hfew hend.mem halternative.mem
          rw [if_neg hother, if_pos ((atAnEnd_iff .without raw).mpr hend)]
  | @excluding wanted unwanted hwording hwanted hunwanted hraw =>
      have hfew : operatorCount raw < 2 := by
        rw [← hraw, operatorCount_of_terms hwanted hunwanted]
        decide
      have hend (op : Operator) : ¬ op.IsAtAnEnd raw := by
        rw [← hraw]
        exact not_isAtAnEnd_of_terms hwanted hunwanted op
      have htext : raw.toList = wanted.toList ++ '-' :: unwanted.toList := by simp [← hraw]
      have hfront : '-' ∉ wanted.toList := not_mem_of_operatorCount hwanted.no_operator .without
      rw [parse_of_inside hwording hfew hend, htext, splitExpression_append hfront,
        String.ofList_toList, String.ofList_toList]
  | plain hwording hfew hend hmark =>
      rw [parse_of_inside hwording hfew hend, splitExpression_of_not_mem hmark,
        String.ofList_toList]

theorem exists_verdict (raw : String) : ∃ result, Verdict raw result := by
  by_cases hblank : IsBlank raw
  · exact ⟨_, .blank hblank⟩
  cases hfind : raw.toList.find? isDisallowed with
  | some c =>
      obtain ⟨hc, before, after, hraw, hbefore⟩ := List.find?_eq_some_iff_append.mp hfind
      refine ⟨_, .disallowed hblank hraw ((isDisallowed_iff c).mp hc) ?_⟩
      intro d hd
      rw [← isDisallowed_iff]
      simpa using hbefore d hd
  | none =>
      have hwording : IsWording raw := by
        refine ⟨hblank, ?_⟩
        intro c hc
        rw [← isDisallowed_iff]
        exact List.find?_eq_none.mp hfind c hc
      by_cases hmany : 2 ≤ operatorCount raw
      · exact ⟨_, .crowded hwording hmany⟩
      have hfew : operatorCount raw < 2 := Nat.not_le.mp hmany
      by_cases hend : ∃ op : Operator, op.IsAtAnEnd raw
      · obtain ⟨op, hend⟩ := hend
        exact ⟨_, .misplaced op hwording hfew hend⟩
      have hinside : ∀ op : Operator, ¬ op.IsAtAnEnd raw := not_exists.mp hend
      by_cases hmark : '-' ∈ raw.toList
      · obtain ⟨before, after, hraw⟩ := List.append_of_mem hmark
        obtain ⟨hwanted, hunwanted⟩ := isTerm_of_split hraw hfew (hinside .without)
        exact ⟨_, .excluding hwording hwanted hunwanted (text_of_split hraw).symm⟩
      · exact ⟨_, .plain hwording hfew hinside hmark⟩

theorem verdict_parse (raw : String) : Verdict raw (Expression.parse raw) := by
  obtain ⟨result, hverdict⟩ := exists_verdict raw
  rw [hverdict.parse_eq]
  exact hverdict

/-- Nothing that a keyword may not hold comes into the term of an accepted one. -/
theorem not_mem_searchTerm {raw : String} {expression : Expression}
    (h : Expression.parse raw = .ok expression) {c : Char} (hc : c ∈ disallowedCharacters) :
    c ∉ expression.searchTerm.toList := by
  have hverdict := verdict_parse raw
  rw [h] at hverdict
  intro hmem
  cases hverdict with
  | excluding hwording hwanted hunwanted hraw =>
      refine hwording.allowed c ?_ hc
      rw [← hraw, String.toList_append, String.toList_append]
      exact List.mem_append_left _ (List.mem_append_left _ hmem)
  | plain hwording hfew hend hmark => exact hwording.allowed c hmem hc

/-- A keyword is read as the verdict on it says and not otherwise: each keyword has one verdict. What
is accepted is an exclusion if and only if the keyword has a `-`; of an operator at an end it is
clear which one is meant; and there are no other errors than those of the four rules. -/
theorem parse_eq_iff_verdict (raw : String) :
    (∀ result, Expression.parse raw = result ↔ Verdict raw result) ∧
    (∀ expression, Expression.parse raw = .ok expression →
      ((∃ wanted unwanted, expression = .excluding wanted unwanted) ↔ '-' ∈ raw.toList)) ∧
    (∀ op, Expression.parse raw = .error (.misplacedOperator op) →
      ∀ other : Operator, other.IsAtAnEnd raw → other = op) ∧
    ∀ error, Expression.parse raw = .error error →
      error = .blank ∨ (∃ c, error = .disallowedCharacter c) ∨
        (∃ count, error = .tooManyOperators count) ∨ ∃ op, error = .misplacedOperator op := by
  have hverdict : ∀ result, Expression.parse raw = result ↔ Verdict raw result :=
    fun result => ⟨fun h => h ▸ verdict_parse raw, Verdict.parse_eq⟩
  refine ⟨hverdict, ?_, ?_, ?_⟩
  · intro expression hparse
    cases (hverdict _).mp hparse with
    | excluding hwording hwanted hunwanted hraw => simp [← hraw]
    | plain hwording hfew hend hmark => simpa using hmark
  · intro op hparse other hother
    cases (hverdict _).mp hparse with
    | misplaced op hwording hfew hend =>
        exact eq_of_mem_of_operatorCount hfew hend.mem hother.mem
  · intro error hparse
    cases (hverdict _).mp hparse with
    | blank h => exact .inl rfl
    | @disallowed before after c hwritten hraw hc hbefore => exact .inr (.inl ⟨c, rfl⟩)
    | crowded hwording hmany => exact .inr (.inr (.inl ⟨_, rfl⟩))
    | misplaced op hwording hfew hend => exact .inr (.inr (.inr ⟨op, rfl⟩))

end BookFinder.Query
