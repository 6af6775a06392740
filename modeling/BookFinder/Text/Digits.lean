import BookFinder.Text.Blank

/-! # Natural numbers in decimal digits -/

namespace BookFinder.Text

/-- Reads a non-empty run of ASCII digits; leading zeros are allowed. -/
def readNat (cs : List Char) : Option Nat :=
  if cs ≠ [] ∧ cs.all Char.isDigit then some (Nat.ofDigitChars 10 cs 0) else none

def readNatPlus : List Char → Option Nat
  | '+' :: cs => readNat cs
  | cs => readNat cs

/-- A number with a digit added at its end, as long as it stays below `bound`. -/
def pushDigit (bound n : Nat) (c : Char) : Option Nat :=
  let next := 10 * n + (c.toNat - '0'.toNat)
  if c.isDigit ∧ next < bound then some next else none

/-- Reads a non-empty run of digits, and gives up at the digit that takes the number to `bound`. -/
def readDigitsBelow (bound : Nat) (cs : List Char) : Option Nat :=
  if cs.isEmpty then none else cs.foldlM (pushDigit bound) 0

def readBelow (bound : Nat) : List Char → Option Nat
  | '+' :: cs => readDigitsBelow bound cs
  | cs => readDigitsBelow bound cs

def renderNat (n : Nat) : List Char := Nat.toDigits 10 n

def IsDigits (cs : List Char) : Prop := cs ≠ [] ∧ ∀ c ∈ cs, c.isDigit = true

theorem readNat_eq_some_iff {cs : List Char} {n : Nat} :
    readNat cs = some n ↔ IsDigits cs ∧ Nat.ofDigitChars 10 cs 0 = n := by
  rw [readNat, Option.ite_none_right_eq_some, Option.some.injEq, List.all_eq_true]
  rfl

theorem pushDigit_eq_some_iff {bound n m : Nat} {c : Char} :
    pushDigit bound n c = some m ↔
      c.isDigit = true ∧ 10 * n + (c.toNat - '0'.toNat) = m ∧ m < bound := by
  rw [pushDigit, Option.ite_none_right_eq_some, Option.some.injEq]
  constructor
  · rintro ⟨⟨hdigit, hlt⟩, rfl⟩
    exact ⟨hdigit, rfl, hlt⟩
  · rintro ⟨hdigit, rfl, hlt⟩
    exact ⟨⟨hdigit, hlt⟩, rfl⟩

theorem le_ofDigitChars (cs : List Char) (n : Nat) : n ≤ Nat.ofDigitChars 10 cs n := by
  induction cs generalizing n with
  | nil => exact Nat.le_refl n
  | cons c cs ih =>
      rw [Nat.ofDigitChars_cons]
      have hrest := ih (10 * n + (c.toNat - '0'.toNat))
      omega

/-- Checking the number at each digit is as good as checking it once at the end. -/
theorem foldlM_pushDigit_eq_some_iff {bound n m : Nat} {cs : List Char} (h : n < bound) :
    cs.foldlM (pushDigit bound) n = some m ↔
      (∀ c ∈ cs, c.isDigit = true) ∧ Nat.ofDigitChars 10 cs n = m ∧ m < bound := by
  induction cs generalizing n with
  | nil =>
      rw [List.foldlM_nil, Nat.ofDigitChars_nil]
      constructor
      · intro hm
        obtain rfl := Option.some.inj hm
        exact ⟨by simp, rfl, h⟩
      · rintro ⟨-, rfl, -⟩
        rfl
  | cons c cs ih =>
      rw [List.foldlM_cons, Option.bind_eq_bind, Option.bind_eq_some_iff, Nat.ofDigitChars_cons,
        List.forall_mem_cons]
      constructor
      · rintro ⟨next, hnext, hrest⟩
        obtain ⟨hdigit, rfl, hlt⟩ := pushDigit_eq_some_iff.mp hnext
        obtain ⟨hdigits, hvalue⟩ := (ih hlt).mp hrest
        exact ⟨⟨hdigit, hdigits⟩, hvalue⟩
      · rintro ⟨⟨hdigit, hdigits⟩, hvalue, hm⟩
        -- the number so far is at most the whole, so that it is below the bound as well
        have hlt := Nat.lt_of_le_of_lt (le_ofDigitChars cs _) (hvalue ▸ hm)
        exact ⟨_, pushDigit_eq_some_iff.mpr ⟨hdigit, rfl, hlt⟩, (ih hlt).mpr ⟨hdigits, hvalue, hm⟩⟩

theorem readDigitsBelow_eq_some_iff {bound n : Nat} {cs : List Char} (h : 0 < bound) :
    readDigitsBelow bound cs = some n ↔
      n < bound ∧ IsDigits cs ∧ Nat.ofDigitChars 10 cs 0 = n := by
  rw [readDigitsBelow, Option.ite_none_left_eq_some, foldlM_pushDigit_eq_some_iff h, IsDigits,
    List.isEmpty_iff, ← and_assoc, ← and_assoc, and_comm]

theorem readBelow_of_digits {bound : Nat} {cs : List Char} (h : ∀ c ∈ cs, c.isDigit = true) :
    readBelow bound cs = readDigitsBelow bound cs := by
  rw [readBelow]
  rintro rest rfl
  exact absurd (h '+' List.mem_cons_self) (by decide)

/-- What is read is a number below the bound in digits, with a plus sign in front or without. -/
theorem readBelow_eq_some_iff {bound n : Nat} {cs : List Char} (h : 0 < bound) :
    readBelow bound cs = some n ↔
      n < bound ∧ ∃ sign digits, cs = sign ++ digits ∧ (sign = [] ∨ sign = ['+']) ∧
        IsDigits digits ∧ Nat.ofDigitChars 10 digits 0 = n := by
  constructor
  · intro hread
    rw [readBelow.eq_def] at hread
    split at hread
    · obtain ⟨hlt, hnumber⟩ := (readDigitsBelow_eq_some_iff h).mp hread
      exact ⟨hlt, ['+'], _, rfl, .inr rfl, hnumber⟩
    · obtain ⟨hlt, hnumber⟩ := (readDigitsBelow_eq_some_iff h).mp hread
      exact ⟨hlt, [], cs, rfl, .inl rfl, hnumber⟩
  · rintro ⟨hlt, sign, digits, rfl, rfl | rfl, hnumber⟩
    · rw [List.nil_append, readBelow_of_digits hnumber.1.2]
      exact (readDigitsBelow_eq_some_iff h).mpr ⟨hlt, hnumber⟩
    · exact (readDigitsBelow_eq_some_iff h).mpr ⟨hlt, hnumber⟩

theorem renderNat_ne_nil (n : Nat) : renderNat n ≠ [] := Nat.toDigits_ne_nil

theorem isDigit_of_mem_renderNat {n : Nat} {c : Char} (h : c ∈ renderNat n) : c.isDigit = true :=
  Nat.isDigit_of_mem_toDigits (by decide) (by decide) h

theorem ne_of_isDigit {c d : Char} (hc : c.isDigit = true) (hd : d.isDigit = false) : c ≠ d := by
  rintro rfl
  simp [hc] at hd

theorem readNat_renderNat (n : Nat) : readNat (renderNat n) = some n := by
  have hd : ∀ c ∈ Nat.toDigits 10 n, c.isDigit := fun c hc => isDigit_of_mem_renderNat hc
  rw [renderNat, readNat, if_pos ⟨Nat.toDigits_ne_nil, List.all_eq_true.2 hd⟩,
    Nat.ofDigitChars_toDigits (by decide) (by decide)]

theorem renderNat_inj {m n : Nat} (h : renderNat m = renderNat n) : m = n := by
  have hread := readNat_renderNat m
  rw [h, readNat_renderNat] at hread
  exact (Option.some.inj hread).symm

theorem zeros_renderNat (zeros n : Nat) :
    IsDigits (List.replicate zeros '0' ++ renderNat n) ∧
      Nat.ofDigitChars 10 (List.replicate zeros '0' ++ renderNat n) 0 = n := by
  refine ⟨⟨by simp [renderNat_ne_nil], ?_⟩, ?_⟩
  · intro c hc
    rcases List.mem_append.mp hc with hc | hc
    · rw [(List.mem_replicate.mp hc).2]
      rfl
    · exact isDigit_of_mem_renderNat hc
  · rw [Nat.ofDigitChars_append, Nat.ofDigitChars_replicate_zero, Nat.mul_zero, renderNat,
      Nat.ofDigitChars_ten_toDigits]

/-! ## White space around numbers -/

theorem not_isBlank_of_isDigit {c : Char} (h : c.isDigit = true) : isBlank c = false := by
  obtain ⟨hlow, hhigh⟩ : 48 ≤ c.toNat ∧ c.toNat ≤ 57 := Char.isDigit_iff_toNat.mp h
  have hno : ¬ isBlank c = true := by
    simp only [isBlank, Bool.or_eq_true, Bool.and_eq_true, decide_eq_true_eq, beq_iff_eq]
    omega
  simpa using hno

/-- Neither a sign nor a digit is trimmed. -/
theorem trim_signed {before sign digits after : List Char}
    (hbefore : ∀ c ∈ before, isBlank c = true) (hsign : sign = [] ∨ sign = ['+'])
    (h : IsDigits digits) (hafter : ∀ c ∈ after, isBlank c = true) :
    trim (before ++ (sign ++ digits) ++ after) = sign ++ digits := by
  have hvisible : ∀ c ∈ sign ++ digits, isBlank c = false := by
    intro c hc
    rcases List.mem_append.mp hc with hc | hc
    · rcases hsign with rfl | rfl
      · cases hc
      · obtain rfl := List.mem_singleton.mp hc
        decide
    · exact not_isBlank_of_isDigit (h.2 c hc)
  exact trim_append hbefore hafter (fun c hc => hvisible c (List.mem_of_mem_head? hc))
    (fun c hc => hvisible c (List.mem_of_mem_getLast? hc))

end BookFinder.Text
