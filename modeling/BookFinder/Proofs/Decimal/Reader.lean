import BookFinder.Decimal.Reader
import BookFinder.Proofs.Decimal.Rounding
import BookFinder.Text.Split
import Mathlib.Data.List.TakeWhile

/-! # Decimal numbers

Which texts are decimal numbers, and which number each of them is. A text is read as the binary
number that it rounds to. -/

namespace BookFinder.Binary64

/-! ## From decimals to the nearest binary numbers -/

theorem one_pos : (0 : ℚ) < one := by
  have hpos : 0 < one := by decide +kernel
  exact_mod_cast hpos

theorem ofFraction_eq_finite_iff {negative sign : Bool} {num den units : ℕ} (hden : 0 < den) :
    ofFraction negative num den = finite sign units ↔
      sign = negative ∧ RoundsTo ((num : ℚ) / den * one) units ∧ units < limit := by
  have hscale : (num : ℚ) / den * one = ((num * one : ℕ) : ℚ) / den := by
    rw [Nat.cast_mul, div_mul_eq_mul_div]
  have hround := roundsTo_divideToNearest (num * one) hden
  rw [← hscale] at hround
  simp only [ofFraction, Nat.pow_eq]
  generalize divideToNearest _ _ * _ = rounded at hround ⊢
  constructor
  · intro h
    split at h
    · rename_i hlt
      obtain ⟨rfl, rfl⟩ := finite.inj h
      exact ⟨rfl, hround, hlt⟩
    · cases h
  · rintro ⟨rfl, hunits, hlt⟩
    obtain rfl := hround.unique hunits
    rw [if_pos hlt]

theorem digits_bounds {digits : ℕ} (h : digits ≠ 0) (exponent : ℤ) :
    (10 : ℚ) ^ (((Nat.toDigits 10 digits).length : ℤ) + exponent - 1) ≤ digits * 10 ^ exponent ∧
      (digits : ℚ) * 10 ^ exponent < 10 ^ (((Nat.toDigits 10 digits).length : ℤ) + exponent) := by
  have hlength : 0 < (Nat.toDigits 10 digits).length := Nat.length_toDigits_pos
  obtain ⟨n, hn⟩ := Nat.exists_eq_succ_of_ne_zero hlength.ne'
  have hhigh : digits < 10 ^ (n + 1) :=
    (Nat.length_toDigits_le_iff (by decide) (Nat.succ_pos n)).mp hn.le
  have hlow : 10 ^ n ≤ digits := by
    by_contra hlt
    rcases Nat.eq_zero_or_pos n with rfl | hpos
    · omega
    · have hle := (Nat.length_toDigits_le_iff (by decide) hpos).mpr (not_le.mp hlt)
      omega
  have hten : (0 : ℚ) < 10 ^ exponent := zpow_pos (by norm_num) exponent
  have hsplit (m : ℕ) : (10 : ℚ) ^ ((m : ℤ) + exponent) = 10 ^ m * 10 ^ exponent := by
    rw [zpow_add₀ (by norm_num), zpow_natCast]
  have hsucc : ((n.succ : ℕ) : ℤ) + exponent - 1 = n + exponent := by
    push_cast
    ring
  rw [hn, hsucc, hsplit, hsplit]
  constructor
  · exact mul_le_mul_of_nonneg_right (by exact_mod_cast hlow) hten.le
  · exact mul_lt_mul_of_pos_right (by exact_mod_cast hhigh) hten

/-- Whatever is less than `10 ^ -400` rounds to zero. -/
theorem roundsTo_of_tiny {digits : ℕ} {exponent : ℤ}
    (h : digits = 0 ∨ ((Nat.toDigits 10 digits).length : ℤ) + exponent < -400) :
    RoundsTo ((digits : ℚ) * 10 ^ exponent * one) 0 := by
  by_cases hdigits : digits = 0
  · rw [hdigits, Nat.cast_zero, zero_mul, zero_mul]
    exact roundsTo_zero le_rfl (by norm_num)
  have hmagnitude := h.resolve_left hdigits
  have hbound : (digits : ℚ) * 10 ^ exponent < (10 ^ 401)⁻¹ := by
    refine (digits_bounds hdigits exponent).2.trans_le ?_
    rw [← zpow_natCast, ← zpow_neg]
    exact zpow_le_zpow_right₀ (by norm_num) (by push_cast; omega)
  have htiny : (one : ℚ) * 2 < 10 ^ 401 := by
    have hnat : one * 2 < 10 ^ 401 := by decide +kernel
    exact_mod_cast hnat
  have hten : (0 : ℚ) < 10 ^ exponent := zpow_pos (by norm_num) exponent
  refine roundsTo_zero (mul_nonneg (mul_nonneg (Nat.cast_nonneg _) hten.le) one_pos.le) ?_
  calc (digits : ℚ) * 10 ^ exponent * one < (10 ^ 401)⁻¹ * one :=
        mul_lt_mul_of_pos_right hbound one_pos
    _ < 1 / 2 := by
        rw [inv_mul_eq_div, div_lt_div_iff₀ (pow_pos (by norm_num) 401) two_pos, one_mul]
        exact htiny

/-- Whatever is `10 ^ 400` or more rounds to no finite number. -/
theorem RoundsTo.limit_le {digits units : ℕ} {exponent : ℤ} (hdigits : digits ≠ 0)
    (hlarge : 400 < ((Nat.toDigits 10 digits).length : ℤ) + exponent)
    (h : RoundsTo ((digits : ℚ) * 10 ^ exponent * one) units) : limit ≤ units := by
  have hcanonical : IsCanonical (2 ^ 52) 2046 := ⟨by norm_num, .inr le_rfl⟩
  have hpower : 2 ^ 52 * 2 ^ 2046 = limit := by decide +kernel
  have hhuge : (limit : ℚ) ≤ 10 ^ 400 * one := by
    have hnat : limit ≤ 10 ^ 400 * one := by decide +kernel
    exact_mod_cast hnat
  have hbound : (10 : ℚ) ^ 400 ≤ digits * 10 ^ exponent := by
    refine le_trans ?_ (digits_bounds hdigits exponent).1
    rw [← zpow_natCast]
    exact zpow_le_zpow_right₀ (by norm_num) (by push_cast; omega)
  have hreach : ((2 ^ 52 * 2 ^ 2046 : ℕ) : ℚ) ≤ digits * 10 ^ exponent * one := by
    rw [hpower]
    exact hhuge.trans (mul_le_mul_of_nonneg_right hbound one_pos.le)
  exact hpower ▸ h.le_of_le hcanonical hreach

theorem ofDecimal_eq_finite_iff {negative sign : Bool} {digits units : ℕ} {exponent : ℤ} :
    ofDecimal negative digits exponent = finite sign units ↔
      sign = negative ∧ RoundsTo ((digits : ℚ) * 10 ^ exponent * one) units ∧ units < limit := by
  rw [ofDecimal]
  split
  · rename_i htiny
    have hzero := roundsTo_of_tiny htiny
    constructor
    · intro h
      obtain ⟨rfl, rfl⟩ := finite.inj h
      exact ⟨rfl, hzero, by decide +kernel⟩
    · rintro ⟨rfl, hunits, -⟩
      rw [hzero.unique hunits]
  split
  · rename_i hnonzero hlarge
    obtain ⟨hdigits, -⟩ := not_or.mp hnonzero
    refine ⟨nofun, ?_⟩
    rintro ⟨-, hunits, hlt⟩
    exact absurd hlt (not_lt.mpr (hunits.limit_le hdigits hlarge))
  split
  · rename_i hexponent
    obtain ⟨n, rfl⟩ := Int.eq_ofNat_of_zero_le hexponent
    rw [ofFraction_eq_finite_iff Nat.one_pos, Int.toNat_natCast, Nat.pow_eq, zpow_natCast,
      Nat.cast_one, div_one, Nat.cast_mul, Nat.cast_pow, Nat.cast_ofNat]
  · rename_i hexponent
    have hnegative : exponent = -(exponent.natAbs : ℤ) := by omega
    rw [Nat.pow_eq, ofFraction_eq_finite_iff (Nat.pow_pos (by decide))]
    generalize exponent.natAbs = n at hnegative ⊢
    subst hnegative
    rw [zpow_neg, zpow_natCast, div_eq_mul_inv, Nat.cast_pow, Nat.cast_ofNat]

/-! ## The texts of decimal numbers -/

/-- Digits with a point between them, before or after them, or without one; the number that they
make without the point; and how many of them stand after it. -/
inductive IsMantissa : List Char → ℕ → ℕ → Prop
  | whole {cs : List Char} (h : Text.IsDigits cs) : IsMantissa cs (Nat.ofDigitChars 10 cs 0) 0
  | point {whole places : List Char} (h : Text.IsDigits (whole ++ places)) :
      IsMantissa (whole ++ '.' :: places) (Nat.ofDigitChars 10 (whole ++ places) 0) places.length

inductive IsExponent : List Char → ℤ → Prop
  | none : IsExponent [] 0
  | positive {mark : Char} {sign digits : List Char} (hmark : mark = 'e' ∨ mark = 'E')
      (hsign : sign = [] ∨ sign = ['+']) (h : Text.IsDigits digits) :
      IsExponent (mark :: (sign ++ digits)) (Nat.ofDigitChars 10 digits 0)
  | negative {mark : Char} {digits : List Char} (hmark : mark = 'e' ∨ mark = 'E')
      (h : Text.IsDigits digits) :
      IsExponent (mark :: '-' :: digits) (-(Nat.ofDigitChars 10 digits 0 : ℤ))

inductive IsDecimal : List Char → ℚ → Prop
  | intro {mantissa exponent : List Char} {digits places : ℕ} {e : ℤ}
      (hmantissa : IsMantissa mantissa digits places) (hexponent : IsExponent exponent e) :
      IsDecimal (mantissa ++ exponent) (digits * 10 ^ (e - places))

theorem IsMantissa.isDigit_or_point {cs : List Char} {digits places : ℕ}
    (h : IsMantissa cs digits places) : ∀ c ∈ cs, c.isDigit = true ∨ c = '.' := by
  intro c hc
  cases h with
  | whole h => exact .inl (h.2 c hc)
  | @point whole places h =>
      rcases List.mem_append.mp hc with hc | hc
      · exact .inl (h.2 c (List.mem_append_left places hc))
      · rcases List.mem_cons.mp hc with rfl | hc
        · exact .inr rfl
        · exact .inl (h.2 c (List.mem_append_right whole hc))

theorem IsExponent.isDigit_or_mark {cs : List Char} {e : ℤ} (h : IsExponent cs e) :
    ∀ c ∈ cs, c.isDigit = true ∨ c ∈ ['e', 'E', '+', '-'] := by
  intro c hc
  cases h with
  | none => cases hc
  | @positive mark sign digits hmark hsign h =>
      simp only [List.mem_cons, List.mem_append] at hc ⊢
      rcases hc with rfl | hc | hc
      · tauto
      · rcases hsign with rfl | rfl <;> simp_all
      · exact .inl (h.2 c hc)
  | @negative mark digits hmark h =>
      simp only [List.mem_cons] at hc ⊢
      rcases hc with rfl | rfl | hc
      · tauto
      · tauto
      · exact .inl (h.2 c hc)

theorem readMantissa_eq_some_iff {cs : List Char} {digits places : ℕ} :
    readMantissa cs = some (digits, places) ↔ IsMantissa cs digits places := by
  constructor
  · intro h
    obtain ⟨n, hn, heq⟩ := Option.map_eq_some_iff.mp h
    obtain ⟨rfl, rfl⟩ := Prod.mk.inj heq
    have hsplit := List.takeWhile_append_dropWhile (p := (· != '.')) (l := cs)
    cases hrest : cs.dropWhile (· != '.') with
    | nil =>
        rw [hrest, List.append_nil] at hsplit
        rw [hrest, hsplit, List.drop_nil, List.append_nil, Text.readNat_eq_some_iff] at hn
        obtain ⟨hdigits, rfl⟩ := hn
        exact .whole hdigits
    | cons c rest =>
        have hc : c = '.' := by
          have hhead := List.head?_dropWhile_not (· != '.') cs
          simpa [hrest] using hhead
        rw [hrest, hc] at hsplit
        rw [hrest, List.drop_one, List.tail_cons, Text.readNat_eq_some_iff] at hn
        obtain ⟨hdigits, rfl⟩ := hn
        have hmantissa := IsMantissa.point hdigits
        rwa [hsplit] at hmantissa
  · intro h
    have hnone {whole : List Char} (hwhole : ∀ c ∈ whole, c.isDigit = true) : '.' ∉ whole :=
      fun hmem => absurd (hwhole '.' hmem) (by decide)
    cases h with
    | whole h =>
        have hno := Text.forall_mem_bne (hnone h.2)
        rw [readMantissa, List.takeWhile_eq_self_iff.mpr hno, List.dropWhile_eq_nil_iff.mpr hno,
          List.drop_nil, List.append_nil, Text.readNat_eq_some_iff.mpr ⟨h, rfl⟩]
        rfl
    | @point whole places h =>
        have hno := hnone fun c hc => h.2 c (List.mem_append_left places hc)
        obtain ⟨htake, hdrop⟩ := Text.span_bne_append hno places
        rw [readMantissa, htake, hdrop, List.drop_one, List.tail_cons,
          Text.readNat_eq_some_iff.mpr ⟨h, rfl⟩]
        rfl

theorem readExponent_eq_some_iff {cs : List Char} {mark : Char} {e : ℤ}
    (hmark : mark = 'e' ∨ mark = 'E') :
    readExponent cs = some e ↔ IsExponent (mark :: cs) e := by
  constructor
  · intro h
    rw [readExponent.eq_def] at h
    split at h
    · obtain ⟨n, hn, rfl⟩ := Option.map_eq_some_iff.mp h
      obtain ⟨hdigits, rfl⟩ := Text.readNat_eq_some_iff.mp hn
      exact .negative hmark hdigits
    · obtain ⟨n, hn, rfl⟩ := Option.map_eq_some_iff.mp h
      rw [Text.readNatPlus.eq_def] at hn
      split at hn
      · obtain ⟨hdigits, rfl⟩ := Text.readNat_eq_some_iff.mp hn
        exact @IsExponent.positive mark ['+'] _ hmark (.inr rfl) hdigits
      · obtain ⟨hdigits, rfl⟩ := Text.readNat_eq_some_iff.mp hn
        exact @IsExponent.positive mark [] _ hmark (.inl rfl) hdigits
  · intro h
    cases h with
    | @positive _ sign digits _ hsign h =>
        have hread := Text.readNat_eq_some_iff.mpr ⟨h, rfl⟩
        obtain ⟨d, rest, rfl⟩ := List.exists_cons_of_ne_nil h.1
        have hd : d.isDigit = true := h.2 d (by simp)
        rcases hsign with rfl | rfl
        · rw [List.nil_append, readExponent, Text.readNatPlus, hread, Option.map_some]
          · intro _ heq
            exact Text.ne_of_isDigit hd (by decide) (List.cons.inj heq).1
          · intro _ heq
            exact Text.ne_of_isDigit hd (by decide) (List.cons.inj heq).1
        · simp [readExponent, Text.readNatPlus, hread]
    | negative _ h => simp [readExponent, Text.readNat_eq_some_iff.mpr ⟨h, rfl⟩]

theorem IsMantissa.not_isExponentMark {cs : List Char} {digits places : ℕ}
    (h : IsMantissa cs digits places) : ∀ c ∈ cs, (!isExponentMark c) = true := by
  intro c hc
  rcases h.isDigit_or_point c hc with hdigit | rfl
  · have he := Text.ne_of_isDigit (d := 'e') hdigit (by decide)
    have hE := Text.ne_of_isDigit (d := 'E') hdigit (by decide)
    simp [isExponentMark, he, hE]
  · decide

theorem readMarked_eq_some_iff {cs : List Char} {e : ℤ}
    (hmark : ∀ mark ∈ cs.head?, mark = 'e' ∨ mark = 'E') :
    readMarked cs = some e ↔ IsExponent cs e := by
  cases cs with
  | nil =>
      constructor
      · intro h
        obtain rfl := Option.some.inj h
        exact .none
      · rintro ⟨⟩
        rfl
  | cons mark cs => exact readExponent_eq_some_iff (hmark mark rfl)

theorem readUnsigned_eq_some_iff {negative : Bool} {cs : List Char} {value : Binary64} :
    readUnsigned negative cs = some value ↔
      ∃ mantissa exponent digits places e, cs = mantissa ++ exponent ∧
        IsMantissa mantissa digits places ∧ IsExponent exponent e ∧
        ofDecimal negative digits (e - places) = value := by
  constructor
  · intro h
    simp only [readUnsigned, Option.bind_eq_bind, Option.bind_eq_some_iff, Prod.exists,
      readMantissa_eq_some_iff, Option.some.injEq] at h
    obtain ⟨digits, places, hmantissa, e, hexponent, rfl⟩ := h
    have hmark : ∀ mark ∈ (cs.dropWhile (!isExponentMark ·)).head?, mark = 'e' ∨ mark = 'E' := by
      intro mark hhead
      have hnot := List.head?_dropWhile_not (!isExponentMark ·) cs
      rw [Option.mem_def.mp hhead] at hnot
      simpa [isExponentMark, or_iff_not_imp_left] using hnot
    exact ⟨_, _, digits, places, e, List.takeWhile_append_dropWhile.symm, hmantissa,
      (readMarked_eq_some_iff hmark).mp hexponent, rfl⟩
  · rintro ⟨mantissa, exponent, digits, places, e, rfl, hmantissa, hexponent, rfl⟩
    have hno := hmantissa.not_isExponentMark
    have hmark : ∀ mark ∈ exponent.head?, mark = 'e' ∨ mark = 'E' := by
      intro mark hhead
      cases hexponent with
      | none => cases hhead
      | positive hmark => exact Option.some.inj hhead ▸ hmark
      | negative hmark => exact Option.some.inj hhead ▸ hmark
    have hends : ∀ mark ∈ exponent.head?, (!isExponentMark mark) = false := by
      intro mark hhead
      rcases hmark mark hhead with rfl | rfl <;> rfl
    have hspan := Text.span_append hno hends
    simp only [readUnsigned, hspan, readMantissa_eq_some_iff.mpr hmantissa, Option.bind_eq_bind,
      Option.bind_some, (readMarked_eq_some_iff hmark).mpr hexponent]

/-- A text is read as a finite number exactly if it is a decimal number that rounds to it. -/
theorem readUnsigned_eq_finite_iff {negative sign : Bool} {cs : List Char} {units : ℕ} :
    readUnsigned negative cs = some (finite sign units) ↔
      sign = negative ∧ ∃ q, IsDecimal cs q ∧ RoundsTo (q * one) units ∧ units < limit := by
  rw [readUnsigned_eq_some_iff]
  constructor
  · rintro ⟨mantissa, exponent, digits, places, e, rfl, hmantissa, hexponent, hvalue⟩
    obtain ⟨rfl, hround, hlt⟩ := ofDecimal_eq_finite_iff.mp hvalue
    exact ⟨rfl, _, .intro hmantissa hexponent, hround, hlt⟩
  · rintro ⟨rfl, _, ⟨hmantissa, hexponent⟩, hround, hlt⟩
    exact ⟨_, _, _, _, _, rfl, hmantissa, hexponent,
      ofDecimal_eq_finite_iff.mpr ⟨rfl, hround, hlt⟩⟩

/-! ## Words -/

/-- Nothing in a decimal number is the letter that all words for other numbers have. -/
theorem IsDecimal.toLower_ne {cs : List Char} {q : ℚ} (h : IsDecimal cs q) :
    ∀ c ∈ cs, c.toLower ≠ 'n' := by
  have hdigit {c : Char} (hc : c.isDigit = true) : c.toLower ≠ 'n' := by
    have hlower : c.toLower = c := by
      simp only [Char.isDigit, Bool.and_eq_true, decide_eq_true_eq] at hc
      exact dif_neg fun hupper =>
        absurd (UInt32.le_trans hupper.1 hc.2) (show ¬ 'A'.val ≤ '9'.val by decide)
    rw [hlower]
    exact Text.ne_of_isDigit hc (by decide)
  obtain ⟨hmantissa, hexponent⟩ := h
  intro c hc
  rcases List.mem_append.mp hc with hc | hc
  · rcases hmantissa.isDigit_or_point c hc with hc | rfl
    · exact hdigit hc
    · decide
  · rcases hexponent.isDigit_or_mark c hc with hc | hc
    · exact hdigit hc
    · simp only [List.mem_cons, List.not_mem_nil, or_false] at hc
      rcases hc with rfl | rfl | rfl | rfl <;> decide

theorem IsDecimal.head_ne {cs : List Char} {q : ℚ} (h : IsDecimal cs q) :
    ∀ c ∈ cs.head?, c ≠ '+' ∧ c ≠ '-' := by
  have hdigit {c : Char} (hc : c.isDigit = true) : c ≠ '+' ∧ c ≠ '-' :=
    ⟨Text.ne_of_isDigit hc (by decide), Text.ne_of_isDigit hc (by decide)⟩
  obtain ⟨hmantissa, -⟩ := h
  intro c hc
  cases hmantissa with
  | whole h =>
      obtain ⟨d, rest, rfl⟩ := List.exists_cons_of_ne_nil h.1
      obtain rfl := Option.some.inj hc
      exact hdigit (h.2 d List.mem_cons_self)
  | @point whole places h =>
      cases whole with
      | nil =>
          obtain rfl := Option.some.inj hc
          decide
      | cons d rest =>
          obtain rfl := Option.some.inj hc
          exact hdigit (h.2 d List.mem_cons_self)

theorem readMagnitude_eq_finite_iff {negative sign : Bool} {cs : List Char} {units : ℕ} :
    readMagnitude negative cs = some (finite sign units) ↔
      sign = negative ∧ ∃ q, IsDecimal cs q ∧ RoundsTo (q * one) units ∧ units < limit := by
  rw [← readUnsigned_eq_finite_iff, readMagnitude.eq_def]
  constructor
  · intro h
    split at h
    · cases h
    · cases h
    · cases h
    · exact h
  · intro h
    obtain ⟨-, q, hdecimal, -⟩ := readUnsigned_eq_finite_iff.mp h
    have hword {word : String} (heq : String.ofList (cs.map Char.toLower) = word) :
        'n' ∉ word.toList := by
      rw [← heq, String.toList_ofList, List.mem_map]
      rintro ⟨c, hc, hlower⟩
      exact hdecimal.toLower_ne c hc hlower
    split
    · rename_i heq
      exact absurd (show 'n' ∈ "inf".toList by decide) (hword heq)
    · rename_i heq
      exact absurd (show 'n' ∈ "infinity".toList by decide) (hword heq)
    · rename_i heq
      exact absurd (show 'n' ∈ "nan".toList by decide) (hword heq)
    · exact h

end BookFinder.Binary64
