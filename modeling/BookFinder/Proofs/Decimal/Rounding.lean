import BookFinder.Decimal.Binary64
import Mathlib.Algebra.Order.Field.Basic
import Mathlib.Algebra.Order.Field.Rat
import Mathlib.Data.Rat.Cast.Order
import Mathlib.Tactic.FieldSimp
import Mathlib.Tactic.Linarith
import Mathlib.Tactic.Positivity
import Mathlib.Tactic.Ring

/-! # Rounding to binary numbers

A fraction is rounded to the nearest number of 53 significant bits, and of two that are equally near
to the one whose last bit is 0. There is one such number for each fraction, and it is the one that
the arithmetic on natural numbers finds. -/

namespace BookFinder.Binary64

/-- The significant bits of a number of units and the power of two that they are multiplied by:
there are 53 of them, unless the power is the least. -/
structure IsCanonical (significand power : ℕ) : Prop where
  bits : significand < 2 ^ 53
  normal : power = 0 ∨ 2 ^ 52 ≤ significand

/-- These units are the nearest to `x` that 53 significant bits can make, to even. -/
def RoundsTo (x : ℚ) (units : ℕ) : Prop :=
  ∃ significand power, IsCanonical significand power ∧ significand * 2 ^ power = units ∧
    ∀ m k, IsCanonical m k →
      |(units : ℚ) - x| ≤ |((m * 2 ^ k : ℕ) : ℚ) - x| ∧
        (|(units : ℚ) - x| = |((m * 2 ^ k : ℕ) : ℚ) - x| → m * 2 ^ k = units ∨ Even significand)

/-! ## Division to the nearest -/

/-- Half a unit away at most, and then even. -/
structure IsNearestInt (y : ℚ) (n : ℕ) : Prop where
  near : |(n : ℚ) - y| ≤ 1 / 2
  even : |(n : ℚ) - y| = 1 / 2 → Even n

theorem IsNearestInt.le_distance {y : ℚ} {n : ℕ} (h : IsNearestInt y n) (j : ℕ) :
    |(n : ℚ) - y| ≤ |(j : ℚ) - y| ∧ (|(n : ℚ) - y| = |(j : ℚ) - y| → j = n ∨ Even n) := by
  by_cases hj : j = n
  · subst hj
    exact ⟨le_rfl, fun _ => .inl rfl⟩
  have hapart : (1 : ℚ) ≤ |(j : ℚ) - n| := by
    have hint : (1 : ℤ) ≤ |(j : ℤ) - n| := Int.one_le_abs (by omega)
    exact_mod_cast hint
  have htriangle : |(j : ℚ) - n| ≤ |(j : ℚ) - y| + |(n : ℚ) - y| := by
    have habs := abs_sub_le (j : ℚ) y n
    rwa [abs_sub_comm y] at habs
  have hnear := h.near
  refine ⟨by linarith, fun heq => .inr (h.even ?_)⟩
  linarith

theorem IsNearestInt.of_floor {f : ℚ} {n : ℕ} (hnonneg : 0 ≤ f)
    (h : f < 1 / 2 ∨ f = 1 / 2 ∧ Even n) : IsNearestInt (n + f) n := by
  have hdistance : |(n : ℚ) - (n + f)| = f := by
    rw [sub_add_cancel_left, abs_neg, abs_of_nonneg hnonneg]
  constructor
  · rw [hdistance]
    rcases h with hlt | ⟨heq, -⟩
    · exact hlt.le
    · exact heq.le
  · rw [hdistance]
    intro heq
    rcases h with hlt | ⟨-, heven⟩
    · exact absurd heq hlt.ne
    · exact heven

theorem IsNearestInt.of_ceil {f : ℚ} {n : ℕ} (hless : f < 1)
    (h : 1 / 2 < f ∨ f = 1 / 2 ∧ ¬ Even n) : IsNearestInt (n + f) (n + 1) := by
  have hdistance : |((n + 1 : ℕ) : ℚ) - (n + f)| = 1 - f := by
    rw [Nat.cast_add, Nat.cast_one, add_sub_add_left_eq_sub, abs_of_pos (by linarith)]
  constructor
  · rw [hdistance]
    rcases h with hlt | ⟨heq, -⟩ <;> linarith
  · rw [hdistance]
    intro heq
    rcases h with hlt | ⟨-, hodd⟩
    · linarith
    · exact Nat.even_add_one.mpr hodd

theorem divideToNearest_cases (num den : ℕ) :
    divideToNearest num den = num / den ∨ divideToNearest num den = num / den + 1 := by
  simp only [divideToNearest]
  split
  · exact .inl rfl
  · exact .inr rfl

theorem isNearestInt_divideToNearest (num : ℕ) {den : ℕ} (hden : 0 < den) :
    IsNearestInt ((num : ℚ) / den) (divideToNearest num den) := by
  have hpos : (0 : ℚ) < den := by exact_mod_cast hden
  have hnum : (num : ℚ) / den = (num / den : ℕ) + ((num % den : ℕ) : ℚ) / den := by
    have hsplit : (num : ℚ) = den * (num / den : ℕ) + (num % den : ℕ) := by
      exact_mod_cast (Nat.div_add_mod num den).symm
    rw [hsplit]
    field_simp
  have hrest : (0 : ℚ) ≤ ((num % den : ℕ) : ℚ) / den := by positivity
  have hless : ((num % den : ℕ) : ℚ) / den < 1 := by
    rw [div_lt_one hpos]
    exact_mod_cast Nat.mod_lt num hden
  have hhalf : 2 * (num % den) < den ↔ ((num % den : ℕ) : ℚ) / den < 1 / 2 := by
    rw [div_lt_div_iff₀ hpos two_pos]
    norm_cast
    omega
  have htie : 2 * (num % den) = den ↔ ((num % den : ℕ) : ℚ) / den = 1 / 2 := by
    rw [div_eq_div_iff hpos.ne' two_ne_zero]
    norm_cast
    omega
  rw [hnum]
  simp only [divideToNearest]
  split
  · rename_i hdown
    exact .of_floor hrest (hdown.imp hhalf.mp fun h => ⟨htie.mp h.1, Nat.even_iff.mpr h.2⟩)
  · rename_i hup
    obtain ⟨hge, hodd⟩ := not_or.mp hup
    refine .of_ceil hless ?_
    rcases (not_lt.mp (mt hhalf.mpr hge)).lt_or_eq with hlt | heq
    · exact .inl hlt
    · exact .inr ⟨heq.symm, fun heven => hodd ⟨htie.mpr heq.symm, Nat.even_iff.mp heven⟩⟩

/-! ## The step at a magnitude -/

theorem stepExponent_spec (units : ℕ) :
    units / 2 ^ stepExponent units < 2 ^ 53 ∧
      (stepExponent units = 0 ∨ 2 ^ 52 ≤ units / 2 ^ stepExponent units) := by
  rw [stepExponent]
  by_cases hzero : units = 0
  · simp [hzero]
  rw [if_neg hzero]
  have hlow := Nat.log2_self_le hzero
  have hhigh := Nat.lt_log2_self (n := units)
  rcases Nat.le_total units.log2 52 with hle | hle
  · rw [Nat.sub_eq_zero_of_le hle, Nat.pow_zero, Nat.div_one]
    exact ⟨hhigh.trans_le (Nat.pow_le_pow_right two_pos (by omega)), .inl rfl⟩
  · obtain ⟨e, he⟩ := Nat.exists_eq_add_of_le hle
    rw [he, Nat.add_sub_cancel_left]
    rw [he] at hlow hhigh
    constructor
    · rw [Nat.div_lt_iff_lt_mul (Nat.two_pow_pos e), ← Nat.pow_add]
      exact hhigh.trans_le (Nat.pow_le_pow_right two_pos (by omega))
    · rw [Nat.le_div_iff_mul_le (Nat.two_pow_pos e), ← Nat.pow_add]
      exact .inr hlow

/-! ## Rounding -/

theorem IsNearestInt.le_distance_mul {x : ℚ} {n e : ℕ} (h : IsNearestInt (x / 2 ^ e) n) (j : ℕ) :
    |((n * 2 ^ e : ℕ) : ℚ) - x| ≤ |((j * 2 ^ e : ℕ) : ℚ) - x| ∧
      (|((n * 2 ^ e : ℕ) : ℚ) - x| = |((j * 2 ^ e : ℕ) : ℚ) - x| → j = n ∨ Even n) := by
  have hstep : (0 : ℚ) < 2 ^ e := by positivity
  have hscale (j : ℕ) : |((j * 2 ^ e : ℕ) : ℚ) - x| = |(j : ℚ) - x / 2 ^ e| * 2 ^ e := by
    rw [← abs_of_pos hstep, ← abs_mul, abs_of_pos hstep, sub_mul, div_mul_cancel₀ x hstep.ne']
    push_cast
    rfl
  obtain ⟨hnear, htie⟩ := h.le_distance j
  rw [hscale, hscale]
  exact ⟨mul_le_mul_of_nonneg_right hnear hstep.le, fun h => htie (mul_right_cancel₀ hstep.ne' h)⟩

/-- With a smaller step there are only numbers below the first one of 53 bits. -/
theorem IsCanonical.lt_of_power_lt {m k e : ℕ} (h : IsCanonical m k) (hke : k < e) :
    m * 2 ^ k < 2 ^ 52 * 2 ^ e := by
  calc m * 2 ^ k < 2 ^ 53 * 2 ^ k := Nat.mul_lt_mul_of_pos_right h.bits (Nat.two_pow_pos k)
    _ = 2 ^ 52 * 2 ^ (k + 1) := by ring
    _ ≤ 2 ^ 52 * 2 ^ e := Nat.mul_le_mul_left _ (Nat.pow_le_pow_right two_pos hke)

/-- The nearest multiple of the step is the nearest of all numbers, since below the first of those
with 53 bits there are only numbers that are further away. -/
theorem roundsTo_of_step {x : ℚ} {quotient n e : ℕ} (hquotient : quotient < 2 ^ 53)
    (hnormal : e = 0 ∨ 2 ^ 52 ≤ quotient) (hle : (quotient : ℚ) * 2 ^ e ≤ x)
    (hn : n = quotient ∨ n = quotient + 1) (hnearest : IsNearestInt (x / 2 ^ e) n) :
    RoundsTo x (n * 2 ^ e) := by
  have hall (m k : ℕ) (hcanonical : IsCanonical m k) :
      |((n * 2 ^ e : ℕ) : ℚ) - x| ≤ |((m * 2 ^ k : ℕ) : ℚ) - x| ∧
        (|((n * 2 ^ e : ℕ) : ℚ) - x| = |((m * 2 ^ k : ℕ) : ℚ) - x| →
          m * 2 ^ k = n * 2 ^ e ∨ Even n) := by
    rcases le_or_gt e k with hek | hke
    · obtain ⟨d, rfl⟩ := Nat.exists_eq_add_of_le hek
      have hm : m * 2 ^ (e + d) = m * 2 ^ d * 2 ^ e := by ring
      rw [hm]
      obtain ⟨hnear, htie⟩ := hnearest.le_distance_mul (m * 2 ^ d)
      exact ⟨hnear, fun h => (htie h).imp (fun hj => by rw [hj]) id⟩
    · have hfirst : ((2 ^ 52 * 2 ^ e : ℕ) : ℚ) ≤ x := by
        have hq : (2 ^ 52 : ℕ) ≤ quotient := hnormal.resolve_left (by omega)
        refine le_trans ?_ hle
        push_cast
        exact mul_le_mul_of_nonneg_right (by exact_mod_cast hq) (by positivity)
      have hbelow : ((m * 2 ^ k : ℕ) : ℚ) < ((2 ^ 52 * 2 ^ e : ℕ) : ℚ) := by
        exact_mod_cast hcanonical.lt_of_power_lt hke
      have hfar : |((2 ^ 52 * 2 ^ e : ℕ) : ℚ) - x| < |((m * 2 ^ k : ℕ) : ℚ) - x| := by
        rw [abs_of_nonpos (by linarith), abs_of_neg (by linarith)]
        linarith
      have hnear := (hnearest.le_distance_mul (2 ^ 52)).1
      exact ⟨(hnear.trans_lt hfar).le, fun h => absurd h (hnear.trans_lt hfar).ne⟩
  rcases Nat.lt_or_ge n (2 ^ 53) with hbits | hcarry
  · refine ⟨n, e, ⟨hbits, ?_⟩, rfl, hall⟩
    exact hnormal.imp id (fun hq => by omega)
  · -- all bits were set and one was carried out of them
    have hpower : n = 2 ^ 53 := by omega
    refine ⟨2 ^ 52, e + 1, ⟨by norm_num, .inr le_rfl⟩, ?_, ?_⟩
    · rw [hpower]
      ring
    · intro m k hcanonical
      obtain ⟨hnear, htie⟩ := hall m k hcanonical
      exact ⟨hnear, fun h => (htie h).imp id fun _ => by decide⟩

theorem roundsTo_divideToNearest (num : ℕ) {den : ℕ} (hden : 0 < den) :
    RoundsTo ((num : ℚ) / den)
      (divideToNearest num (den * 2 ^ stepExponent (num / den)) * 2 ^ stepExponent (num / den)) := by
  obtain ⟨hbits, hnormal⟩ := stepExponent_spec (num / den)
  generalize stepExponent (num / den) = e at hbits hnormal ⊢
  have hpos : (0 : ℚ) < den := by exact_mod_cast hden
  have hwhole : 0 < den * 2 ^ e := Nat.mul_pos hden (Nat.two_pow_pos e)
  have hnearest := isNearestInt_divideToNearest num hwhole
  have hcases := divideToNearest_cases num (den * 2 ^ e)
  rw [← Nat.div_div_eq_div_mul] at hcases
  refine roundsTo_of_step hbits hnormal ?_ hcases ?_
  · have hle : num / den / 2 ^ e * 2 ^ e * den ≤ num :=
      (Nat.mul_le_mul_right den (Nat.div_mul_le_self _ _)).trans (Nat.div_mul_le_self _ _)
    rw [le_div_iff₀ hpos]
    exact_mod_cast hle
  · have hscale : (num : ℚ) / den / 2 ^ e = num / (den * 2 ^ e : ℕ) := by
      rw [div_div]
      push_cast
      rfl
    rwa [hscale]

/-! ## One number for each fraction -/

/-- After a number with an even last bit, the next one comes before any other such number. -/
theorem next_between {m k m' k' : ℕ} (h : IsCanonical m k) (h' : IsCanonical m' k')
    (heven : Even m) (heven' : Even m') (hlt : m * 2 ^ k < m' * 2 ^ k') :
    IsCanonical (m + 1) k ∧ (m + 1) * 2 ^ k < m' * 2 ^ k' := by
  obtain ⟨half, hm⟩ := heven
  obtain ⟨half', hm'⟩ := heven'
  have hbits := h.bits
  refine ⟨⟨by omega, h.normal.imp id fun hn => by omega⟩, ?_⟩
  rcases le_or_gt k k' with hk | hk
  · obtain ⟨d, rfl⟩ := Nat.exists_eq_add_of_le hk
    have hsplit : m' * 2 ^ (k + d) = m' * 2 ^ d * 2 ^ k := by ring
    rw [hsplit] at hlt ⊢
    have hless := Nat.lt_of_mul_lt_mul_right hlt
    have hdouble : m' * 2 ^ d = 2 * (half' * 2 ^ d) := by
      rw [hm']
      ring
    exact Nat.mul_lt_mul_of_pos_right (by omega) (Nat.two_pow_pos k)
  · -- a greater number does not have the smaller step
    have hn : 2 ^ 52 ≤ m := h.normal.resolve_left (by omega)
    have hgreater : m' * 2 ^ k' < m * 2 ^ k :=
      (h'.lt_of_power_lt hk).trans_le (Nat.mul_le_mul_right _ hn)
    omega

theorem RoundsTo.not_lt {x : ℚ} {u v : ℕ} (hu : RoundsTo x u) (hv : RoundsTo x v) : ¬ u < v := by
  intro hlt
  obtain ⟨m, k, hm, rfl, humin⟩ := hu
  obtain ⟨m', k', hm', rfl, hvmin⟩ := hv
  obtain ⟨hle, htie⟩ := humin m' k' hm'
  obtain ⟨hle', htie'⟩ := hvmin m k hm
  have hsame := le_antisymm hle hle'
  have heven := (htie hsame).resolve_left (by omega)
  have heven' := (htie' hsame.symm).resolve_left (by omega)
  obtain ⟨hnext, hbetween⟩ := next_between hm hm' heven heven' hlt
  have hcloser := (humin (m + 1) k hnext).1
  have hfirst : ((m * 2 ^ k : ℕ) : ℚ) < ((m' * 2 ^ k' : ℕ) : ℚ) := by exact_mod_cast hlt
  have hlast : (((m + 1) * 2 ^ k : ℕ) : ℚ) < ((m' * 2 ^ k' : ℕ) : ℚ) := by exact_mod_cast hbetween
  have hstep : ((m * 2 ^ k : ℕ) : ℚ) < (((m + 1) * 2 ^ k : ℕ) : ℚ) := by
    exact_mod_cast Nat.mul_lt_mul_of_pos_right (Nat.lt_succ_self m) (Nat.two_pow_pos k)
  -- `x` lies halfway between the two, so that what lies between them is closer to it
  have hmiddle : ((m * 2 ^ k : ℕ) : ℚ) + ((m' * 2 ^ k' : ℕ) : ℚ) = 2 * x := by
    rcases (abs_eq_abs.mp hsame) with heq | heq <;> linarith
  rw [abs_of_neg (by linarith)] at hcloser
  rcases abs_cases ((((m + 1) * 2 ^ k : ℕ) : ℚ) - x) with ⟨habs, -⟩ | ⟨habs, -⟩ <;>
    rw [habs] at hcloser <;> linarith

theorem RoundsTo.unique {x : ℚ} {u v : ℕ} (hu : RoundsTo x u) (hv : RoundsTo x v) : u = v := by
  have huv := hu.not_lt hv
  have hvu := hv.not_lt hu
  omega

theorem roundsTo_zero {x : ℚ} (hx : 0 ≤ x) (hsmall : x < 1 / 2) : RoundsTo x 0 := by
  refine ⟨0, 0, ⟨by norm_num, .inl rfl⟩, rfl, ?_⟩
  intro m k hcanonical
  rw [Nat.cast_zero, zero_sub, abs_neg, abs_of_nonneg hx]
  rcases Nat.eq_zero_or_pos (m * 2 ^ k) with hzero | hpos
  · rw [hzero, Nat.cast_zero, zero_sub, abs_neg, abs_of_nonneg hx]
    exact ⟨le_rfl, fun _ => .inl rfl⟩
  · have hone : (1 : ℚ) ≤ ((m * 2 ^ k : ℕ) : ℚ) := by exact_mod_cast hpos
    rw [abs_of_pos (by linarith)]
    exact ⟨by linarith, fun h => by linarith⟩

/-- What is rounded is not rounded past a number. -/
theorem RoundsTo.le_of_le {x : ℚ} {units m k : ℕ} (h : RoundsTo x units) (hcanonical : IsCanonical m k)
    (hle : ((m * 2 ^ k : ℕ) : ℚ) ≤ x) : m * 2 ^ k ≤ units := by
  obtain ⟨_, _, -, -, hmin⟩ := h
  obtain ⟨hnear, -⟩ := hmin m k hcanonical
  by_contra hlt
  have hcast : (units : ℚ) < ((m * 2 ^ k : ℕ) : ℚ) := by exact_mod_cast not_le.mp hlt
  rw [abs_of_neg (by linarith), abs_of_nonpos (by linarith)] at hnear
  linarith

end BookFinder.Binary64
