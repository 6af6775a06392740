import BookFinder.Query.Error
import BookFinder.Text.Blank
import BookFinder.Text.Digits

/-! # Page arguments

A page is written in ASCII digits, with any white space around them and any number of leading
zeros, and lies between 1 and 2^32 - 1.
-/

namespace BookFinder.Query

/-- Looks for a digit anywhere, then for anything else between the white space at both ends, and
reads the number last. -/
def parsePage (raw : String) : Except QueryError UInt32 :=
  let digits := Text.trim raw.toList
  if !raw.toList.any Char.isDigit then .error (.invalidPage raw)
  else if !digits.all Char.isDigit then .error (.invalidPage raw)
  else match Text.readBelow UInt32.size digits with
    | some n => if 1 ≤ n then .ok (UInt32.ofNat n) else .error (.invalidPage raw)
    | none => .error (.invalidPage raw)

/-- Whatever is wrong with a page argument, the error names the argument as it was written. -/
theorem parsePage_error {raw : String} {error : QueryError} (h : parsePage raw = .error error) :
    error = .invalidPage raw := by
  simp only [parsePage] at h
  split at h
  · exact (Except.error.inj h).symm
  split at h
  · exact (Except.error.inj h).symm
  split at h
  · split at h
    · cases h
    · exact (Except.error.inj h).symm
  · exact (Except.error.inj h).symm

theorem any_isDigit_of_trim {cs : List Char} (h : Text.IsDigits (Text.trim cs)) :
    cs.any Char.isDigit = true := by
  obtain ⟨before, after, hcs, -, -⟩ := Text.exists_trim cs
  obtain ⟨c, rest, htrim⟩ := List.exists_cons_of_ne_nil h.1
  have hc : c ∈ Text.trim cs := by simp [htrim]
  rw [List.any_eq_true]
  refine ⟨c, ?_, h.2 c hc⟩
  rw [hcs]
  simp [hc]

/-- The three checks come to one: between the white space there are digits, for a number that a page
can have. -/
theorem parsePage_eq_ok_iff {raw : String} {page : UInt32} :
    parsePage raw = .ok page ↔
      Text.IsDigits (Text.trim raw.toList) ∧
        Nat.ofDigitChars 10 (Text.trim raw.toList) 0 = page.toNat ∧ 1 ≤ page.toNat := by
  have hbound : 0 < UInt32.size := by decide
  constructor
  · intro h
    simp only [parsePage] at h
    split at h
    · cases h
    split at h
    · cases h
    split at h
    · rename_i hall _ n hread
      have hdigits : ∀ c ∈ Text.trim raw.toList, c.isDigit = true := by simpa using hall
      rw [Text.readBelow_of_digits hdigits, Text.readDigitsBelow_eq_some_iff hbound] at hread
      obtain ⟨hlt, hnumber, hvalue⟩ := hread
      split at h
      · rename_i hpos
        obtain rfl := Except.ok.inj h
        rw [UInt32.toNat_ofNat_of_lt' hlt]
        exact ⟨hnumber, hvalue, hpos⟩
      · cases h
    · cases h
  · rintro ⟨hdigits, hvalue, hpos⟩
    have hread : Text.readBelow UInt32.size (Text.trim raw.toList) = some page.toNat := by
      rw [Text.readBelow_of_digits hdigits.2, Text.readDigitsBelow_eq_some_iff hbound]
      exact ⟨page.toNat_lt_size, hdigits, hvalue⟩
    have hall : (Text.trim raw.toList).all Char.isDigit = true := List.all_eq_true.mpr hdigits.2
    simp only [parsePage, any_isDigit_of_trim hdigits, hall, hread, if_pos hpos]
    simp

theorem one_le_of_parsePage {raw : String} {page : UInt32} (h : parsePage raw = .ok page) :
    1 ≤ page := by
  rw [UInt32.le_iff_toNat_le]
  exact (parsePage_eq_ok_iff.mp h).2.2

end BookFinder.Query
