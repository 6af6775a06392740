import BookFinder.Query.Page

/-! # What a page argument may be

An argument is taken exactly if it is a page in writing. That there is no digit in it, that there is
something else than digits, that the number is 0 or too great: whatever it is refused for, it is
refused with the same error. -/

namespace BookFinder.Query

/-- A page in writing: the digits of a number from 1 to `2 ^ 32 - 1`, with white space around. -/
inductive WritesPage : List Char → UInt32 → Prop
  | intro {before digits after : List Char} {page : UInt32}
      (hbefore : ∀ c ∈ before, Text.isBlank c = true) (hdigits : Text.IsDigits digits)
      (hvalue : Nat.ofDigitChars 10 digits 0 = page.toNat) (hpos : 1 ≤ page.toNat)
      (hafter : ∀ c ∈ after, Text.isBlank c = true) : WritesPage (before ++ digits ++ after) page

theorem parsePage_of_writesPage {raw : String} {page : UInt32} (h : WritesPage raw.toList page) :
    parsePage raw = .ok page := by
  rw [parsePage_eq_ok_iff]
  generalize raw.toList = cs at h
  obtain ⟨hbefore, hdigits, hvalue, hpos, hafter⟩ := h
  have htrim := Text.trim_signed hbefore (.inl rfl) hdigits hafter
  rw [List.nil_append] at htrim
  rw [htrim]
  exact ⟨hdigits, hvalue, hpos⟩

theorem writesPage_of_parsePage {raw : String} {page : UInt32} (h : parsePage raw = .ok page) :
    WritesPage raw.toList page := by
  obtain ⟨hdigits, hvalue, hpos⟩ := parsePage_eq_ok_iff.mp h
  obtain ⟨before, after, hraw, hbefore, hafter⟩ := Text.exists_trim raw.toList
  rw [hraw]
  exact .intro hbefore hdigits hvalue hpos hafter

theorem parsePage_eq_error_iff {raw : String} {error : QueryError} :
    parsePage raw = .error error ↔
      error = .invalidPage raw ∧ ∀ page, ¬ WritesPage raw.toList page := by
  constructor
  · intro h
    refine ⟨parsePage_error h, ?_⟩
    intro page hpage
    rw [parsePage_of_writesPage hpage] at h
    cases h
  · rintro ⟨rfl, hnone⟩
    cases hparse : parsePage raw with
    | ok page => exact absurd (writesPage_of_parsePage hparse) (hnone page)
    | error cause => rw [parsePage_error hparse]

theorem writesPage_renderNat {before after : List Char} {page : UInt32}
    (hbefore : ∀ c ∈ before, Text.isBlank c = true) (hafter : ∀ c ∈ after, Text.isBlank c = true)
    (hpage : page ≠ 0) (zeros : Nat) :
    WritesPage (before ++ (List.replicate zeros '0' ++ Text.renderNat page.toNat) ++ after)
      page := by
  obtain ⟨hdigits, hvalue⟩ := Text.zeros_renderNat zeros page.toNat
  have hpos : 1 ≤ page.toNat := by
    rw [Nat.one_le_iff_ne_zero]
    intro hzero
    exact hpage (UInt32.toNat_inj.mp hzero)
  exact .intro hbefore hdigits hvalue hpos hafter

/-- An argument is read as a page if and only if it is that page in writing, and any other argument
is refused, with the argument itself in the error. Every page but 0 is read from its decimal digits,
whatever white space is around them and however many zeros stand in front. -/
theorem parsePage_exact :
    (∀ (raw : String) (page : UInt32), parsePage raw = .ok page ↔ WritesPage raw.toList page) ∧
    (∀ (raw : String) (error : QueryError), parsePage raw = .error error ↔
      error = .invalidPage raw ∧ ∀ page, ¬ WritesPage raw.toList page) ∧
    ∀ (page : UInt32) (zeros : Nat) (before after : List Char), page ≠ 0 →
      (∀ c ∈ before, Text.isBlank c = true) → (∀ c ∈ after, Text.isBlank c = true) →
      parsePage (String.ofList
        (before ++ (List.replicate zeros '0' ++ Text.renderNat page.toNat) ++ after)) =
          .ok page := by
  refine ⟨?_, ?_, ?_⟩
  · intro raw page
    exact ⟨writesPage_of_parsePage, parsePage_of_writesPage⟩
  · intro raw error
    exact parsePage_eq_error_iff
  · intro page zeros before after hpage hbefore hafter
    apply parsePage_of_writesPage
    rw [String.toList_ofList]
    exact writesPage_renderNat hbefore hafter hpage zeros

/-- The greatest page and the number after it. -/
example : parsePage "\u3000 0004294967295\n" = .ok 4294967295 ∧
    parsePage "4294967296" = .error (.invalidPage "4294967296") :=
  ⟨rfl, rfl⟩

end BookFinder.Query
