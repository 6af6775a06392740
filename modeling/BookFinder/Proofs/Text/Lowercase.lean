import BookFinder.Proofs.Text.Utf8
import BookFinder.Text.Lowercase

/-! # Lowercase forms

A lowercase form is left as it is by lowercasing, and has no punctuation that was not there before.
Both are facts about the table of letters first, and about texts after that. -/

namespace BookFinder.Text

/-! ## The table -/

namespace CaseRange

def lastImage (r : CaseRange) : Nat := r.image + (r.last - r.first)

/-- The forms of the one range and the characters of the other take turns. -/
def interleaves (r s : CaseRange) : Bool :=
  (r.step == 2 || r.first == r.last) && s.step == 2 && (r.image + s.first) % 2 == 1

/-- None of the forms of the range is mapped by an ascending table. Ranges below the forms are
passed over, and the first one above them ends the search. -/
def avoids (r : CaseRange) : List CaseRange → Bool
  | [] => true
  | s :: table =>
    bif s.last.blt r.image then r.avoids table
    else r.lastImage.blt s.first || r.interleaves s && r.avoids table

/-- The forms are characters that no range maps, those in ASCII are small letters, and U+0130 is not
one of them. -/
structure Sound (r : CaseRange) : Prop where
  valid : r.lastImage < 0xD800 ∨ 0xDFFF < r.image ∧ r.lastImage < 0x110000
  ascii : 0x80 ≤ r.image ∨ 0x61 ≤ r.image ∧ r.lastImage ≤ 0x7A
  dotted : r.lastImage < 0x130 ∨ 0x130 < r.image
  unmapped : r.avoids lowercaseRanges = true

theorem covers_iff {r : CaseRange} {n : Nat} :
    r.covers n = true ↔ r.first ≤ n ∧ n ≤ r.last ∧ (n - r.first) % r.step = 0 := by
  simp [covers, and_assoc]

section Images

variable {r s : CaseRange} {n : Nat}

theorem not_covers_image_of_below (h : s.last < r.image) :
    ¬ s.covers (r.image + (n - r.first)) = true := by
  rw [covers_iff]
  omega

theorem not_covers_image_of_above (hn : r.covers n = true) (h : r.lastImage < s.first) :
    ¬ s.covers (r.image + (n - r.first)) = true := by
  rw [covers_iff] at hn ⊢
  rw [lastImage] at h
  omega

theorem not_covers_image_of_interleaves (hn : r.covers n = true) (h : r.interleaves s = true) :
    ¬ s.covers (r.image + (n - r.first)) = true := by
  rw [covers_iff] at hn ⊢
  simp only [interleaves, Bool.or_eq_true, Bool.and_eq_true, beq_iff_eq] at h
  obtain ⟨⟨heven | hsingle, htwo⟩, hodd⟩ := h
  · rw [htwo]
    rw [heven] at hn
    omega
  · rw [htwo]
    omega

theorem not_covers_image {table : List CaseRange} (hsorted : table.Pairwise (·.first ≤ ·.first))
    (h : r.avoids table = true) (hn : r.covers n = true) :
    ∀ s ∈ table, ¬ s.covers (r.image + (n - r.first)) = true := by
  induction hsorted with
  | nil => simp
  | @cons s table hfirst _ ih =>
      rw [List.forall_mem_cons]
      rw [avoids] at h
      cases hbelow : s.last.blt r.image with
      | true =>
          rw [hbelow, cond_true] at h
          exact ⟨not_covers_image_of_below (Nat.blt_eq.mp hbelow), ih h⟩
      | false =>
          rw [hbelow, cond_false, Bool.or_eq_true, Bool.and_eq_true, Nat.blt_eq] at h
          rcases h with habove | ⟨hturns, hrest⟩
          · refine ⟨not_covers_image_of_above hn habove, ?_⟩
            intro t ht
            exact not_covers_image_of_above hn (Nat.lt_of_lt_of_le habove (hfirst t ht))
          · exact ⟨not_covers_image_of_interleaves hn hturns, ih hrest⟩

end Images

end CaseRange

theorem lowercaseRanges_sorted : lowercaseRanges.Pairwise (·.first ≤ ·.first) := by
  have hchain : (lowercaseRanges.map (·.first)).IsChain (· ≤ ·) := by decide +kernel
  exact List.pairwise_map.mp (List.isChain_iff_pairwise.mp hchain)

theorem sound_of_mem {r : CaseRange} (hr : r ∈ lowercaseRanges) : r.Sound := by
  have htable : ∀ r ∈ lowercaseRanges,
      (r.lastImage < 0xD800 ∨ 0xDFFF < r.image ∧ r.lastImage < 0x110000) ∧
        (0x80 ≤ r.image ∨ 0x61 ≤ r.image ∧ r.lastImage ≤ 0x7A) ∧
          (r.lastImage < 0x130 ∨ 0x130 < r.image) ∧ r.avoids lowercaseRanges = true := by
    decide +kernel
  obtain ⟨hvalid, hascii, hdotted, hunmapped⟩ := htable r hr
  exact ⟨hvalid, hascii, hdotted, hunmapped⟩

def CaseRange.form (r : CaseRange) (c : Char) : Char := Char.ofNat (r.image + (c.toNat - r.first))

theorem toNat_form {r : CaseRange} (hr : r ∈ lowercaseRanges) {c : Char}
    (hc : r.covers c.toNat = true) : (r.form c).toNat = r.image + (c.toNat - r.first) := by
  have hvalid := (sound_of_mem hr).valid
  obtain ⟨hlow, hhigh, -⟩ := CaseRange.covers_iff.mp hc
  rw [CaseRange.lastImage] at hvalid
  exact Utf8.toNat_ofNat (by omega) (by omega)

theorem not_covers_form {r s : CaseRange} (hr : r ∈ lowercaseRanges) (hs : s ∈ lowercaseRanges)
    {c : Char} (hc : r.covers c.toNat = true) : ¬ s.covers (r.form c).toNat = true := by
  rw [toNat_form hr hc]
  exact CaseRange.not_covers_image lowercaseRanges_sorted (sound_of_mem hr).unmapped hc s hs

/-! ## Single characters -/

/-- The capital letters of ASCII, which the table lists as well. -/
def capitals : CaseRange := ⟨0x41, 0x5A, 1, 0x61⟩

theorem capitals_mem : capitals ∈ lowercaseRanges := List.mem_cons_self ..

theorem capitals_covers_iff {c : Char} : capitals.covers c.toNat = true ↔ 'A' ≤ c ∧ c ≤ 'Z' := by
  rw [CaseRange.covers_iff, Char.le_def, Char.le_def, UInt32.le_iff_toNat_le,
    UInt32.le_iff_toNat_le]
  exact ⟨fun h => ⟨h.1, h.2.1⟩, fun h => ⟨h.1, h.2, Nat.mod_one _⟩⟩

theorem lowerChar_of_capital {c : Char} (h : 'A' ≤ c ∧ c ≤ 'Z') :
    lowerChar c = [capitals.form c] := by
  have hcovers := CaseRange.covers_iff.mp (capitals_covers_iff.mpr h)
  have hlow : 0x41 ≤ c.toNat := hcovers.1
  have hhigh : c.toNat ≤ 0x5A := hcovers.2.1
  have hform : c.toNat + 32 = 0x61 + (c.toNat - 0x41) := by omega
  rw [lowerChar, if_pos (by omega), if_pos h, hform]
  rfl

/-- What a character becomes: two characters, the form in a range of the table, or itself. -/
theorem lowerChar_cases (c : Char) :
    c = '\u0130' ∧ lowerChar c = ['i', '\u0307'] ∨
    (∃ r ∈ lowercaseRanges, r.covers c.toNat = true ∧ lowerChar c = [r.form c]) ∨
    lowerChar c = [c] := by
  by_cases hcapital : 'A' ≤ c ∧ c ≤ 'Z'
  · exact .inr (.inl
      ⟨capitals, capitals_mem, capitals_covers_iff.mpr hcapital, lowerChar_of_capital hcapital⟩)
  by_cases hascii : c.toNat < 0x80
  · exact .inr (.inr (by rw [lowerChar, if_pos hascii, if_neg hcapital]))
  by_cases hdotted : c = '\u0130'
  · exact .inl ⟨hdotted, by rw [hdotted]; decide⟩
  · rw [lowerChar, if_neg hascii, if_neg hdotted]
    cases hfind : lowercaseRanges.find? (·.covers c.toNat) with
    | none => exact .inr (.inr rfl)
    | some r =>
        have hcovers : r.covers c.toNat = true :=
          List.find?_some (p := fun r : CaseRange => r.covers c.toNat) hfind
        exact .inr (.inl ⟨r, List.mem_of_find?_eq_some hfind, hcovers, rfl⟩)

/-- A character that no range maps stays as it is, but for U+0130. -/
theorem lowerChar_of_uncovered {c : Char} (hdotted : c ≠ '\u0130')
    (h : ∀ r ∈ lowercaseRanges, ¬ r.covers c.toNat = true) : lowerChar c = [c] := by
  rcases lowerChar_cases c with ⟨hc, -⟩ | ⟨r, hr, hcovers, -⟩ | hc
  · exact absurd hc hdotted
  · exact absurd hcovers (h r hr)
  · exact hc

/-- The forms that are given by a rule and not by the table: those of U+0130 and of the capital
sigma. -/
def specialForms : List Char := ['i', '\u0307', 'ς', 'σ']

theorem lowerChar_of_mem_specialForms {c : Char} (h : c ∈ specialForms) : lowerChar c = [c] := by
  have hall : specialForms.all (fun c => lowerChar c == [c]) = true := by decide
  exact beq_iff_eq.mp (List.all_eq_true.mp hall c h)

theorem lowerChar_of_mem {c d : Char} (h : d ∈ lowerChar c) : lowerChar d = [d] := by
  rcases lowerChar_cases c with ⟨-, hc⟩ | ⟨r, hr, hcovers, hc⟩ | hc
  · rw [hc] at h
    simp only [List.mem_cons, List.not_mem_nil, or_false] at h
    rcases h with rfl | rfl
    · exact lowerChar_of_mem_specialForms (by simp [specialForms])
    · exact lowerChar_of_mem_specialForms (by simp [specialForms])
  · rw [hc, List.mem_singleton] at h
    have hdotted : r.form c ≠ '\u0130' := by
      intro hform
      have hdotted := (sound_of_mem hr).dotted
      obtain ⟨hlow, hhigh, -⟩ := CaseRange.covers_iff.mp hcovers
      have hnat : r.image + (c.toNat - r.first) = 0x130 := by
        rw [← toNat_form hr hcovers, hform]
        rfl
      rw [CaseRange.lastImage] at hdotted
      omega
    rw [h]
    exact lowerChar_of_uncovered hdotted (fun s hs => not_covers_form hr hs hcovers)
  · rw [hc, List.mem_singleton] at h
    rw [h, hc]

/-- No lowercase form in ASCII is new but for letters. -/
theorem eq_or_isAlpha_of_mem_lowerChar {c d : Char} (h : d ∈ lowerChar c) :
    d = c ∨ 0x80 ≤ d.toNat ∨ d.isAlpha = true := by
  rcases lowerChar_cases c with ⟨-, hc⟩ | ⟨r, hr, hcovers, hc⟩ | hc
  · rw [hc] at h
    simp only [List.mem_cons, List.not_mem_nil, or_false] at h
    rcases h with rfl | rfl
    · exact .inr (.inr (by decide))
    · exact .inr (.inl (by decide))
  · rw [hc, List.mem_singleton] at h
    have hascii := (sound_of_mem hr).ascii
    have hd := toNat_form hr hcovers
    obtain ⟨hlow, hhigh, -⟩ := CaseRange.covers_iff.mp hcovers
    rw [← h] at hd
    rw [CaseRange.lastImage] at hascii
    rcases hascii with habove | ⟨hsmall, hletter⟩
    · exact .inr (.inl (by omega))
    · have hletters : ∀ n < 0x7B, 0x61 ≤ n → (Char.ofNat n).isAlpha = true := by decide
      have halpha := hletters d.toNat (by omega) (by omega)
      rw [Char.ofNat_toNat] at halpha
      exact .inr (.inr halpha)
  · rw [hc, List.mem_singleton] at h
    exact .inl h

theorem lowerChar_ne_nil (c : Char) : lowerChar c ≠ [] := by
  rcases lowerChar_cases c with ⟨-, hc⟩ | ⟨r, -, -, hc⟩ | hc
  · simp [hc]
  · simp [hc]
  · simp [hc]

/-! ## Whole texts -/

theorem lowerSigma_eq_or (before after : List Char) :
    lowerSigma before after = 'ς' ∨ lowerSigma before after = 'σ' := by
  rw [lowerSigma]
  split
  · exact .inl rfl
  · exact .inr rfl

/-- Each character of a lowercase form is a form of a sigma or of another character of the text. -/
theorem mem_lowerAfter {before cs : List Char} {d : Char} (h : d ∈ lowerAfter before cs) :
    (d = 'ς' ∨ d = 'σ') ∨ ∃ c ∈ cs, d ∈ lowerChar c := by
  induction cs generalizing before with
  | nil => cases h
  | cons c cs ih =>
      rw [lowerAfter, List.mem_append] at h
      rcases h with h | h
      · split at h
        · rw [List.mem_singleton] at h
          exact .inl (h ▸ lowerSigma_eq_or before cs)
        · exact .inr ⟨c, List.mem_cons_self .., h⟩
      · refine (ih h).imp_right ?_
        rintro ⟨e, he, hd⟩
        exact ⟨e, List.mem_cons_of_mem c he, hd⟩

theorem lowerChar_of_mem_lower {cs : List Char} {d : Char} (h : d ∈ lower cs) :
    lowerChar d = [d] := by
  rcases mem_lowerAfter h with (rfl | rfl) | ⟨c, -, hd⟩
  · exact lowerChar_of_mem_specialForms (by simp [specialForms])
  · exact lowerChar_of_mem_specialForms (by simp [specialForms])
  · exact lowerChar_of_mem hd

theorem ne_sigma_of_lowerChar {c : Char} (h : lowerChar c = [c]) : c ≠ 'Σ' := by
  rintro rfl
  exact absurd h (by decide)

theorem lowerAfter_eq_self {before cs : List Char} (h : ∀ c ∈ cs, lowerChar c = [c]) :
    lowerAfter before cs = cs := by
  induction cs generalizing before with
  | nil => rfl
  | cons c cs ih =>
      have hc := h c (List.mem_cons_self ..)
      have hcs : lowerAfter (c :: before) cs = cs :=
        ih (fun d hd => h d (List.mem_cons_of_mem c hd))
      rw [lowerAfter, if_neg (ne_sigma_of_lowerChar hc), hc, hcs, List.singleton_append]

theorem lower_lower (cs : List Char) : lower (lower cs) = lower cs :=
  lowerAfter_eq_self (fun _ => lowerChar_of_mem_lower)

theorem lower_eq_nil_iff {cs : List Char} : lower cs = [] ↔ cs = [] := by
  cases cs with
  | nil => exact iff_of_true rfl rfl
  | cons c cs =>
      refine iff_of_false ?_ (List.cons_ne_nil c cs)
      rw [lower, lowerAfter, List.append_eq_nil_iff]
      rintro ⟨h, -⟩
      split at h
      · cases h
      · exact lowerChar_ne_nil c h

/-- What a lowercase form has of ASCII besides letters was in the text. -/
theorem mem_of_mem_lower {cs : List Char} {d : Char} (h : d ∈ lower cs) (hascii : d.toNat < 0x80)
    (hletter : d.isAlpha = false) : d ∈ cs := by
  rcases mem_lowerAfter h with (rfl | rfl) | ⟨c, hc, hd⟩
  · exact absurd hascii (by decide)
  · exact absurd hascii (by decide)
  · rcases eq_or_isAlpha_of_mem_lowerChar hd with rfl | hhigh | halpha
    · exact hc
    · omega
    · simp [hletter] at halpha

def lowercased (text : String) : String := String.ofList (lower text.toList)

theorem toList_lowercased (text : String) : (lowercased text).toList = lower text.toList :=
  String.toList_ofList

end BookFinder.Text
