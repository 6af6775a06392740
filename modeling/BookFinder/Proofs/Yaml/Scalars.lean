import BookFinder.Proofs.Decimal.Reader
import BookFinder.Yaml.CoreSchema
import Mathlib.Data.Nat.Digits.Defs

/-! # What scalars stand for

Which texts are booleans, natural numbers and binary numbers, and which scalars are null. Each reader
of the core schema takes these and nothing else. -/

namespace BookFinder.Yaml.Scalar

/-! ## Words -/

/-- The scalar stands without quotes, or is a literal one with the tag of a type. -/
def MayBe (type : String) (scalar : Scalar) : Prop :=
  scalar.style = .plain ∨
    scalar.style = .literal ∧ scalar.tag = some ("tag:yaml.org,2002:" ++ type).toList

theorem isReadAs_iff {type : String} {scalar : Scalar} :
    scalar.isReadAs type = true ↔ MayBe type scalar := by
  rw [isReadAs, MayBe, ← coreTag]
  cases scalar.style <;> simp

inductive IsBool (scalar : Scalar) : Bool → Prop
  | yes (h : MayBe "bool" scalar) (htext : String.ofList scalar.text ∈ ["true", "True", "TRUE"]) :
      IsBool scalar true
  | no (h : MayBe "bool" scalar) (htext : String.ofList scalar.text ∈ ["false", "False", "FALSE"]) :
      IsBool scalar false

theorem bool_eq_some_iff {scalar : Scalar} {b : Bool} : scalar.bool = some b ↔ IsBool scalar b := by
  rw [bool]
  simp only [List.contains_iff_mem]
  constructor
  · intro h
    split at h
    · rename_i hmay
      split at h
      · rename_i htext
        obtain rfl := Option.some.inj h
        exact .yes (isReadAs_iff.mp hmay) htext
      split at h
      · rename_i htext
        obtain rfl := Option.some.inj h
        exact .no (isReadAs_iff.mp hmay) htext
      · cases h
    · cases h
  · intro h
    cases h with
    | yes hmay htext => rw [if_pos (isReadAs_iff.mpr hmay), if_pos htext]
    | no hmay htext =>
        have hother : String.ofList scalar.text ∉ ["true", "True", "TRUE"] := by
          simp only [List.mem_cons, List.not_mem_nil, or_false] at htext
          rcases htext with htext | htext | htext <;> rw [htext] <;> decide
        rw [if_pos (isReadAs_iff.mpr hmay), if_neg hother, if_pos htext]

def nullWords : List String := ["null", "Null", "NULL", "~"]

/-- A text, or null for none. Null is a word or an empty text without quotes; with the tag of null no
other text may stand. -/
inductive IsOptionalText (scalar : Scalar) : Option String → Prop
  | empty (h : scalar.style = .plain) (htag : scalar.tag = none) (htext : scalar.text = []) :
      IsOptionalText scalar none
  | null (h : scalar.style = .plain)
      (htag : scalar.tag = none ∨ scalar.tag = some "tag:yaml.org,2002:null".toList)
      (htext : String.ofList scalar.text ∈ nullWords) : IsOptionalText scalar none
  | quoted (h : scalar.style ≠ .plain) : IsOptionalText scalar (some (String.ofList scalar.text))
  | plain (h : scalar.style = .plain) (htag : scalar.tag = none) (htext : scalar.text ≠ [])
      (hword : String.ofList scalar.text ∉ nullWords) :
      IsOptionalText scalar (some (String.ofList scalar.text))
  | tagged {tag : List Char} (h : scalar.style = .plain) (htag : scalar.tag = some tag)
      (hother : tag ≠ "tag:yaml.org,2002:null".toList) :
      IsOptionalText scalar (some (String.ofList scalar.text))

theorem isNullWord_iff {text : List Char} :
    isNullWord text = true ↔ String.ofList text ∈ nullWords := by
  rw [isNullWord, List.contains_iff_mem, nullWords]

theorem isOptionalText_of_isNull {scalar : Scalar} {null : Bool} (h : scalar.isNull = some null) :
    IsOptionalText scalar (if null then none else some (String.ofList scalar.text)) := by
  rw [isNull.eq_def] at h
  split at h
  · rename_i hstyle htag
    obtain rfl := Option.some.inj h
    simp only [Bool.or_eq_true, List.isEmpty_iff, isNullWord_iff]
    split
    · rename_i hempty
      rcases hempty with hempty | hword
      · exact .empty hstyle htag hempty
      · exact .null hstyle (.inl htag) hword
    · rename_i hother
      obtain ⟨hempty, hword⟩ := not_or.mp hother
      exact .plain hstyle htag hempty hword
  · rename_i tag hstyle htag
    split at h
    · rename_i hcore
      obtain ⟨hword, h⟩ := Option.ite_none_right_eq_some.mp h
      obtain rfl := Option.some.inj h
      exact .null hstyle (.inr (by rw [htag, hcore]; rfl)) (isNullWord_iff.mp hword)
    · rename_i hcore
      obtain rfl := Option.some.inj h
      exact .tagged hstyle htag hcore
  · rename_i hplain htagged
    obtain rfl := Option.some.inj h
    refine .quoted ?_
    intro hstyle
    cases htag : scalar.tag with
    | none => exact hplain hstyle htag
    | some tag => exact htagged tag hstyle htag

theorem IsOptionalText.isNull_eq {scalar : Scalar} {value : Option String}
    (h : IsOptionalText scalar value) :
    ∃ null, scalar.isNull = some null ∧
      (if null then none else some (String.ofList scalar.text)) = value := by
  cases h with
  | empty hstyle htag htext => exact ⟨true, by simp [isNull, hstyle, htag, htext], rfl⟩
  | null hstyle htag htext =>
      refine ⟨true, ?_, rfl⟩
      rcases htag with htag | htag <;>
        simp [isNull, hstyle, htag, isNullWord_iff.mpr htext, coreTag]
  | quoted hstyle =>
      refine ⟨false, ?_, rfl⟩
      rw [isNull.eq_def]
      split
      · exact absurd ‹_› hstyle
      · exact absurd ‹_› hstyle
      · rfl
  | plain hstyle htag htext hword =>
      have hnot := mt isNullWord_iff.mp hword
      exact ⟨false, by simp [isNull, hstyle, htag, htext, hnot], rfl⟩
  | tagged hstyle htag hother =>
      have hnot := hother
      rw [← show coreTag "null" = "tag:yaml.org,2002:null".toList from rfl] at hnot
      exact ⟨false, by simp [isNull, hstyle, htag, hnot], rfl⟩

theorem isNull_iff {scalar : Scalar} {value : Option String} :
    (∃ null, scalar.isNull = some null ∧
        (if null then none else some (String.ofList scalar.text)) = value) ↔
      IsOptionalText scalar value := by
  constructor
  · rintro ⟨null, hnull, rfl⟩
    exact isOptionalText_of_isNull hnull
  · exact IsOptionalText.isNull_eq

/-! ## Natural numbers -/

/-- Digits of a base, and the number that they make. -/
def IsNumeral (base : ℕ) (cs : List Char) (n : ℕ) : Prop :=
  cs ≠ [] ∧ ∃ digits : List ℕ,
    List.Forall₂ (fun c d => Text.hexValue c = some d ∧ d < base) cs digits ∧
      Nat.ofDigits base digits.reverse = n

/-- A number in decimal digits, without a zero before others, or after the mark of its base. -/
inductive IsUnsigned : List Char → ℕ → Prop
  | decimal {cs : List Char} {n : ℕ} (h : IsNumeral 10 cs n)
      (hzero : cs.head? = some '0' → cs = ['0']) : IsUnsigned cs n
  | hexadecimal {cs : List Char} {n : ℕ} (h : IsNumeral 16 cs n) : IsUnsigned ('0' :: 'x' :: cs) n
  | octal {cs : List Char} {n : ℕ} (h : IsNumeral 8 cs n) : IsUnsigned ('0' :: 'o' :: cs) n
  | binary {cs : List Char} {n : ℕ} (h : IsNumeral 2 cs n) : IsUnsigned ('0' :: 'b' :: cs) n

inductive IsNatural (scalar : Scalar) (n : ℕ) : Prop
  | intro {sign digits : List Char} (h : MayBe "int" scalar) (htext : scalar.text = sign ++ digits)
      (hsign : sign = [] ∨ sign = ['+']) (hdigits : IsUnsigned digits n)

/-- The digits after a number that has been read add to it as many places as they are. -/
theorem foldlM_pushDigit_eq_some_iff {base m n : ℕ} {cs : List Char} :
    cs.foldlM (pushDigit base) m = some n ↔
      ∃ digits : List ℕ, List.Forall₂ (fun c d => Text.hexValue c = some d ∧ d < base) cs digits ∧
        m * base ^ digits.length + Nat.ofDigits base digits.reverse = n := by
  induction cs generalizing m with
  | nil => simp
  | cons c cs ih =>
      have hvalue (d : ℕ) (digits : List ℕ) :
          (m * base + d) * base ^ digits.length + Nat.ofDigits base digits.reverse =
            m * base ^ (d :: digits).length + Nat.ofDigits base (d :: digits).reverse := by
        rw [List.reverse_cons, Nat.ofDigits_append, Nat.ofDigits_singleton, List.length_reverse,
          List.length_cons]
        ring
      simp only [List.foldlM_cons, Option.bind_eq_bind, Option.bind_eq_some_iff]
      constructor
      · rintro ⟨next, hnext, hrest⟩
        obtain ⟨d, hd, hnext⟩ := Option.bind_eq_some_iff.mp hnext
        obtain ⟨hlt, hnext⟩ := Option.ite_none_right_eq_some.mp hnext
        obtain rfl := Option.some.inj hnext
        obtain ⟨digits, hdigits, hn⟩ := ih.mp hrest
        exact ⟨d :: digits, .cons ⟨hd, hlt⟩ hdigits, (hvalue d digits).symm.trans hn⟩
      · rintro ⟨_, hdigits, hn⟩
        obtain ⟨d, digits, ⟨hd, hlt⟩, hrest, rfl⟩ := List.forall₂_cons_left_iff.mp hdigits
        refine ⟨m * base + d, ?_, ih.mpr ⟨digits, hrest, (hvalue d digits).trans hn⟩⟩
        rw [pushDigit, hd, Option.bind_some, if_pos hlt]

theorem readDigits_eq_some_iff {base n : ℕ} {cs : List Char} :
    readDigits base cs = some n ↔ IsNumeral base cs n := by
  rw [readDigits, Option.ite_none_left_eq_some, foldlM_pushDigit_eq_some_iff, IsNumeral,
    List.isEmpty_iff]
  simp only [Nat.zero_mul, Nat.zero_add, ne_eq]

theorem readUnsigned_eq_some_iff {cs : List Char} {n : ℕ} :
    readUnsigned cs = some n ↔ IsUnsigned cs n := by
  constructor
  · intro h
    rw [readUnsigned.eq_def] at h
    split at h
    · exact .hexadecimal (readDigits_eq_some_iff.mp h)
    · exact .octal (readDigits_eq_some_iff.mp h)
    · exact .binary (readDigits_eq_some_iff.mp h)
    · cases h
    · rename_i hmore
      refine .decimal (readDigits_eq_some_iff.mp h) ?_
      intro hzero
      obtain ⟨rest, rfl⟩ := List.head?_eq_some_iff.mp hzero
      cases rest with
      | nil => rfl
      | cons c rest => exact absurd rfl (hmore c rest)
  · intro h
    cases h with
    | hexadecimal h => exact readDigits_eq_some_iff.mpr h
    | octal h => exact readDigits_eq_some_iff.mpr h
    | binary h => exact readDigits_eq_some_iff.mpr h
    | decimal h hzero =>
        rw [readUnsigned.eq_def]
        split
        · cases hzero rfl
        · cases hzero rfl
        · cases hzero rfl
        · cases hzero rfl
        · exact readDigits_eq_some_iff.mpr h

theorem IsUnsigned.head {cs : List Char} {n : ℕ} (h : IsUnsigned cs n) :
    ∀ c ∈ cs.head?, c ≠ '+' := by
  cases h with
  | hexadecimal | octal | binary => simp
  | decimal h hzero =>
      obtain ⟨-, digits, hdigits, -⟩ := h
      rintro c hc rfl
      obtain ⟨rest, rfl⟩ := List.head?_eq_some_iff.mp hc
      obtain ⟨d, -, ⟨hd, -⟩, -⟩ := List.forall₂_cons_left_iff.mp hdigits
      cases hd

theorem exists_dropPlus (cs : List Char) :
    ∃ sign, (sign = [] ∨ sign = ['+']) ∧ cs = sign ++ dropPlus cs := by
  rw [dropPlus.eq_def]
  split
  · exact ⟨['+'], .inr rfl, rfl⟩
  · exact ⟨[], .inl rfl, rfl⟩

theorem dropPlus_append {sign cs : List Char} (hsign : sign = [] ∨ sign = ['+'])
    (hcs : ∀ c ∈ cs.head?, c ≠ '+') : dropPlus (sign ++ cs) = cs := by
  rcases hsign with rfl | rfl
  · rw [List.nil_append, dropPlus.eq_def]
    split
    · exact absurd rfl (hcs '+' rfl)
    · rfl
  · rfl

theorem nat_eq_some_iff {bound n : ℕ} {scalar : Scalar} :
    scalar.nat bound = some n ↔ n < bound ∧ IsNatural scalar n := by
  have hread : scalar.nat bound = some n ↔
      MayBe "int" scalar ∧ IsUnsigned (dropPlus scalar.text) n ∧ n < bound := by
    rw [← isReadAs_iff, ← readUnsigned_eq_some_iff, nat]
    cases scalar.isReadAs "int" with
    | false => simp
    | true =>
        cases readUnsigned (dropPlus scalar.text) with
        | none => simp
        | some m =>
            simp only [Bool.not_true, Bool.false_eq_true, if_false, Option.bind_eq_bind,
              Option.bind_some, Option.ite_none_right_eq_some, Option.some.injEq, true_and]
            constructor
            · rintro ⟨hlt, rfl⟩
              exact ⟨rfl, hlt⟩
            · rintro ⟨rfl, hlt⟩
              exact ⟨hlt, rfl⟩
  rw [hread]
  constructor
  · rintro ⟨hmay, hdigits, hlt⟩
    obtain ⟨sign, hsign, htext⟩ := exists_dropPlus scalar.text
    exact ⟨hlt, .intro hmay htext hsign hdigits⟩
  · rintro ⟨hlt, hmay, htext, hsign, hdigits⟩
    rw [htext, dropPlus_append hsign hdigits.head]
    exact ⟨hmay, hdigits, hlt⟩

/-! ## Binary numbers -/

/-- A word for infinity or for what is no number, or a decimal number, which stands for the binary
number that it rounds to. -/
inductive IsFloatText : List Char → Binary64 → Prop
  | infinite {sign word : List Char} (hsign : sign = [] ∨ sign = ['+'])
      (h : String.ofList word ∈ [".inf", ".Inf", ".INF"]) : IsFloatText (sign ++ word) (.infinite false)
  | minusInfinite {word : List Char} (h : String.ofList word ∈ ["-.inf", "-.Inf", "-.INF"]) :
      IsFloatText word (.infinite true)
  | nan {word : List Char} (h : String.ofList word ∈ [".nan", ".NaN", ".NAN"]) : IsFloatText word .nan
  | decimal {sign cs : List Char} {q : ℚ} {units : ℕ} (hsign : sign = [] ∨ sign = ['+'])
      (h : Binary64.IsDecimal cs q) (hround : Binary64.RoundsTo (q * Binary64.one) units)
      (hfinite : units < Binary64.limit) : IsFloatText (sign ++ cs) (.finite false units)
  | minusDecimal {cs : List Char} {q : ℚ} {units : ℕ} (h : Binary64.IsDecimal cs q)
      (hround : Binary64.RoundsTo (q * Binary64.one) units) (hfinite : units < Binary64.limit) :
      IsFloatText ('-' :: cs) (.finite true units)

inductive IsFloat (scalar : Scalar) (value : Binary64) : Prop
  | intro (h : MayBe "float" scalar) (htext : IsFloatText scalar.text value)

theorem IsFloatText.of_readFloat {text : List Char} {value : Binary64}
    (h : readFloat text = some value) : IsFloatText text value := by
  obtain ⟨sign, hsign, htext⟩ := exists_dropPlus text
  rw [readFloat] at h
  generalize dropPlus text = number at h htext
  obtain ⟨hone, h⟩ := Option.ite_none_left_eq_some.mp h
  simp only [List.contains_iff_mem] at h
  split at h
  · rename_i hword
    obtain rfl := Option.some.inj h
    exact htext ▸ .infinite hsign hword
  split at h
  · rename_i hword
    obtain rfl := Option.some.inj h
    exact .minusInfinite hword
  split at h
  · rename_i hword
    obtain rfl := Option.some.inj h
    exact .nan hword
  -- whatever is left is finite, and has one sign at most
  obtain ⟨h, hfinite⟩ := Option.filter_eq_some_iff.mp h
  cases value with
  | nan => cases hfinite
  | infinite negative => cases hfinite
  | finite negative units =>
      rw [Binary64.read.eq_def] at h
      split at h
      · obtain ⟨rfl, q, hdecimal, hround, hlt⟩ := Binary64.readMagnitude_eq_finite_iff.mp h
        rcases hsign with rfl | rfl
        · exact htext ▸ .minusDecimal hdecimal hround hlt
        · exact absurd ⟨by rw [htext]; rfl, rfl⟩ hone
      · rcases hsign with rfl | rfl <;> exact absurd ⟨by rw [htext]; rfl, rfl⟩ hone
      · obtain ⟨rfl, q, hdecimal, hround, hlt⟩ := Binary64.readMagnitude_eq_finite_iff.mp h
        exact htext ▸ .decimal hsign hdecimal hround hlt

theorem not_mem_words {text : List Char} {words : List String} (h : ∀ c ∈ text, c.toLower ≠ 'n')
    (hwords : words.all (·.toList.any (·.toLower == 'n')) = true) : String.ofList text ∉ words := by
  intro htext
  obtain ⟨c, hc, hlower⟩ := List.any_eq_true.mp (List.all_eq_true.mp hwords _ htext)
  rw [String.toList_ofList] at hc
  exact h c hc (beq_iff_eq.mp hlower)

theorem readFloat_of_finite {sign number : List Char} {negative : Bool} {units : ℕ}
    (hsign : sign = [] ∨ sign = ['+']) (hplus : ∀ c ∈ number.head?, c ≠ '+')
    (hone : sign = [] ∨ ∀ c ∈ number.head?, c ≠ '-') (hlower : ∀ c ∈ number, c.toLower ≠ 'n')
    (hread : Binary64.read number = some (.finite negative units)) :
    readFloat (sign ++ number) = some (.finite negative units) := by
  have hsigns : ¬((sign ++ number).head? = some '+' ∧ number.head?.any isSign = true) := by
    rintro ⟨hhead, hany⟩
    obtain ⟨c, hc, hcsign⟩ := (Option.any_eq_true _ _).mp hany
    rcases hone with rfl | hminus
    · exact hplus '+' hhead rfl
    · simp [isSign, hplus c hc, hminus c hc] at hcsign
  have hall : ∀ c ∈ sign ++ number, c.toLower ≠ 'n' := by
    intro c hc
    rcases List.mem_append.mp hc with hc | hc
    · rcases hsign with rfl | rfl
      · cases hc
      · obtain rfl := List.mem_singleton.mp hc
        decide
    · exact hlower c hc
  rw [readFloat, dropPlus_append hsign hplus, if_neg hsigns]
  simp only [List.contains_iff_mem]
  rw [if_neg (not_mem_words hlower (by decide)), if_neg (not_mem_words hall (by decide)),
    if_neg (not_mem_words hall (by decide)), hread]
  rfl

theorem IsFloatText.readFloat {text : List Char} {value : Binary64} (h : IsFloatText text value) :
    readFloat text = some value := by
  cases h with
  | @infinite sign word hsign h =>
      have hwords : ∀ sign ∈ [[], ['+']], ∀ word ∈ [".inf", ".Inf", ".INF"],
          Scalar.readFloat (sign ++ word.toList) = some (.infinite false) := by decide
      rw [← @String.toList_ofList word]
      exact hwords sign (by simpa using hsign) _ h
  | minusInfinite h =>
      have hwords : ∀ word ∈ ["-.inf", "-.Inf", "-.INF"],
          Scalar.readFloat word.toList = some (.infinite true) := by decide
      rw [← @String.toList_ofList text]
      exact hwords _ h
  | nan h =>
      have hwords : ∀ word ∈ [".nan", ".NaN", ".NAN"],
          Scalar.readFloat word.toList = some .nan := by decide
      rw [← @String.toList_ofList text]
      exact hwords _ h
  | @decimal sign cs q units hsign h hround hfinite =>
      have hplus : ∀ c ∈ cs.head?, c ≠ '+' := fun c hc => (h.head_ne c hc).1
      have hminus : ∀ c ∈ cs.head?, c ≠ '-' := fun c hc => (h.head_ne c hc).2
      refine readFloat_of_finite hsign hplus (.inr hminus) h.toLower_ne ?_
      rw [Binary64.read.eq_def]
      split
      · exact absurd rfl (hminus '-' rfl)
      · exact absurd rfl (hplus '+' rfl)
      · exact Binary64.readMagnitude_eq_finite_iff.mpr ⟨rfl, q, h, hround, hfinite⟩
  | @minusDecimal cs q units h hround hfinite =>
      have hlower : ∀ c ∈ '-' :: cs, c.toLower ≠ 'n' := by
        rintro c (_ | ⟨_, hc⟩)
        · decide
        · exact h.toLower_ne c hc
      have hplus : ∀ c ∈ ('-' :: cs).head?, c ≠ '+' := by
        rintro c ⟨⟩
        decide
      exact @readFloat_of_finite [] _ _ _ (.inl rfl) hplus (.inl rfl) hlower
        (Binary64.readMagnitude_eq_finite_iff.mpr ⟨rfl, q, h, hround, hfinite⟩)

theorem float_eq_some_iff {scalar : Scalar} {value : Binary64} :
    scalar.float = some value ↔ IsFloat scalar value := by
  rw [float, Option.ite_none_right_eq_some, isReadAs_iff]
  constructor
  · rintro ⟨hmay, h⟩
    exact ⟨hmay, .of_readFloat h⟩
  · rintro ⟨hmay, h⟩
    exact ⟨hmay, h.readFloat⟩

end BookFinder.Yaml.Scalar
