import BookFinder.Proofs.Text.Utf8
import BookFinder.Text.FormUrlencoded

/-! # Percent-encoding reads what it writes -/

namespace BookFinder.Text

namespace Percent

theorem decodeBytes_encodeByte (b : UInt8) (cs : List Char) :
    decodeBytes (encodeByte b ++ cs) = b :: decodeBytes cs := by
  have hb : b.toNat < 256 := b.toNat_lt
  have hvalue : b.toNat / 16 * 16 + b.toNat % 16 = b.toNat := by omega
  have hhex : byteOfHex (upperHexDigit (b.toNat / 16)) (upperHexDigit (b.toNat % 16)) = some b := by
    rw [byteOfHex, hexValue_upperHexDigit (by omega), hexValue_upperHexDigit (by omega)]
    simp only [hvalue, UInt8.ofNat_toNat]
  simp only [encodeByte, List.cons_append, List.nil_append, decodeBytes, hhex]

theorem decodeBytes_encodeBytes (bytes : List UInt8) (cs : List Char) :
    decodeBytes (bytes.flatMap encodeByte ++ cs) = bytes ++ decodeBytes cs := by
  induction bytes with
  | nil => rfl
  | cons b bytes ih =>
      rw [List.flatMap_cons, List.append_assoc, decodeBytes_encodeByte, ih, List.cons_append]

theorem decodeBytes_cons {c : Char} (h : c ≠ '%') (cs : List Char) :
    decodeBytes (c :: cs) = Utf8.encodeChar c ++ decodeBytes cs := by
  rw [decodeBytes]
  intro high low rest
  simp [h]

section Encode

variable {escaped : Char → Bool}

theorem encode_eq_self {cs : List Char} (h : ∀ c ∈ cs, escaped c = false) :
    encode escaped cs = cs := by
  induction cs with
  | nil => rfl
  | cons c cs ih =>
      have hrest : encode escaped cs = cs := ih (fun d hd => h d (by simp [hd]))
      rw [encode] at hrest
      rw [encode, List.flatMap_cons, hrest]
      simp [h c (by simp)]

/-- Where the percent sign itself is escaped, the escapes stand for the bytes of the text. -/
theorem decodeBytes_encode (h : escaped '%' = true) (cs : List Char) :
    decodeBytes (encode escaped cs) = Utf8.encode cs := by
  induction cs with
  | nil => simp [encode, Utf8.encode, decodeBytes]
  | cons c cs ih =>
      rw [encode, List.flatMap_cons, Utf8.encode, List.flatMap_cons]
      by_cases hc : escaped c = true
      · rw [if_pos hc, decodeBytes_encodeBytes]
        exact congrArg _ ih
      · have hne : c ≠ '%' := by
          rintro rfl
          exact hc h
        rw [if_neg hc, List.singleton_append, decodeBytes_cons hne]
        exact congrArg _ ih

theorem decode?_encode (h : escaped '%' = true) (cs : List Char) :
    decode? (encode escaped cs) = some cs := by
  rw [decode?, decodeBytes_encode h, Utf8.decode?_encode]

theorem decodeLenient_encode (h : escaped '%' = true) (cs : List Char) :
    decodeLenient (encode escaped cs) = cs := by
  rw [decodeLenient, decodeBytes_encode h, Utf8.decodeLenient_encode]

/-- The characters of a text with escapes are those of the text that are left as they are, the percent
sign and hexadecimal digits. -/
theorem encode_forall {P : Char → Prop} {cs : List Char} (hmark : P '%')
    (hdigit : ∀ n < 16, P (upperHexDigit n)) (hplain : ∀ c ∈ cs, escaped c = false → P c)
    {c : Char} (hc : c ∈ encode escaped cs) : P c := by
  obtain ⟨d, hmem, hd⟩ := List.mem_flatMap.mp hc
  by_cases he : escaped d = true
  · rw [if_pos he] at hd
    obtain ⟨b, -, hb⟩ := List.mem_flatMap.mp hd
    have hlt : b.toNat < 256 := b.toNat_lt
    simp only [encodeByte, List.mem_cons, List.not_mem_nil, or_false] at hb
    rcases hb with rfl | rfl | rfl
    · exact hmark
    · exact hdigit _ (by omega)
    · exact hdigit _ (by omega)
  · rw [if_neg he] at hd
    obtain rfl := List.mem_singleton.mp hd
    exact hplain c hmem (by simpa using he)

theorem length_le_length_encode (cs : List Char) : cs.length ≤ (encode escaped cs).length := by
  induction cs with
  | nil => exact Nat.zero_le _
  | cons c cs ih =>
      have hfirst : 1 ≤ (if escaped c then (Utf8.encodeChar c).flatMap encodeByte
          else [c]).length := by
        split_ifs
        · have hbytes := Utf8.one_le_length_encodeChar c
          simp [encodeByte, List.length_flatMap]
          omega
        · simp
      rw [encode] at ih
      rw [encode, List.flatMap_cons, List.length_append, List.length_cons]
      omega

end Encode

end Percent

/-- Form data that holds no plus sign, as it writes a space otherwise, reads what was written. -/
theorem FormUrlencoded.decodeText_encode {escaped : Char → Bool} (hmark : escaped '%' = true)
    (hplus : escaped '+' = true) (cs : List Char) :
    decodeText (Percent.encode escaped cs) = cs := by
  have hno : ∀ c ∈ Percent.encode escaped cs, c ≠ '+' := by
    intro c hc
    refine Percent.encode_forall (P := (· ≠ '+')) (by decide) (by decide) ?_ hc
    rintro d - hd rfl
    simp [hplus] at hd
  have hmap : (Percent.encode escaped cs).map (fun c => if c = '+' then ' ' else c) =
      Percent.encode escaped cs := by
    refine (List.map_congr_left ?_).trans (List.map_id _)
    intro c hc
    exact if_neg (hno c hc)
  rw [decodeText, hmap, Percent.decodeLenient_encode hmark]

end BookFinder.Text
