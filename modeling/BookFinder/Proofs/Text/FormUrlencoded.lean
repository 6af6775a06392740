import BookFinder.Proofs.Text.Percent

/-! # Form data reads what it writes

Any texts can be keys and values: what would end them is escaped. -/

namespace BookFinder.Text.FormUrlencoded

/-! ## Writing form data -/

def isKept (c : Char) : Bool := c.isAlphanum || c == '*' || c == '-' || c == '.' || c == '_'

/-- A key or a value: a space is a plus sign, and all else that is not kept is escaped. -/
def encodeText (cs : List Char) : List Char :=
  (Percent.encode (fun c => !(isKept c || c == ' ')) cs).map fun c => if c = ' ' then '+' else c

def encodePair (pair : List Char × List Char) : List Char :=
  encodeText pair.1 ++ '=' :: encodeText pair.2

def encode (pairs : List (List Char × List Char)) : List Char := joinWith '&' (pairs.map encodePair)

/-! ## What is written -/

/-- Besides the characters that are kept there are only the signs for escapes and for spaces. -/
theorem encodeText_forall {P : Char → Prop} (hkept : ∀ c, isKept c = true → P c) (hmark : P '%')
    (hplus : P '+') {cs : List Char} {c : Char} (hc : c ∈ encodeText cs) : P c := by
  obtain ⟨d, hd, rfl⟩ := List.mem_map.mp hc
  have hdigits : ∀ n < 16, isKept (upperHexDigit n) = true := by decide
  split_ifs with hspace
  · exact hplus
  · refine (Percent.encode_forall (P := fun e => e = ' ' ∨ P e) (.inr hmark)
      (fun n hn => .inr (hkept _ (hdigits n hn))) ?_ hd).resolve_left hspace
    intro e _ he
    simp only [Bool.not_eq_false', Bool.or_eq_true, beq_iff_eq] at he
    exact he.symm.imp_right (hkept e)

theorem not_mem_encodeText {c : Char} (hkept : isKept c = false) (hmark : c ≠ '%') (hplus : c ≠ '+')
    (cs : List Char) : c ∉ encodeText cs := by
  intro hc
  refine encodeText_forall (P := (· ≠ c)) ?_ hmark.symm hplus.symm hc rfl
  rintro d hd rfl
  simp [hd] at hkept

theorem encodePair_forall {P : Char → Prop} (hkept : ∀ c, isKept c = true → P c) (hmark : P '%')
    (hplus : P '+') (hequals : P '=') {pair : List Char × List Char} {c : Char}
    (hc : c ∈ encodePair pair) : P c := by
  rw [encodePair, List.mem_append, List.mem_cons] at hc
  rcases hc with hc | rfl | hc
  · exact encodeText_forall hkept hmark hplus hc
  · exact hequals
  · exact encodeText_forall hkept hmark hplus hc

theorem encode_forall {P : Char → Prop} (hkept : ∀ c, isKept c = true → P c) (hmark : P '%')
    (hplus : P '+') (hequals : P '=') (hand : P '&') {pairs : List (List Char × List Char)}
    {c : Char} (hc : c ∈ encode pairs) : P c := by
  induction pairs with
  | nil => cases hc
  | cons pair pairs ih =>
      cases pairs with
      | nil => exact encodePair_forall hkept hmark hplus hequals hc
      | cons next pairs =>
          rw [encode, List.map_cons, joinWith_cons _ _ (by simp), List.mem_append,
            List.mem_cons] at hc
          rcases hc with hc | rfl | hc
          · exact encodePair_forall hkept hmark hplus hequals hc
          · exact hand
          · exact ih hc

/-! ## Reading it back -/

theorem decodeText_encodeText (cs : List Char) : decodeText (encodeText cs) = cs := by
  have hplus : '+' ∉ Percent.encode (fun c => !(isKept c || c == ' ')) cs := by
    intro hmem
    refine Percent.encode_forall (P := (· ≠ '+')) (by decide) (by decide) ?_ hmem rfl
    rintro d - hd rfl
    exact absurd hd (by decide)
  have hmap : (encodeText cs).map (fun c => if c = '+' then ' ' else c) =
      Percent.encode (fun c => !(isKept c || c == ' ')) cs := by
    rw [encodeText, List.map_map]
    refine (List.map_congr_left ?_).trans (List.map_id _)
    intro c hc
    by_cases hspace : c = ' '
    · simp [hspace]
    · have hne : c ≠ '+' := by
        rintro rfl
        exact hplus hc
      simp [hspace, hne]
  rw [decodeText, hmap, Percent.decodeLenient_encode (by decide)]

theorem decodePair_encodePair (pair : List Char × List Char) :
    decodePair (encodePair pair) = pair := by
  have hname : '=' ∉ encodeText pair.1 :=
    not_mem_encodeText (by decide) (by decide) (by decide) pair.1
  obtain ⟨htake, hdrop⟩ := span_bne_append hname (encodeText pair.2)
  rw [decodePair, encodePair, htake, hdrop, List.drop_one, List.tail_cons, decodeText_encodeText,
    decodeText_encodeText]

theorem decode_encode (pairs : List (List Char × List Char)) : decode (encode pairs) = pairs := by
  cases pairs with
  | nil => rfl
  | cons pair rest =>
      have hparts : ∀ part ∈ (pair :: rest).map encodePair, '&' ∉ part := by
        intro part hpart hmem
        obtain ⟨written, -, rfl⟩ := List.mem_map.mp hpart
        refine encodePair_forall (P := (· ≠ '&')) ?_ (by decide) (by decide) (by decide) hmem rfl
        rintro c hc rfl
        exact absurd hc (by decide)
      have hnonempty : ((pair :: rest).map encodePair).filter (!·.isEmpty) =
          (pair :: rest).map encodePair := by
        rw [List.filter_eq_self]
        intro part hpart
        obtain ⟨written, -, rfl⟩ := List.mem_map.mp hpart
        simp [encodePair]
      rw [decode, encode, splitAt_joinWith (by simp) hparts, hnonempty, List.map_map]
      refine (List.map_congr_left ?_).trans (List.map_id _)
      intro written _
      exact decodePair_encodePair written

end BookFinder.Text.FormUrlencoded
