import BookFinder.Proofs.Entries
import BookFinder.Text.Utf8
import Mathlib.Data.List.Basic

/-! # UTF-8 reads what it writes, and nothing else -/

namespace BookFinder.Text.Utf8

theorem toNat_byte {n : Nat} (h : n < 256) : (UInt8.ofNat n).toNat = n :=
  UInt8.toNat_ofNat_of_lt' h

theorem tailBits_byte {range : Nat × Nat} {n : Nat} (hn : n < 64) (hlow : range.1 ≤ 0x80 + n)
    (hhigh : 0x80 + n ≤ range.2) (bytes : List UInt8) :
    tailBits range (.ofNat (0x80 + n) :: bytes) = some (n, bytes) := by
  have hbyte : (UInt8.ofNat (0x80 + n)).toNat = 0x80 + n := toNat_byte (by omega)
  rw [tailBits, hbyte, if_pos ⟨hlow, hhigh⟩, Nat.add_sub_cancel_left]

/-- The limits of the second byte leave room for every character that takes so many bytes. -/
theorem secondByteRange_of_three {n : Nat} (hlow : 0x800 ≤ n) (hhigh : n < 0x10000)
    (hvalid : n < 0xD800 ∨ 0xDFFF < n) :
    (secondByteRange (0xE0 + n / 4096)).1 ≤ 0x80 + n / 64 % 64 ∧
      0x80 + n / 64 % 64 ≤ (secondByteRange (0xE0 + n / 4096)).2 := by
  rw [secondByteRange]
  split
  · dsimp only
    omega
  · split
    · dsimp only
      omega
    · rw [if_neg (by omega), if_neg (by omega)]
      dsimp only
      omega

theorem secondByteRange_of_four {n : Nat} (hlow : 0x10000 ≤ n) (hhigh : n < 0x110000) :
    (secondByteRange (0xF0 + n / 262144)).1 ≤ 0x80 + n / 4096 % 64 ∧
      0x80 + n / 4096 % 64 ≤ (secondByteRange (0xF0 + n / 262144)).2 := by
  rw [secondByteRange, if_neg (by omega), if_neg (by omega)]
  split
  · dsimp only
    omega
  · split
    · dsimp only
      omega
    · dsimp only
      omega

theorem toNat_lt (c : Char) : c.toNat < 0x110000 := by
  have hvalid := c.valid
  simp only [UInt32.isValidChar, Nat.isValidChar] at hvalid
  change c.val.toNat < 0x110000
  omega

theorem not_surrogate (c : Char) : c.toNat < 0xD800 ∨ 0xDFFF < c.toNat := by
  have hvalid := c.valid
  simp only [UInt32.isValidChar, Nat.isValidChar] at hvalid
  change c.val.toNat < 0xD800 ∨ 0xDFFF < c.val.toNat
  omega

/-- The bytes of a character are its piece, whatever follows. -/
theorem piecesAfter_encodeChar (c : Char) (bytes : List UInt8) :
    piecesAfter 0 (encodeChar c ++ bytes) =
      .char c (encodeChar c).length :: piecesAfter 0 bytes := by
  have hbound := toNat_lt c
  have hvalid := not_surrogate c
  have hchar : Char.ofNat c.toNat = c := Char.ofNat_toNat c
  have htail {n : Nat} (hn : n < 64) (rest : List UInt8) :
      tailBits (0x80, 0xBF) (.ofNat (0x80 + n) :: rest) = some (n, rest) := by
    apply tailBits_byte hn
    · dsimp only
      omega
    · dsimp only
      omega
  by_cases h1 : c.toNat < 0x80
  · have hfirst : (UInt8.ofNat c.toNat).toNat = c.toNat := toNat_byte (by omega)
    simp only [encodeChar, if_pos h1, List.cons_append, List.nil_append, piecesAfter, headPiece,
      hfirst, hchar]
    rfl
  by_cases h2 : c.toNat < 0x800
  · have hfirst : (UInt8.ofNat (0xC0 + c.toNat / 64)).toNat = 0xC0 + c.toNat / 64 :=
      toNat_byte (by omega)
    have hsecond : secondByteRange (0xC0 + c.toNat / 64) = (0x80, 0xBF) := by
      rw [secondByteRange, if_neg (by omega), if_neg (by omega), if_neg (by omega),
        if_neg (by omega)]
    have hvalue : (0xC0 + c.toNat / 64 - 0xC0) * 64 + c.toNat % 64 = c.toNat := by omega
    have hpiece : headPiece (0xC0 + c.toNat / 64) (.ofNat (0x80 + c.toNat % 64) :: bytes) =
        .char c 2 := by
      rw [headPiece, if_neg (by omega), if_neg (by omega), hsecond, htail (by omega)]
      simp only [if_pos (show 0xC0 + c.toNat / 64 < 0xE0 by omega), hvalue, hchar]
    simp only [encodeChar, if_neg h1, if_pos h2, List.cons_append, List.nil_append, piecesAfter,
      hfirst, hpiece]
    rfl
  by_cases h3 : c.toNat < 0x10000
  · have hfirst : (UInt8.ofNat (0xE0 + c.toNat / 4096)).toNat = 0xE0 + c.toNat / 4096 :=
      toNat_byte (by omega)
    have hrange := secondByteRange_of_three (by omega) h3 hvalid
    have hsecond := tailBits_byte (Nat.mod_lt _ (by omega)) hrange.1 hrange.2
    have hvalue : ((0xE0 + c.toNat / 4096 - 0xE0) * 64 + c.toNat / 64 % 64) * 64 + c.toNat % 64 =
        c.toNat := by omega
    have hpiece : headPiece (0xE0 + c.toNat / 4096)
        (.ofNat (0x80 + c.toNat / 64 % 64) :: .ofNat (0x80 + c.toNat % 64) :: bytes) =
          .char c 3 := by
      rw [headPiece, if_neg (by omega), if_neg (by omega), hsecond]
      simp only [if_neg (show ¬ 0xE0 + c.toNat / 4096 < 0xE0 by omega),
        if_pos (show 0xE0 + c.toNat / 4096 < 0xF0 by omega),
        htail (show c.toNat % 64 < 64 by omega), hvalue, hchar]
    simp only [encodeChar, if_neg h1, if_neg h2, if_pos h3, List.cons_append, List.nil_append,
      piecesAfter, hfirst, hpiece]
    rfl
  · have hfirst : (UInt8.ofNat (0xF0 + c.toNat / 262144)).toNat = 0xF0 + c.toNat / 262144 :=
      toNat_byte (by omega)
    have hrange := secondByteRange_of_four (Nat.not_lt.mp h3) hbound
    have hsecond := tailBits_byte (Nat.mod_lt _ (by omega)) hrange.1 hrange.2
    have hvalue : (((0xF0 + c.toNat / 262144 - 0xF0) * 64 + c.toNat / 4096 % 64) * 64 +
        c.toNat / 64 % 64) * 64 + c.toNat % 64 = c.toNat := by omega
    have hpiece : headPiece (0xF0 + c.toNat / 262144)
        (.ofNat (0x80 + c.toNat / 4096 % 64) :: .ofNat (0x80 + c.toNat / 64 % 64) ::
          .ofNat (0x80 + c.toNat % 64) :: bytes) = .char c 4 := by
      rw [headPiece, if_neg (by omega), if_neg (by omega), hsecond]
      simp only [if_neg (show ¬ 0xF0 + c.toNat / 262144 < 0xE0 by omega),
        if_neg (show ¬ 0xF0 + c.toNat / 262144 < 0xF0 by omega),
        htail (show c.toNat / 64 % 64 < 64 by omega), htail (show c.toNat % 64 < 64 by omega),
        hvalue, hchar]
    simp only [encodeChar, if_neg h1, if_neg h2, if_neg h3, List.cons_append, List.nil_append,
      piecesAfter, hfirst, hpiece]
    rfl

theorem pieces_encode (cs : List Char) :
    pieces (encode cs) = cs.map fun c => .char c (encodeChar c).length := by
  induction cs with
  | nil => rfl
  | cons c cs ih =>
      rw [pieces, encode, List.flatMap_cons, piecesAfter_encodeChar, List.map_cons]
      exact congrArg (Piece.char c (encodeChar c).length :: ·) ih

theorem decode?_encode (cs : List Char) : decode? (encode cs) = some cs := by
  rw [decode?, pieces_encode]
  induction cs with
  | nil => rfl
  | cons c cs ih => rw [List.map_cons, List.mapM_cons, ih]; rfl

theorem decodeLenient_encode (cs : List Char) : decodeLenient (encode cs) = cs := by
  rw [decodeLenient, pieces_encode, List.map_map]
  exact List.map_id cs

theorem one_le_length_encodeChar (c : Char) : 1 ≤ (encodeChar c).length := by
  rw [encodeChar]
  split_ifs <;> simp

theorem length_le_length_encode (cs : List Char) : cs.length ≤ (encode cs).length := by
  induction cs with
  | nil => exact Nat.zero_le _
  | cons c cs ih =>
      have hfirst := one_le_length_encodeChar c
      rw [encode] at ih
      rw [encode, List.flatMap_cons, List.length_append, List.length_cons]
      omega

/-! ## Only what is written is read -/

theorem tailBits_eq_some {range : Nat × Nat} {bytes rest : List UInt8} {n : Nat}
    (hlow : 0x80 ≤ range.1) (h : tailBits range bytes = some (n, rest)) :
    bytes = .ofNat (0x80 + n) :: rest ∧ range.1 ≤ 0x80 + n ∧ 0x80 + n ≤ range.2 := by
  cases bytes with
  | nil => cases h
  | cons b bytes =>
      rw [tailBits] at h
      split at h
      · rename_i hrange
        obtain ⟨rfl, rfl⟩ := Prod.mk.inj (Option.some.inj h)
        have hvalue : 0x80 + (b.toNat - 0x80) = b.toNat := by omega
        rw [hvalue, UInt8.ofNat_toNat]
        exact ⟨rfl, hrange⟩
      · cases h

/-- The limits of the second byte keep out long forms, surrogates and what lies beyond U+10FFFF. -/
theorem secondByteRange_bounds (first : Nat) :
    0x80 ≤ (secondByteRange first).1 ∧ (secondByteRange first).2 ≤ 0xBF ∧
      (first = 0xE0 → 0xA0 ≤ (secondByteRange first).1) ∧
      (first = 0xED → (secondByteRange first).2 ≤ 0x9F) ∧
      (first = 0xF0 → 0x90 ≤ (secondByteRange first).1) ∧
      (first = 0xF4 → (secondByteRange first).2 ≤ 0x8F) := by
  simp only [secondByteRange]
  split
  · dsimp only
    omega
  · split
    · dsimp only
      omega
    · split
      · dsimp only
        omega
      · split <;> dsimp only <;> omega

theorem toNat_ofNat {n : Nat} (hbound : n < 0x110000) (h : n < 0xD800 ∨ 0xDFFF < n) :
    (Char.ofNat n).toNat = n := by
  have hvalid : n.isValidChar := by
    rw [Nat.isValidChar]
    omega
  rw [Char.ofNat, dif_pos hvalid]
  rfl

section Bytes

variable {first b c d : Nat}

theorem encodeChar_one (h : first < 0x80) : encodeChar (Char.ofNat first) = [.ofNat first] := by
  rw [encodeChar, toNat_ofNat (by omega) (by omega), if_pos h]

theorem encodeChar_two (hlow : 0xC2 ≤ first) (hhigh : first < 0xE0) (hb : b < 64) :
    encodeChar (Char.ofNat ((first - 0xC0) * 64 + b)) = [.ofNat first, .ofNat (0x80 + b)] := by
  rw [encodeChar, toNat_ofNat (by omega) (by omega), if_neg (by omega), if_pos (by omega)]
  have hfirst : 0xC0 + ((first - 0xC0) * 64 + b) / 64 = first := by omega
  have hsecond : ((first - 0xC0) * 64 + b) % 64 = b := by omega
  rw [hfirst, hsecond]

theorem encodeChar_three (hlow : 0xE0 ≤ first) (hhigh : first < 0xF0)
    (hb : (secondByteRange first).1 ≤ 0x80 + b ∧ 0x80 + b ≤ (secondByteRange first).2)
    (hc : c < 64) :
    encodeChar (Char.ofNat (((first - 0xE0) * 64 + b) * 64 + c)) =
      [.ofNat first, .ofNat (0x80 + b), .ofNat (0x80 + c)] := by
  have hrange := secondByteRange_bounds first
  rw [encodeChar, toNat_ofNat (by omega) (by omega), if_neg (by omega), if_neg (by omega),
    if_pos (by omega)]
  have hfirst : 0xE0 + (((first - 0xE0) * 64 + b) * 64 + c) / 4096 = first := by omega
  have hsecond : (((first - 0xE0) * 64 + b) * 64 + c) / 64 % 64 = b := by omega
  have hthird : (((first - 0xE0) * 64 + b) * 64 + c) % 64 = c := by omega
  rw [hfirst, hsecond, hthird]

theorem encodeChar_four (hlow : 0xF0 ≤ first) (hhigh : first ≤ 0xF4)
    (hb : (secondByteRange first).1 ≤ 0x80 + b ∧ 0x80 + b ≤ (secondByteRange first).2)
    (hc : c < 64) (hd : d < 64) :
    encodeChar (Char.ofNat ((((first - 0xF0) * 64 + b) * 64 + c) * 64 + d)) =
      [.ofNat first, .ofNat (0x80 + b), .ofNat (0x80 + c), .ofNat (0x80 + d)] := by
  have hrange := secondByteRange_bounds first
  rw [encodeChar, toNat_ofNat (by omega) (by omega), if_neg (by omega), if_neg (by omega),
    if_neg (by omega)]
  have hfirst : 0xF0 + ((((first - 0xF0) * 64 + b) * 64 + c) * 64 + d) / 262144 = first := by omega
  have hsecond : ((((first - 0xF0) * 64 + b) * 64 + c) * 64 + d) / 4096 % 64 = b := by omega
  have hthird : ((((first - 0xF0) * 64 + b) * 64 + c) * 64 + d) / 64 % 64 = c := by omega
  have hfourth : ((((first - 0xF0) * 64 + b) * 64 + c) * 64 + d) % 64 = d := by omega
  rw [hfirst, hsecond, hthird, hfourth]

end Bytes

/-- A piece that is a character is made of the bytes of the character. -/
theorem encodeChar_of_headPiece {first : UInt8} {bytes : List UInt8} {c : Char} {n : Nat}
    (h : headPiece first.toNat bytes = .char c n) :
    ∃ tail rest, encodeChar c = first :: tail ∧ bytes = tail ++ rest ∧ n = tail.length + 1 := by
  have hrange := secondByteRange_bounds first.toNat
  have hsame : UInt8.ofNat first.toNat = first := UInt8.ofNat_toNat
  have htail {bytes rest : List UInt8} {n : Nat} (h : tailBits (0x80, 0xBF) bytes = some (n, rest)) :
      bytes = .ofNat (0x80 + n) :: rest ∧ n < 64 := by
    obtain ⟨hbytes, -, hhigh⟩ := tailBits_eq_some (Nat.le_refl _) h
    dsimp only at hhigh
    exact ⟨hbytes, by omega⟩
  rw [headPiece] at h
  split at h
  · rename_i hone
    obtain ⟨rfl, rfl⟩ := Piece.char.inj h
    rw [encodeChar_one hone, hsame]
    exact ⟨[], bytes, rfl, rfl, rfl⟩
  split at h
  · cases h
  split at h
  · cases h
  rename_i b rest hb
  obtain ⟨rfl, hsecond⟩ := tailBits_eq_some hrange.1 hb
  split at h
  · rename_i htwo
    obtain ⟨rfl, rfl⟩ := Piece.char.inj h
    rw [encodeChar_two (by omega) htwo (by omega), hsame]
    exact ⟨[_], rest, rfl, rfl, rfl⟩
  split at h
  · cases h
  rename_i d rest hd
  obtain ⟨rfl, hthird⟩ := htail hd
  split at h
  · rename_i hthree
    obtain ⟨rfl, rfl⟩ := Piece.char.inj h
    rw [encodeChar_three (by omega) hthree hsecond hthird, hsame]
    exact ⟨[_, _], rest, rfl, rfl, rfl⟩
  split at h
  · cases h
  rename_i e rest he
  obtain ⟨rfl, hfourth⟩ := htail he
  obtain ⟨rfl, rfl⟩ := Piece.char.inj h
  rw [encodeChar_four (by omega) (by omega) hsecond hthird hfourth, hsame]
  exact ⟨[_, _, _], rest, rfl, rfl, rfl⟩

theorem piecesAfter_skip (skipped bytes : List UInt8) :
    piecesAfter skipped.length (skipped ++ bytes) = pieces bytes := by
  induction skipped with
  | nil => rfl
  | cons b skipped ih => exact ih

/-- Bytes whose pieces are all characters are the bytes of these characters. -/
theorem encode_of_pieces {bytes : List UInt8} {cs : List Char}
    (h : List.Forall₂ (fun piece c => piece.char? = some c) (pieces bytes) cs) :
    encode cs = bytes := by
  induction cs generalizing bytes with
  | nil =>
      cases bytes with
      | nil => rfl
      | cons first bytes => cases h
  | cons c cs ih =>
      cases bytes with
      | nil => cases h
      | cons first bytes =>
          rw [pieces, piecesAfter, List.forall₂_cons] at h
          obtain ⟨hfirst, hmore⟩ := h
          cases hpiece : headPiece first.toNat bytes with
          | broken n =>
              rw [hpiece] at hfirst
              cases hfirst
          | char d n =>
              rw [hpiece] at hfirst hmore
              obtain rfl : d = c := Option.some.inj hfirst
              obtain ⟨tail, rest, hchar, rfl, rfl⟩ := encodeChar_of_headPiece hpiece
              rw [Piece.length, Nat.add_sub_cancel, piecesAfter_skip] at hmore
              rw [encode, List.flatMap_cons, hchar, List.cons_append]
              exact congrArg (first :: tail ++ ·) (ih hmore)

theorem decode?_eq_some_iff {bytes : List UInt8} {cs : List Char} :
    decode? bytes = some cs ↔ encode cs = bytes := by
  constructor
  · intro h
    exact encode_of_pieces (mapM_eq_some_iff.mp h)
  · rintro rfl
    exact decode?_encode cs

end BookFinder.Text.Utf8
