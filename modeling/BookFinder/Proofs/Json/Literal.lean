import BookFinder.Json.Reader
import BookFinder.Text.Digits
import BookFinder.Text.Split
import Mathlib.Data.List.TakeWhile

/-! # String and number literals

How the characters of a string and the parts of a number may be written. The reader takes what is
written so and nothing else. -/

namespace BookFinder.Json

/-! ## Characters of a string -/

/-- Four hexadecimal digits of either case, and the number that they make. -/
inductive Hex4 : List Char → Nat → Prop
  | intro {a b c d : Char} {i j k l : Nat} (ha : Text.hexValue a = some i)
      (hb : Text.hexValue b = some j) (hc : Text.hexValue c = some k)
      (hd : Text.hexValue d = some l) : Hex4 [a, b, c, d] (((i * 16 + j) * 16 + k) * 16 + l)

/-- The escapes of one letter, each with the character that it writes. -/
def letterEscapes : List (Char × Char) :=
  [('"', '"'), ('\\', '\\'), ('/', '/'), ('b', '\x08'), ('f', '\x0c'), ('n', '\n'), ('r', '\r'),
    ('t', '\t')]

/-- The ways to write a character inside a string. Half of a surrogate pair writes none. -/
inductive Spells : List Char → Char → Prop
  | plain {c : Char} (hquote : c ≠ '"') (hslash : c ≠ '\\') (hcontrol : 0x20 ≤ c.toNat) :
      Spells [c] c
  | letter {mark c : Char} (h : (mark, c) ∈ letterEscapes) : Spells ['\\', mark] c
  | unit {digits : List Char} {n : Nat} (h : Hex4 digits n) (hwhole : n < 0xD800 ∨ 0xDFFF < n) :
      Spells ('\\' :: 'u' :: digits) (Char.ofNat n)
  | pair {high low : List Char} {n m : Nat} (hhigh : Hex4 high n) (hlow : Hex4 low m)
      (hn : 0xD800 ≤ n ∧ n < 0xDC00) (hm : 0xDC00 ≤ m ∧ m < 0xE000) :
      Spells ('\\' :: 'u' :: (high ++ '\\' :: 'u' :: low))
        (Char.ofNat (0x10000 + (n - 0xD800) * 0x400 + (m - 0xDC00)))

theorem Hex4.readHex4_eq {digits : List Char} {n : Nat} (h : Hex4 digits n) (cs : List Char) :
    readHex4 (digits ++ cs) = some n := by
  obtain ⟨ha, hb, hc, hd⟩ := h
  simp [readHex4, ha, hb, hc, hd]

theorem Hex4.length_eq {digits : List Char} {n : Nat} (h : Hex4 digits n) : digits.length = 4 := by
  cases h
  rfl

theorem hex4_of_readHex4 {cs : List Char} {n : Nat} (h : readHex4 cs = some n) :
    ∃ digits rest, cs = digits ++ rest ∧ Hex4 digits n := by
  rw [readHex4.eq_def] at h
  split at h
  · rename_i a b c d rest
    simp only [Option.bind_eq_bind, Option.bind_eq_some_iff] at h
    obtain ⟨i, ha, j, hb, k, hc, l, hd, hn⟩ := h
    obtain rfl := Option.some.inj hn
    exact ⟨[a, b, c, d], rest, rfl, .intro ha hb hc hd⟩
  · cases h

/-- An escape is read, and what follows it does not matter. -/
theorem Spells.readEscape_eq {written : List Char} {c : Char} (h : Spells ('\\' :: written) c)
    (cs : List Char) : readEscape (written ++ cs) = some (c, written.length) := by
  cases h with
  | plain hquote hslash hcontrol => exact absurd rfl hslash
  | letter h =>
      simp only [letterEscapes, List.mem_cons, Prod.mk.injEq, List.not_mem_nil, or_false] at h
      rcases h with ⟨rfl, rfl⟩ | ⟨rfl, rfl⟩ | ⟨rfl, rfl⟩ | ⟨rfl, rfl⟩ | ⟨rfl, rfl⟩ | ⟨rfl, rfl⟩ |
        ⟨rfl, rfl⟩ | ⟨rfl, rfl⟩ <;> rfl
  | @unit digits n h hwhole =>
      simp only [List.cons_append, readEscape, h.readHex4_eq, Option.bind_eq_bind, Option.bind_some]
      rw [if_neg (by omega), if_neg (by omega), List.length_cons, h.length_eq]
  | @pair high low n m hhigh hlow hn hm =>
      have hdrop : (high ++ '\\' :: 'u' :: (low ++ cs)).drop 4 = '\\' :: 'u' :: (low ++ cs) := by
        rw [← hhigh.length_eq, List.drop_left]
      simp only [List.cons_append, List.append_assoc, readEscape, hhigh.readHex4_eq,
        Option.bind_eq_bind, Option.bind_some]
      rw [if_pos hn, hdrop]
      simp only [hlow.readHex4_eq, Option.bind_some, if_pos hm, List.length_cons,
        List.length_append, hhigh.length_eq, hlow.length_eq]

theorem spells_of_readEscape {cs : List Char} {c : Char} {n : Nat}
    (h : readEscape cs = some (c, n)) :
    ∃ written rest, cs = written ++ rest ∧ n = written.length ∧ Spells ('\\' :: written) c := by
  have hletter {mark e : Char} {rest : List Char} (hmem : (mark, e) ∈ letterEscapes)
      (hread : some (e, 1) = some (c, n)) :
      ∃ written rest', mark :: rest = written ++ rest' ∧ n = written.length ∧
        Spells ('\\' :: written) c := by
    obtain ⟨rfl, rfl⟩ := Prod.mk.inj (Option.some.inj hread)
    exact ⟨[mark], rest, rfl, rfl, .letter hmem⟩
  rw [readEscape.eq_def] at h
  split at h
  -- the ninth case is `u`, those before it are the letters
  case h_9 =>
    obtain ⟨i, hi, hunit⟩ := Option.bind_eq_some_iff.mp h
    obtain ⟨digits, rest, rfl, hdigits⟩ := hex4_of_readHex4 hi
    rw [← hdigits.length_eq, List.drop_left] at hunit
    split at hunit
    · rename_i hhigh
      split at hunit
      · obtain ⟨j, hj, hpair⟩ := Option.bind_eq_some_iff.mp hunit
        obtain ⟨low, rest, rfl, hlow⟩ := hex4_of_readHex4 hj
        split at hpair
        · rename_i hrange
          obtain ⟨rfl, rfl⟩ := Prod.mk.inj (Option.some.inj hpair)
          refine ⟨'u' :: (digits ++ '\\' :: 'u' :: low), rest, by simp, ?_,
            .pair hdigits hlow hhigh hrange⟩
          simp [hdigits.length_eq, hlow.length_eq]
        · cases hpair
      · cases hunit
    · split at hunit
      · cases hunit
      · obtain ⟨rfl, rfl⟩ := Prod.mk.inj (Option.some.inj hunit)
        refine ⟨'u' :: digits, rest, rfl, ?_, .unit hdigits (by omega)⟩
        simp [hdigits.length_eq]
  case h_10 => cases h
  all_goals exact hletter (by decide) h

/-! ## Strings -/

/-- What stands between the quotes of a string literal, and the characters that it writes. -/
inductive SpellsAll : List Char → List Char → Prop
  | nil : SpellsAll [] []
  | cons {piece body s : List Char} {c : Char} (h : Spells piece c) (hrest : SpellsAll body s) :
      SpellsAll (piece ++ body) (c :: s)

theorem readStringAfter_skip (skipped cs : List Char) :
    readStringAfter skipped.length (skipped ++ cs) = readStringAfter 0 cs := by
  induction skipped with
  | nil => rfl
  | cons c skipped ih => exact ih

theorem readStringAfter_escape {c : Char} {written cs : List Char}
    (h : readEscape (written ++ cs) = some (c, written.length)) :
    readStringAfter 0 ('\\' :: (written ++ cs)) =
      (readStringAfter 0 cs).map fun (s, rest) => (c :: s, rest) := by
  rw [readStringAfter, if_neg (by decide), if_pos rfl, h]
  simp only [readStringAfter_skip]

theorem Spells.readStringAfter_eq {piece : List Char} {c : Char} (h : Spells piece c)
    (cs : List Char) :
    readStringAfter 0 (piece ++ cs) =
      (readStringAfter 0 cs).map fun (s, rest) => (c :: s, rest) := by
  cases h with
  | plain hquote hslash hcontrol =>
      rw [List.singleton_append, readStringAfter, if_neg hquote, if_neg hslash, if_neg (by omega)]
  | letter h => exact readStringAfter_escape (Spells.letter h |>.readEscape_eq cs)
  | unit h hwhole => exact readStringAfter_escape (Spells.unit h hwhole |>.readEscape_eq cs)
  | pair hhigh hlow hn hm =>
      exact readStringAfter_escape (Spells.pair hhigh hlow hn hm |>.readEscape_eq cs)

theorem SpellsAll.readStringAfter_eq {body s : List Char} (h : SpellsAll body s)
    (cs : List Char) : readStringAfter 0 (body ++ '"' :: cs) = some (s, cs) := by
  induction h with
  | nil => rfl
  | cons h _ ih => rw [List.append_assoc, h.readStringAfter_eq, ih, Option.map_some]

theorem readStringAfter_cases {cs s rest : List Char} (h : readStringAfter 0 cs = some (s, rest)) :
    (cs = '"' :: rest ∧ s = []) ∨
      ∃ piece more c s', cs = piece ++ more ∧ s = c :: s' ∧ Spells piece c ∧
        readStringAfter 0 more = some (s', rest) := by
  cases cs with
  | nil => simp [readStringAfter] at h
  | cons c cs =>
      rw [readStringAfter] at h
      by_cases hquote : c = '"'
      · rw [if_pos hquote] at h
        obtain ⟨rfl, rfl⟩ := Prod.mk.inj (Option.some.inj h)
        exact .inl ⟨by rw [hquote], rfl⟩
      right
      rw [if_neg hquote] at h
      by_cases hslash : c = '\\'
      · rw [if_pos hslash] at h
        split at h
        · rename_i e length hescape
          obtain ⟨⟨s', rest'⟩, hread, heq⟩ := Option.map_eq_some_iff.mp h
          obtain ⟨rfl, rfl⟩ := Prod.mk.inj heq
          obtain ⟨written, more, rfl, rfl, hspells⟩ := spells_of_readEscape hescape
          rw [readStringAfter_skip] at hread
          exact ⟨'\\' :: written, more, e, s', by rw [hslash]; rfl, rfl, hspells, hread⟩
        · cases h
      · rw [if_neg hslash] at h
        split at h
        · cases h
        · rename_i hcontrol
          obtain ⟨⟨s', rest'⟩, hread, heq⟩ := Option.map_eq_some_iff.mp h
          obtain ⟨rfl, rfl⟩ := Prod.mk.inj heq
          exact ⟨[c], cs, c, s', rfl, rfl, .plain hquote hslash (by omega), hread⟩

theorem spellsAll_of_readStringAfter {cs s rest : List Char}
    (h : readStringAfter 0 cs = some (s, rest)) :
    ∃ body, cs = body ++ '"' :: rest ∧ SpellsAll body s := by
  induction s generalizing cs with
  | nil =>
      rcases readStringAfter_cases h with ⟨rfl, -⟩ | ⟨_, _, _, _, -, hs, -⟩
      · exact ⟨[], rfl, .nil⟩
      · cases hs
  | cons c s ih =>
      rcases readStringAfter_cases h with ⟨-, hs⟩ | ⟨piece, more, _, _, hcs, hs, hpiece, hmore⟩
      · cases hs
      · obtain ⟨rfl, rfl⟩ := List.cons.inj hs
        obtain ⟨body, rfl, hbody⟩ := ih hmore
        exact ⟨piece ++ body, by rw [hcs, List.append_assoc], .cons hpiece hbody⟩

/-- A string as it may be written, quotes included. -/
inductive WritesString : List Char → String → Prop
  | intro {body s : List Char} (h : SpellsAll body s) :
      WritesString ('"' :: (body ++ ['"'])) (String.ofList s)

theorem WritesString.cons {text : List Char} {s : String} (h : WritesString text s) :
    ∃ more, text = '"' :: more := by
  obtain ⟨-⟩ := h
  exact ⟨_, rfl⟩

theorem WritesString.readString_eq {text : List Char} {s : String}
    (h : WritesString ('"' :: text) s) (cs : List Char) :
    readString (text ++ cs) = some (s, cs) := by
  generalize hwhole : '"' :: text = whole at h
  obtain ⟨hbody⟩ := h
  obtain rfl := (List.cons.inj hwhole).2
  rw [List.append_assoc, List.singleton_append, readString, hbody.readStringAfter_eq]
  rfl

theorem writesString_of_readString {cs rest : List Char} {s : String}
    (h : readString cs = some (s, rest)) :
    ∃ text, cs = text ++ rest ∧ WritesString ('"' :: text) s := by
  obtain ⟨⟨chars, rest'⟩, hread, heq⟩ := Option.map_eq_some_iff.mp h
  obtain ⟨rfl, rfl⟩ := Prod.mk.inj heq
  obtain ⟨body, rfl, hbody⟩ := spellsAll_of_readStringAfter hread
  exact ⟨body ++ ['"'], by simp, .intro hbody⟩

/-! ## Literals that are passed over -/

/-- A piece of a literal whose escapes need not be characters. -/
inductive Passes : List Char → Prop
  | plain {c : Char} (hquote : c ≠ '"') (hslash : c ≠ '\\') (hcontrol : 0x20 ≤ c.toNat) : Passes [c]
  | letter {mark c : Char} (h : (mark, c) ∈ letterEscapes) : Passes ['\\', mark]
  | unit {digits : List Char} {n : Nat} (h : Hex4 digits n) : Passes ('\\' :: 'u' :: digits)

inductive PassesAll : List Char → Prop
  | nil : PassesAll []
  | cons {piece body : List Char} (h : Passes piece) (hrest : PassesAll body) :
      PassesAll (piece ++ body)

theorem SpellsAll.passesAll {body s : List Char} (h : SpellsAll body s) : PassesAll body := by
  induction h with
  | nil => exact .nil
  | cons h _ ih =>
      cases h with
      | plain hquote hslash hcontrol => exact .cons (.plain hquote hslash hcontrol) ih
      | letter h => exact .cons (.letter h) ih
      | unit h hwhole => exact .cons (.unit h) ih
      | pair hhigh hlow hn hm =>
          have hpair := PassesAll.cons (.unit hhigh) (.cons (.unit hlow) ih)
          simpa using hpair

theorem skipStringAfter_skip (skipped cs : List Char) :
    skipStringAfter skipped.length (skipped ++ cs) = skipStringAfter 0 cs := by
  induction skipped with
  | nil => rfl
  | cons c skipped ih => exact ih

theorem Passes.skipStringAfter_eq {piece : List Char} (h : Passes piece) (cs : List Char) :
    skipStringAfter 0 (piece ++ cs) = skipStringAfter 0 cs := by
  have hescape {written : List Char}
      (hlength : escapeLength (written ++ cs) = some written.length) :
      skipStringAfter 0 ('\\' :: (written ++ cs)) = skipStringAfter 0 cs := by
    rw [skipStringAfter, if_neg (by decide), if_pos rfl, hlength]
    exact skipStringAfter_skip written cs
  cases h with
  | plain hquote hslash hcontrol =>
      rw [List.singleton_append, skipStringAfter, if_neg hquote, if_neg hslash, if_neg (by omega)]
  | @letter mark c h =>
      refine @hescape [mark] ?_
      simp only [letterEscapes, List.mem_cons, Prod.mk.injEq, List.not_mem_nil, or_false] at h
      rcases h with ⟨rfl, -⟩ | ⟨rfl, -⟩ | ⟨rfl, -⟩ | ⟨rfl, -⟩ | ⟨rfl, -⟩ | ⟨rfl, -⟩ | ⟨rfl, -⟩ |
        ⟨rfl, -⟩ <;> rfl
  | @unit digits n h =>
      refine @hescape ('u' :: digits) ?_
      rw [List.cons_append, escapeLength, h.readHex4_eq, List.length_cons, h.length_eq]
      rfl

theorem PassesAll.skipStringAfter_eq {body : List Char} (h : PassesAll body) (cs : List Char) :
    skipStringAfter 0 (body ++ '"' :: cs) = some cs := by
  induction h with
  | nil => rfl
  | cons h _ ih => rw [List.append_assoc, h.skipStringAfter_eq, ih]

theorem passes_of_escapeLength {cs : List Char} {n : Nat} (h : escapeLength cs = some n) :
    ∃ written rest, cs = written ++ rest ∧ n = written.length ∧ Passes ('\\' :: written) := by
  rw [escapeLength.eq_def] at h
  split at h
  · obtain ⟨n, hn, rfl⟩ := Option.map_eq_some_iff.mp h
    obtain ⟨digits, rest, rfl, hdigits⟩ := hex4_of_readHex4 hn
    exact ⟨'u' :: digits, rest, rfl, by rw [List.length_cons, hdigits.length_eq], .unit hdigits⟩
  · rename_i mark rest _
    split at h
    · rename_i hmark
      obtain rfl := Option.some.inj h
      obtain ⟨c, hc⟩ : ∃ c, (mark, c) ∈ letterEscapes := by
        simpa [letterEscapes, exists_or] using hmark
      exact ⟨[mark], rest, rfl, rfl, .letter hc⟩
    · cases h
  · cases h

theorem passesAll_of_skipStringAfter {cs rest : List Char}
    (h : skipStringAfter 0 cs = some rest) : ∃ body, cs = body ++ '"' :: rest ∧ PassesAll body := by
  -- on the number of characters, since an escape takes several
  induction hlength : cs.length using Nat.strongRecOn generalizing cs with
  | ind length ih =>
      cases cs with
      | nil => cases h
      | cons c cs =>
          have hrest {piece more : List Char} (hcs : c :: cs = piece ++ more) (hne : piece ≠ [])
              (hpiece : Passes piece) (hmore : skipStringAfter 0 more = some rest) :
              ∃ body, c :: cs = body ++ '"' :: rest ∧ PassesAll body := by
            have hpos : 0 < piece.length := List.length_pos_iff.mpr hne
            have hlt : more.length < length := by
              rw [← hlength, hcs, List.length_append]
              omega
            obtain ⟨body, rfl, hbody⟩ := ih more.length hlt hmore rfl
            exact ⟨piece ++ body, by rw [hcs, List.append_assoc], .cons hpiece hbody⟩
          rw [skipStringAfter] at h
          by_cases hquote : c = '"'
          · rw [if_pos hquote, Option.some.injEq] at h
            exact ⟨[], by rw [hquote, h]; rfl, .nil⟩
          rw [if_neg hquote] at h
          by_cases hslash : c = '\\'
          · rw [if_pos hslash] at h
            split at h
            · rename_i hescape
              obtain ⟨written, more, rfl, rfl, hwritten⟩ := passes_of_escapeLength hescape
              rw [skipStringAfter_skip] at h
              exact @hrest ('\\' :: written) more (by rw [hslash]; rfl) (by simp) hwritten h
            · cases h
          · rw [if_neg hslash] at h
            split at h
            · cases h
            · rename_i hcontrol
              exact @hrest [c] cs rfl (by simp) (.plain hquote hslash (by omega)) h

/-- A string literal, quotes included, and its text. One whose halves of surrogate pairs do not make
a text is passed over. -/
inductive WritesLiteral : List Char → Option String → Prop
  | text {text : List Char} {s : String} (h : WritesString text s) : WritesLiteral text (some s)
  | passed {body : List Char} (h : PassesAll body) (hnone : ∀ s, ¬ SpellsAll body s) :
      WritesLiteral ('"' :: (body ++ ['"'])) none

theorem WritesLiteral.cons {text : List Char} {s : Option String} (h : WritesLiteral text s) :
    ∃ more, text = '"' :: more := by
  cases h with
  | text h => exact h.cons
  | passed h hnone => exact ⟨_, rfl⟩

theorem WritesLiteral.readLiteral_eq {text : List Char} {s : Option String}
    (h : WritesLiteral ('"' :: text) s) (cs : List Char) :
    readLiteral (text ++ cs) = some (s, cs) := by
  generalize hwhole : '"' :: text = whole at h
  cases h with
  | text h =>
      rw [← hwhole] at h
      rw [readLiteral, h.readString_eq]
  | @passed body h hnone =>
      obtain rfl := (List.cons.inj hwhole).2
      rw [List.append_assoc, List.singleton_append, readLiteral]
      have hskip := h.skipStringAfter_eq cs
      cases hread : readString (body ++ '"' :: cs) with
      | none => rw [hskip, Option.map_some]
      | some found =>
          -- a text would end at the same quote, and so be spelled by the body
          obtain ⟨⟨chars, rest⟩, hchars, -⟩ := Option.map_eq_some_iff.mp hread
          obtain ⟨other, hother, hspells⟩ := spellsAll_of_readStringAfter hchars
          rw [hother, hspells.passesAll.skipStringAfter_eq, Option.some.injEq] at hskip
          rw [hskip] at hother
          exact absurd (List.append_cancel_right hother ▸ hspells) (hnone chars)

theorem writesLiteral_of_readLiteral {cs rest : List Char} {s : Option String}
    (h : readLiteral cs = some (s, rest)) :
    ∃ text, cs = text ++ rest ∧ WritesLiteral ('"' :: text) s := by
  rw [readLiteral] at h
  split at h
  · rename_i hread
    obtain ⟨rfl, rfl⟩ := Prod.mk.inj (Option.some.inj h)
    obtain ⟨text, hcs, htext⟩ := writesString_of_readString hread
    exact ⟨text, hcs, .text htext⟩
  · rename_i hnone
    obtain ⟨rest', hskip, heq⟩ := Option.map_eq_some_iff.mp h
    obtain ⟨rfl, rfl⟩ := Prod.mk.inj heq
    obtain ⟨body, rfl, hbody⟩ := passesAll_of_skipStringAfter hskip
    refine ⟨body ++ ['"'], by simp, .passed hbody ?_⟩
    intro chars hchars
    rw [readString, hchars.readStringAfter_eq] at hnone
    cases hnone

/-! ## Numbers -/

/-- Digits before the point: zero alone, or others that do not begin with it. -/
inductive IsWhole : List Char → Prop
  | zero : IsWhole ['0']
  | digits {cs : List Char} (h : Text.IsDigits cs) (hzero : cs.head? ≠ some '0') : IsWhole cs

inductive IsFraction : List Char → Prop
  | none : IsFraction []
  | digits {cs : List Char} (h : Text.IsDigits cs) : IsFraction ('.' :: cs)

inductive IsExponent : List Char → Prop
  | none : IsExponent []
  | digits {mark : Char} {sign cs : List Char} (hmark : mark = 'e' ∨ mark = 'E')
      (hsign : sign = [] ∨ sign = ['+'] ∨ sign = ['-']) (h : Text.IsDigits cs) :
      IsExponent (mark :: (sign ++ cs))

inductive IsUnsigned : List Char → Prop
  | intro {whole fraction exponent : List Char} (hwhole : IsWhole whole)
      (hfraction : IsFraction fraction) (hexponent : IsExponent exponent) :
      IsUnsigned (whole ++ fraction ++ exponent)

inductive IsNumber : List Char → Prop
  | unsigned {cs : List Char} (h : IsUnsigned cs) : IsNumber cs
  | negative {cs : List Char} (h : IsUnsigned cs) : IsNumber ('-' :: cs)

section Sound

variable {cs part rest : List Char}

theorem isDigits_of_readDigits (h : readDigits cs = some (part, rest)) :
    cs = part ++ rest ∧ Text.IsDigits part := by
  rw [readDigits] at h
  split at h
  · cases h
  · rename_i hne
    obtain ⟨rfl, rfl⟩ := Prod.mk.inj (Option.some.inj h)
    exact ⟨List.takeWhile_append_dropWhile.symm, hne, fun c hc => List.mem_takeWhile_imp hc⟩

theorem isWhole_of_readWhole (h : readWhole cs = some (part, rest)) :
    cs = part ++ rest ∧ IsWhole part := by
  rw [readWhole.eq_def] at h
  split at h
  · obtain ⟨rfl, rfl⟩ := Prod.mk.inj (Option.some.inj h)
    exact ⟨rfl, .zero⟩
  · rename_i hzero
    obtain ⟨rfl, hdigits⟩ := isDigits_of_readDigits h
    refine ⟨rfl, .digits hdigits ?_⟩
    intro hhead
    obtain ⟨digits, rfl⟩ := List.head?_eq_some_iff.mp hhead
    exact hzero _ rfl

theorem isFraction_of_readFraction (h : readFraction cs = some (part, rest)) :
    cs = part ++ rest ∧ IsFraction part := by
  rw [readFraction.eq_def] at h
  split at h
  · obtain ⟨⟨digits, rest'⟩, hread, heq⟩ := Option.map_eq_some_iff.mp h
    obtain ⟨rfl, rfl⟩ := Prod.mk.inj heq
    obtain ⟨rfl, hdigits⟩ := isDigits_of_readDigits hread
    exact ⟨rfl, .digits hdigits⟩
  · obtain ⟨rfl, rfl⟩ := Prod.mk.inj (Option.some.inj h)
    exact ⟨rfl, .none⟩

theorem isExponent_of_readExponent (h : readExponent cs = some (part, rest)) :
    cs = part ++ rest ∧ IsExponent part := by
  have hsigned {mark : Char} {more : List Char} (sign : List Char) (hmark : mark = 'e' ∨ mark = 'E')
      (hsign : sign = [] ∨ sign = ['+'] ∨ sign = ['-'])
      (hread : (readDigits more).map (fun (digits, rest) => (mark :: (sign ++ digits), rest)) =
        some (part, rest)) :
      mark :: (sign ++ more) = part ++ rest ∧ IsExponent part := by
    obtain ⟨⟨digits, rest'⟩, hmore, heq⟩ := Option.map_eq_some_iff.mp hread
    obtain ⟨rfl, rfl⟩ := Prod.mk.inj heq
    obtain ⟨rfl, hdigits⟩ := isDigits_of_readDigits hmore
    exact ⟨by simp, .digits hmark hsign hdigits⟩
  cases cs with
  | nil =>
      obtain ⟨rfl, rfl⟩ := Prod.mk.inj (Option.some.inj h)
      exact ⟨rfl, .none⟩
  | cons mark cs =>
      rw [readExponent.eq_def] at h
      simp only at h
      split at h
      · rename_i hmark
        split at h
        · exact hsigned ['+'] hmark (by simp) h
        · exact hsigned ['-'] hmark (by simp) h
        · exact hsigned [] hmark (by simp) h
      · obtain ⟨rfl, rfl⟩ := Prod.mk.inj (Option.some.inj h)
        exact ⟨rfl, .none⟩

theorem isUnsigned_of_readUnsigned (h : readUnsigned cs = some (part, rest)) :
    cs = part ++ rest ∧ IsUnsigned part := by
  simp only [readUnsigned, Option.bind_eq_bind, Option.bind_eq_some_iff, Prod.exists] at h
  obtain ⟨whole, afterWhole, hw, fraction, afterFraction, hf, exponent, _, he, heq⟩ := h
  obtain ⟨rfl, rfl⟩ := Prod.mk.inj (Option.some.inj heq)
  obtain ⟨rfl, hwhole⟩ := isWhole_of_readWhole hw
  obtain ⟨rfl, hfraction⟩ := isFraction_of_readFraction hf
  obtain ⟨rfl, hexponent⟩ := isExponent_of_readExponent he
  exact ⟨by simp, .intro hwhole hfraction hexponent⟩

theorem isNumber_of_readNumber (h : readNumber cs = some (part, rest)) :
    cs = part ++ rest ∧ IsNumber part := by
  rw [readNumber.eq_def] at h
  split at h
  · obtain ⟨⟨digits, rest'⟩, hread, heq⟩ := Option.map_eq_some_iff.mp h
    obtain ⟨rfl, rfl⟩ := Prod.mk.inj heq
    obtain ⟨rfl, hunsigned⟩ := isUnsigned_of_readUnsigned hread
    exact ⟨rfl, .negative hunsigned⟩
  · obtain ⟨rfl, hunsigned⟩ := isUnsigned_of_readUnsigned h
    exact ⟨rfl, .unsigned hunsigned⟩

end Sound

/-- A text that does not go on with digits. -/
def EndsDigits (cs : List Char) : Prop := ∀ c ∈ cs.head?, c.isDigit = false

def EndsNumber (cs : List Char) : Prop :=
  ∀ c ∈ cs.head?, c.isDigit = false ∧ c ≠ '.' ∧ c ≠ 'e' ∧ c ≠ 'E'

theorem EndsNumber.endsDigits {cs : List Char} (h : EndsNumber cs) : EndsDigits cs :=
  fun c hc => (h c hc).1

section Complete

variable {part rest : List Char}

theorem readDigits_eq (h : Text.IsDigits part) (hends : EndsDigits rest) :
    readDigits (part ++ rest) = some (part, rest) := by
  obtain ⟨d, digits, rfl⟩ := List.exists_cons_of_ne_nil h.1
  obtain ⟨htake, hdrop⟩ := Text.span_append h.2 hends
  rw [readDigits, htake, hdrop]

theorem IsWhole.readWhole_eq (h : IsWhole part) (hends : EndsDigits rest) :
    readWhole (part ++ rest) = some (part, rest) := by
  cases h with
  | zero => rfl
  | digits h hzero =>
      obtain ⟨d, digits, rfl⟩ := List.exists_cons_of_ne_nil h.1
      rw [readWhole, readDigits_eq h hends]
      intro rest' heq
      exact hzero (by rw [(List.cons.inj heq).1]; rfl)

theorem IsFraction.readFraction_eq (h : IsFraction part) (hends : EndsDigits rest)
    (hpoint : rest.head? ≠ some '.') : readFraction (part ++ rest) = some (part, rest) := by
  cases h with
  | none =>
      rw [List.nil_append, readFraction]
      rintro rest' rfl
      exact hpoint rfl
  | digits h => rw [List.cons_append, readFraction, readDigits_eq h hends, Option.map_some]

theorem IsExponent.readExponent_eq (h : IsExponent part) (hends : EndsNumber rest) :
    readExponent (part ++ rest) = some (part, rest) := by
  cases h with
  | none =>
      cases rest with
      | nil => rfl
      | cons c rest =>
          obtain ⟨-, -, hlower, hupper⟩ := hends c rfl
          rw [List.nil_append, readExponent.eq_def]
          simp only
          rw [if_neg (by simp [hlower, hupper])]
  | @digits mark sign digits hmark hsign h =>
      have hdigits := readDigits_eq h hends.endsDigits
      rcases hsign with rfl | rfl | rfl
      · obtain ⟨d, more, rfl⟩ := List.exists_cons_of_ne_nil h.1
        have hd : d.isDigit = true := h.2 d (by simp)
        rw [List.nil_append, List.cons_append, readExponent, if_pos hmark, hdigits, Option.map_some]
        · intro rest' heq
          exact Text.ne_of_isDigit hd (by decide) (List.cons.inj heq).1
        · intro rest' heq
          exact Text.ne_of_isDigit hd (by decide) (List.cons.inj heq).1
      · simp [readExponent, hmark, hdigits]
      · simp [readExponent, hmark, hdigits]

/-- After a fraction nothing is taken for digits of it. -/
theorem IsExponent.head (h : IsExponent part) (hends : EndsNumber rest) :
    EndsDigits (part ++ rest) ∧ (part ++ rest).head? ≠ some '.' := by
  cases h with
  | none =>
      refine ⟨hends.endsDigits, ?_⟩
      intro hpoint
      exact (hends '.' hpoint).2.1 rfl
  | digits hmark hsign h =>
      rcases hmark with rfl | rfl
      · exact ⟨by simp [EndsDigits], by simp⟩
      · exact ⟨by simp [EndsDigits], by simp⟩

theorem IsFraction.endsDigits (h : IsFraction part) (hends : EndsDigits rest) :
    EndsDigits (part ++ rest) := by
  cases h with
  | none => exact hends
  | digits h => simp [EndsDigits]

theorem IsUnsigned.readUnsigned_eq (h : IsUnsigned part) (hends : EndsNumber rest) :
    readUnsigned (part ++ rest) = some (part, rest) := by
  obtain ⟨hwhole, hfraction, hexponent⟩ := h
  obtain ⟨hstop, hpoint⟩ := hexponent.head hends
  simp only [List.append_assoc, readUnsigned, hwhole.readWhole_eq (hfraction.endsDigits hstop),
    hfraction.readFraction_eq hstop hpoint, hexponent.readExponent_eq hends, Option.bind_eq_bind,
    Option.bind_some]

theorem IsUnsigned.cons (h : IsUnsigned part) : ∃ d more, part = d :: more ∧ d.isDigit = true := by
  obtain ⟨hwhole, -, -⟩ := h
  cases hwhole with
  | zero => exact ⟨'0', _, rfl, by decide⟩
  | digits h hzero =>
      obtain ⟨d, digits, rfl⟩ := List.exists_cons_of_ne_nil h.1
      exact ⟨d, _, rfl, h.2 d (by simp)⟩

theorem IsNumber.cons (h : IsNumber part) :
    ∃ c more, part = c :: more ∧ (c = '-' ∨ c.isDigit = true) := by
  cases h with
  | unsigned h =>
      obtain ⟨d, more, rfl, hd⟩ := h.cons
      exact ⟨d, more, rfl, .inr hd⟩
  | negative h => exact ⟨'-', _, rfl, .inl rfl⟩

/-- A number is read up to where it ends. -/
theorem IsNumber.readNumber_eq (h : IsNumber part) (hends : EndsNumber rest) :
    readNumber (part ++ rest) = some (part, rest) := by
  cases h with
  | unsigned h =>
      obtain ⟨d, more, rfl, hd⟩ := h.cons
      rw [readNumber, h.readUnsigned_eq hends]
      intro rest' heq
      exact Text.ne_of_isDigit hd (by decide) (List.cons.inj heq).1
  | negative h => rw [List.cons_append, readNumber, h.readUnsigned_eq hends, Option.map_some]

end Complete

end BookFinder.Json
