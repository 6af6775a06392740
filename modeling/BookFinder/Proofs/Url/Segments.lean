import BookFinder.Proofs.Text.Percent
import BookFinder.Url.Segments

/-! # Extended paths

A text becomes one segment of a path: it cannot end the segment or the path, and it can be read back
but for its tabs and newlines, which are lost. -/

namespace BookFinder.Url

open Text

/-! ## Texts as segments -/

/-- What of a text comes into a segment: all but tabs and newlines. -/
def keptText (text : List Char) : List Char := text.filter (!isTabOrNewline ·)

theorem keptText_eq_self_iff (text : List Char) :
    keptText text = text ↔ ∀ c ∈ text, isTabOrNewline c = false := by
  simp [keptText, List.filter_eq_self]

theorem decode?_escapeSegment (special : Bool) (text : List Char) :
    Percent.decode? (escapeSegment special text) = some (keptText text) :=
  Percent.decode?_encode (by cases special <;> decide) _

theorem escapeSegment_inj {special : Bool} {text other : List Char} :
    escapeSegment special text = escapeSegment special other ↔ keptText text = keptText other := by
  constructor
  · intro h
    have hdecoded := congrArg Percent.decode? h
    rw [decode?_escapeSegment, decode?_escapeSegment] at hdecoded
    exact Option.some.inj hdecoded
  · intro h
    rw [keptText, keptText] at h
    rw [escapeSegment, escapeSegment, h]

theorem plain_of_mem_escapeSegment {text : List Char} {c : Char}
    (h : c ∈ escapeSegment true text) : c.toNat < 0x80 ∧ c ∉ ['/', '?', '#', '\\', ' '] := by
  refine Percent.encode_forall
    (P := fun d => d.toNat < 0x80 ∧ d ∉ ['/', '?', '#', '\\', ' ']) (by decide) (by decide) ?_ h
  intro d _ hd
  simp [escapedInSegment, escapedInPath, escapedInFragment, isControl] at hd
  simp [hd]
  omega

theorem not_mem_escapeSegment {text : List Char} (special : Bool) (h : '.' ∉ text) :
    '.' ∉ escapeSegment special text := by
  intro hmem
  refine Percent.encode_forall (P := (· ≠ '.')) (by decide) (by decide) ?_ hmem rfl
  rintro d hd - rfl
  exact h (List.mem_of_mem_filter hd)

theorem pushText_of_not_mem {text : List Char} (h : '.' ∉ text) (special file : Bool)
    (segments : List (List Char)) :
    pushText special file segments text =
      appendSegment segments (escapeSegment special text) := by
  have hdot {cs rest : List Char} (hcs : '.' ∉ cs) : cs ≠ '.' :: rest := by
    rintro rfl
    exact hcs List.mem_cons_self
  have hsegment := not_mem_escapeSegment special h
  rw [pushText, if_neg (not_or.mpr ⟨hdot h, hdot h⟩),
    if_neg (not_or.mpr ⟨hdot hsegment, hdot hsegment⟩)]

/-! ## Numbers as segments -/

theorem escapedInSegment_of_isDigit (special : Bool) {c : Char} (h : c.isDigit = true) :
    escapedInSegment special c = false := by
  obtain ⟨hlow, hhigh⟩ : 48 ≤ c.toNat ∧ c.toNat ≤ 57 := Char.isDigit_iff_toNat.mp h
  have hdigits : ∀ k < 10, escapedInSegment special (Char.ofNat (48 + k)) = false := by
    cases special <;> decide
  have hc : Char.ofNat (48 + (c.toNat - 48)) = c := by
    rw [Nat.add_sub_cancel' hlow, Char.ofNat_toNat]
  rw [← hc]
  exact hdigits (c.toNat - 48) (by omega)

theorem escapeSegment_renderNat (special : Bool) (n : Nat) :
    escapeSegment special (renderNat n) = renderNat n := by
  have hfilter : (renderNat n).filter (!isTabOrNewline ·) = renderNat n := by
    rw [List.filter_eq_self]
    intro c hc
    have hd := isDigit_of_mem_renderNat hc
    simp [isTabOrNewline, ne_of_isDigit hd (d := '\t') (by decide),
      ne_of_isDigit hd (d := '\n') (by decide), ne_of_isDigit hd (d := '\r') (by decide)]
  rw [escapeSegment, hfilter, Percent.encode_eq_self]
  intro c hc
  exact escapedInSegment_of_isDigit special (isDigit_of_mem_renderNat hc)

theorem not_mem_renderNat {c : Char} (h : c.isDigit = false) (n : Nat) : c ∉ renderNat n :=
  fun hc => ne_of_isDigit (isDigit_of_mem_renderNat hc) h rfl

theorem pushText_renderNat (special file : Bool) (segments : List (List Char)) (n : Nat) :
    pushText special file segments (renderNat n) = appendSegment segments (renderNat n) := by
  rw [pushText_of_not_mem (not_mem_renderNat (by decide) n), escapeSegment_renderNat]

/-! ## Paths -/

theorem renderSegments_appendSegment (segments : List (List Char)) (segment : List Char) :
    renderSegments (appendSegment segments segment) =
      (if segments = [[]] then [] else renderSegments segments) ++ '/' :: segment := by
  rw [appendSegment]
  split
  · simp [renderSegments]
  · simp [renderSegments]

/-- The segments of a path that stay in front of added ones: all but an empty one at the end. -/
def openSegments (segments : List (List Char)) : List (List Char) :=
  if dropEmptyLast segments = [[]] then [] else dropEmptyLast segments

/-- Nothing of the path is lost but slashes at its end. -/
theorem renderSegments_openSegments (segments : List (List Char)) :
    ∃ n ≤ 2, renderSegments segments =
      renderSegments (openSegments segments) ++ List.replicate n '/' := by
  rw [openSegments, dropEmptyLast]
  split
  · rename_i hempty
    have hlast : segments = segments.dropLast ++ [[]] := by
      obtain ⟨front, hfront⟩ := List.getLast?_eq_some_iff.mp hempty.2
      rw [hfront, List.dropLast_concat]
    by_cases hslash : segments.dropLast = [[]]
    · refine ⟨2, by omega, ?_⟩
      rw [hlast, hslash]
      rfl
    · refine ⟨1, by omega, ?_⟩
      rw [if_neg hslash]
      conv_lhs => rw [hlast]
      simp [renderSegments]
  · by_cases hslash : segments = [[]]
    · refine ⟨1, by omega, ?_⟩
      rw [hslash]
      rfl
    · refine ⟨0, by omega, ?_⟩
      simp [hslash]

/-- Where there are segments already, or texts that are not empty, each text is one segment more. -/
theorem foldl_pushText (special file : Bool) {texts : List (List Char)}
    (hdots : ∀ text ∈ texts, '.' ∉ text) {segments : List (List Char)}
    (hfull : segments.flatten ≠ []) :
    texts.foldl (pushText special file) segments =
      segments ++ texts.map (escapeSegment special) := by
  induction texts generalizing segments with
  | nil => simp
  | cons text texts ih =>
      have hslash : segments ≠ [[]] := by
        rintro rfl
        exact hfull rfl
      have hmore : (segments ++ [escapeSegment special text]).flatten ≠ [] := by
        simp only [List.flatten_append, ne_eq, List.append_eq_nil_iff]
        exact fun h => hfull h.1
      rw [List.foldl_cons, pushText_of_not_mem (hdots text (by simp)), appendSegment,
        if_neg hslash, ih (fun t ht => hdots t (by simp [ht])) hmore]
      simp

/-- Texts without dots are added to a URL one segment each, and no other part of it changes. -/
theorem extendPath_eq {url : Url} {list : List (List Char)} (hpath : url.path = .segments list)
    {name : List Char} {texts : List (List Char)} (hname : escapeSegment url.isSpecial name ≠ [])
    (hdots : ∀ text ∈ name :: texts, '.' ∉ text) :
    url.extendPath (name :: texts) =
      { url with
        path := .segments (openSegments list ++
          (name :: texts).map (escapeSegment url.isSpecial)) } := by
  have hfirst : appendSegment (dropEmptyLast list) (escapeSegment url.isSpecial name) =
      openSegments list ++ [escapeSegment url.isSpecial name] := by
    rw [appendSegment, openSegments]
    split <;> rfl
  have hfull : (openSegments list ++ [escapeSegment url.isSpecial name]).flatten ≠ [] := by
    simp [hname]
  rw [extendPath, hpath]
  simp only [List.foldl_cons, pushText_of_not_mem (hdots name List.mem_cons_self), hfirst,
    foldl_pushText _ _ (fun t ht => hdots t (List.mem_cons_of_mem name ht)) hfull]
  simp

end BookFinder.Url
