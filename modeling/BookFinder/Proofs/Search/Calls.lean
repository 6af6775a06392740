import BookFinder.Proofs.Search.Agreement

/-! # What a search asks the catalog for

A plain search asks for one page. An exclusion asks for the pages 1, 2, 3 and so on without a gap:
for page 1 alone, or as far as page 1 says that there are pages, or up to a page that fails at
once. -/

namespace BookFinder.Search

open Catalog Query

/-! ## Pages in a row -/

theorem pagesAfterFirst_of_split {last page : UInt32} {before after : List UInt32}
    (h : pagesAfterFirst last = before ++ page :: after) :
    pagesAfterFirst page = before ++ [page] := by
  have hlast := last.toNat_lt
  obtain ⟨front, rest, hsplit, rfl, hrest⟩ := List.map_eq_append_iff.mp h
  obtain ⟨n, back, rfl, rfl, -⟩ := List.map_eq_cons_iff.mp hrest
  obtain ⟨k, hk, rfl, hback⟩ := List.range'_eq_append_iff.mp hsplit
  obtain ⟨hn, hcount, -⟩ := List.range'_eq_cons_iff.mp hback.symm
  have hpage : (UInt32.ofNat n).toNat = k + 2 := by
    rw [toNat_ofNat_page (by omega)]
    omega
  have hrow : List.range' 2 (k + 1) = List.range' 2 k ++ [n] := by
    rw [List.range'_1_concat, ← hn, Nat.mul_one]
  rw [pagesAfterFirst, hpage, Nat.add_succ_sub_one, hrow, List.map_append]
  rfl

/-! ## Up to the first page that fails at once -/

theorem pagesAsked_congr {ask other : UInt32 → Answer} {pages : List UInt32}
    (hdelay : ∀ n, (other n).delay = (ask n).delay)
    (h : ∀ n, FailsAtOnce (other n) ↔ FailsAtOnce (ask n)) :
    pagesAsked other pages = pagesAsked ask pages := by
  have hsame (n : UInt32) : failsAtOnce (other n) = failsAtOnce (ask n) := by
    rw [Bool.eq_iff_iff, failsAtOnce_iff, failsAtOnce_iff, h n]
  have hsmall (pages : List UInt32) : askedOfSmall other pages = askedOfSmall ask pages := by
    induction pages with
    | nil => rfl
    | cons n pages ih => rw [askedOfSmall, askedOfSmall, hsame n, ih]
  have hlarge (pages : List UInt32) : askedOfLarge other pages = askedOfLarge ask pages := by
    induction pages with
    | nil => rfl
    | cons n pages ih => rw [askedOfLarge, askedOfLarge, hsame n, hdelay n, ih]
  rw [pagesAsked, pagesAsked, hsmall, hlarge]

/-- Page `m` is the last that is asked of the pages to `last`. It fails at once if it is not the last
of all, and no page before it does, unless a large round passes over it. -/
structure EndsRound (ask : UInt32 → Answer) (last m : UInt32) : Prop where
  pos : 1 ≤ m
  le_last : m ≤ last
  before : (∀ n, (ask n).delay = 0) ∨ last.toNat - 1 ≤ smallRound →
    ∀ n : UInt32, 2 ≤ n → n < m → ¬ FailsAtOnce (ask n)
  fails : m < last → 2 ≤ m ∧ FailsAtOnce (ask m)

namespace EndsRound

variable {ask : UInt32 → Answer} {last m n : UInt32}

theorem eq_last (h : EndsRound ask last m)
    (hnone : ∀ n, 2 ≤ n → n ≤ last → ¬ FailsAtOnce (ask n)) : m = last := by
  refine UInt32.le_antisymm h.le_last (UInt32.not_lt.mp ?_)
  intro hlt
  obtain ⟨hlow, hfails⟩ := h.fails hlt
  exact hnone m hlow h.le_last hfails

theorem eq_lowest (h : EndsRound ask last m)
    (hheeds : (∀ n, (ask n).delay = 0) ∨ last.toNat - 1 ≤ smallRound) (hlow : 2 ≤ n)
    (hhigh : n ≤ last) (hfails : FailsAtOnce (ask n))
    (hbefore : ∀ k, 2 ≤ k → k < n → ¬ FailsAtOnce (ask k)) :
    m = n := by
  have hmn : ¬ m < n := by
    intro hlt
    obtain ⟨hm, hmfails⟩ := h.fails (UInt32.lt_of_lt_of_le hlt hhigh)
    exact hbefore m hm hlt hmfails
  have hnm : ¬ n < m := fun hlt => h.before hheeds n hlow hlt hfails
  exact UInt32.le_antisymm (UInt32.not_lt.mp hnm) (UInt32.not_lt.mp hmn)

end EndsRound

theorem fanOutCalls_eq (catalog : Catalog) (wanted : String) {last : UInt32} (hlast : last ≠ 0) :
    ∃ m, EndsRound (catalog wanted) last m ∧
      fanOutCalls catalog wanted last = (pagesThrough m).map (⟨wanted, ·⟩) := by
  rcases pagesAsked_cases (catalog wanted) (pagesAfterFirst last) with
    ⟨hasked, hnone⟩ | ⟨before, m, after, hsplit, hfails, hbefore, hasked⟩
  · have hpos : 1 ≤ last := by
      rw [UInt32.le_iff_toNat_le, UInt32.toNat_one, Nat.one_le_iff_ne_zero]
      exact fun h => hlast (UInt32.toNat_inj.mp h)
    refine ⟨last, ⟨hpos, UInt32.le_refl last, ?_, ?_⟩, ?_⟩
    · intro hheeds n hlow hlt
      rw [length_pagesAfterFirst] at hnone
      exact hnone hheeds n (mem_pagesAfterFirst.mpr ⟨hlow, UInt32.le_of_lt hlt⟩)
    · intro hlt
      exact absurd hlt (UInt32.lt_irrefl last)
    · rw [fanOutCalls, hasked, pagesThrough_eq_cons hlast, List.map_cons]
  · have hrow := pagesAfterFirst_of_split hsplit
    have hmem : m ∈ pagesAfterFirst last := by
      rw [hsplit]
      simp
    obtain ⟨hlow, hhigh⟩ := mem_pagesAfterFirst.mp hmem
    have hzero : m ≠ 0 := by
      rintro rfl
      exact absurd hlow (by decide)
    refine ⟨m, ⟨UInt32.le_trans (by decide) hlow, hhigh, ?_, fun _ => ⟨hlow, hfails⟩⟩, ?_⟩
    · intro _ n hn hlt
      have hin : n ∈ before ++ [m] := by
        rw [← hrow]
        exact mem_pagesAfterFirst.mpr ⟨hn, UInt32.le_of_lt hlt⟩
      rcases List.mem_append.mp hin with hin | hin
      · exact hbefore n hin
      · exact absurd (List.mem_singleton.mp hin) (UInt32.ne_of_lt hlt)
    · rw [fanOutCalls, hasked, ← hrow, pagesThrough_eq_cons hzero, List.map_cons]

/-! ## What the calls depend on -/

/-- The pages come at the same times and fail alike, and page 1 reports the same total. Their
records and the totals of the other pages may differ. -/
structure SameCourse (ask other : UInt32 → Answer) : Prop where
  delay (n : UInt32) : (other n).delay = (ask n).delay
  error (n : UInt32) (error : CatalogError) :
    (other n).result = .error error ↔ (ask n).result = .error error
  total (head found : RemotePage) :
    (ask 1).result = .ok head → (other 1).result = .ok found → found.total = head.total

namespace SameCourse

variable {ask other : UInt32 → Answer}

theorem refl (ask : UInt32 → Answer) : SameCourse ask ask := by
  refine ⟨fun _ => rfl, fun _ _ => Iff.rfl, ?_⟩
  intro head found hhead hfound
  rw [Except.ok.inj (hfound.symm.trans hhead)]

theorem failsAtOnce (h : SameCourse ask other) (n : UInt32) :
    FailsAtOnce (other n) ↔ FailsAtOnce (ask n) := by
  simp only [FailsAtOnce, h.delay n, h.error n]

theorem first (h : SameCourse ask other) {head : RemotePage} (hfirst : (ask 1).result = .ok head) :
    ∃ found, (other 1).result = .ok found ∧ found.total = head.total := by
  cases hother : (other 1).result with
  | ok found => exact ⟨found, rfl, h.total head found hfirst hother⟩
  | error error =>
      rw [h.error 1, hfirst] at hother
      cases hother

end SameCourse

theorem fanOutCalls_congr {catalog other : Catalog} {wanted : String}
    (h : SameCourse (catalog wanted) (other wanted)) (last : UInt32) :
    fanOutCalls other wanted last = fanOutCalls catalog wanted last := by
  rw [fanOutCalls, fanOutCalls, pagesAsked_congr h.delay h.failsAtOnce]

theorem excluding_calls_congr {catalog other : Catalog} {wanted : String}
    (h : SameCourse (catalog wanted) (other wanted)) (limit : UInt32)
    (unwanted otherUnwanted : String) (page otherPage : UInt32) :
    (Run.excluding other wanted otherUnwanted otherPage limit).calls =
      (Run.excluding catalog wanted unwanted page limit).calls := by
  cases hfirst : (catalog wanted 1).result with
  | error error =>
      have hother : (other wanted 1).result = .error error := (h.error 1 error).mpr hfirst
      rw [excluding_of_first_failed hfirst, excluding_of_first_failed hother]
  | ok head =>
      obtain ⟨found, hother, htotal⟩ := h.first hfirst
      have hcount : found.pageCount = head.pageCount := by
        rw [RemotePage.pageCount, htotal, RemotePage.pageCount]
      by_cases hzero : head.total = 0
      · rw [excluding_of_no_results hfirst hzero,
          excluding_of_no_results hother (htotal.trans hzero)]
      by_cases hover : limit < head.pageCount
      · rw [excluding_of_over_limit hfirst hover, excluding_of_over_limit hother (hcount ▸ hover)]
      · have hlimit : head.pageCount ≤ limit := UInt32.not_lt.mp hover
        rw [excluding_calls_of_within_limit hfirst hzero hlimit,
          excluding_calls_of_within_limit hother (htotal ▸ hzero) (hcount ▸ hlimit), hcount,
          fanOutCalls_congr h]

/-! ## The calls of a search -/

/-- An exclusion asks for page 1 alone if there is no reason to go on, else for the pages in a row to
the end of its round. -/
theorem excluding_calls_row (catalog : Catalog) (wanted unwanted : String) (page limit : UInt32) :
    ∃ m, (Run.excluding catalog wanted unwanted page limit).calls =
        (pagesThrough m).map (⟨wanted, ·⟩) ∧
      ((m = 1 ∧ ∀ head, (catalog wanted 1).result = .ok head →
          head.total = 0 ∨ limit < head.pageCount) ∨
        ∃ head, (catalog wanted 1).result = .ok head ∧ head.total ≠ 0 ∧ head.pageCount ≤ limit ∧
          EndsRound (catalog wanted) head.pageCount m) := by
  cases hfirst : (catalog wanted 1).result with
  | error error =>
      refine ⟨1, ?_, .inl ⟨rfl, by simp⟩⟩
      rw [excluding_of_first_failed hfirst]
      rfl
  | ok head =>
      by_cases hzero : head.total = 0
      · refine ⟨1, ?_, .inl ⟨rfl, by simp [hzero]⟩⟩
        rw [excluding_of_no_results hfirst hzero]
        rfl
      by_cases hover : limit < head.pageCount
      · refine ⟨1, ?_, .inl ⟨rfl, by simp [hover]⟩⟩
        rw [excluding_of_over_limit hfirst hover]
        rfl
      · have hlimit : head.pageCount ≤ limit := UInt32.not_lt.mp hover
        obtain ⟨m, hend, hcalls⟩ :=
          fanOutCalls_eq catalog wanted (mt (pageCount_eq_zero_iff head).mp hzero)
        refine ⟨m, ?_, .inr ⟨head, rfl, hzero, hlimit, hend⟩⟩
        rw [excluding_calls_of_within_limit hfirst hzero hlimit, hcalls]

/-- A plain search asks for its page and no other. An exclusion asks for the pages from 1 to some
`m`, each once and in ascending order, never for more than the limit (of page 1 apart): for page 1
alone if it fails, reports nothing or reports more pages than the limit; else for all pages that
page 1 reports, or up to the lowest that fails at once, unless there are more than 30 pages after
page 1 and one of them takes time. Neither the page that the caller wants, nor the unwanted term, nor
the totals of other pages have a part in it. -/
theorem execute_calls (catalog : Catalog) (limit page : UInt32) :
    (∀ keyword, (execute catalog limit (.plain keyword) page).calls = [⟨keyword, page⟩]) ∧
    ∀ wanted unwanted,
      let ask := catalog wanted
      let calls := (execute catalog limit (.excluding wanted unwanted) page).calls
      (∃ m, calls = (pagesThrough m).map (⟨wanted, ·⟩) ∧
        (calls.map (·.page)).Pairwise (· < ·) ∧ 1 ≤ m ∧ m.toNat ≤ max 1 limit.toNat ∧
        (∀ error, (ask 1).result = .error error → m = 1) ∧
        ∀ head, (ask 1).result = .ok head →
          let last := pageCount head.total.toNat
          (head.total = 0 ∨ limit < last → m = 1) ∧
          (head.total ≠ 0 → last ≤ limit →
            m ≤ last ∧
            ((∀ n, 2 ≤ n → n ≤ last → ¬ FailsAtOnce (ask n)) → m = last) ∧
            ((∀ n, (ask n).delay = 0) ∨ last.toNat - 1 ≤ 30 →
              ∀ n, 2 ≤ n → n ≤ last → FailsAtOnce (ask n) →
                (∀ k, 2 ≤ k → k < n → ¬ FailsAtOnce (ask k)) → m = n))) ∧
      ∀ (other : Catalog) (otherUnwanted : String) (otherPage : UInt32),
        SameCourse ask (other wanted) →
          (execute other limit (.excluding wanted otherUnwanted) otherPage).calls = calls := by
  refine ⟨fun keyword => plain_calls catalog keyword page, ?_⟩
  intro wanted unwanted ask calls
  constructor
  · obtain ⟨m, hcalls, hend⟩ := excluding_calls_row catalog wanted unwanted page limit
    have hpages : calls.map (·.page) = pagesThrough m := by
      change (Run.excluding catalog wanted unwanted page limit).calls.map (·.page) = _
      rw [hcalls, List.map_map]
      exact List.map_id _
    refine ⟨m, hcalls, hpages ▸ pagesThrough_sorted m, ?_⟩
    rcases hend with ⟨rfl, hstays⟩ | ⟨head, hfirst, hsome, hlimit, hend⟩
    · refine ⟨UInt32.le_refl 1, Nat.le_max_left 1 limit.toNat, fun _ _ => rfl, ?_⟩
      intro head hfirst last
      refine ⟨fun _ => rfl, ?_⟩
      intro hsome hlimit
      rcases hstays head hfirst with hzero | hover
      · exact absurd hzero hsome
      · exact absurd hlimit (UInt32.not_le.mpr hover)
    · have hwithin : m.toNat ≤ limit.toNat := UInt32.le_trans hend.le_last hlimit
      refine ⟨hend.pos, hwithin.trans (Nat.le_max_right 1 limit.toNat), ?_, ?_⟩
      · intro error herror
        cases hfirst.symm.trans herror
      · intro found hfound last
        obtain rfl : head = found := Except.ok.inj (hfirst.symm.trans hfound)
        refine ⟨?_, fun _ _ => ⟨hend.le_last, hend.eq_last, fun hheeds n => hend.eq_lowest hheeds⟩⟩
        rintro (hzero | hover)
        · exact absurd hzero hsome
        · exact absurd hlimit (UInt32.not_le.mpr hover)
  · intro other otherUnwanted otherPage hcourse
    exact excluding_calls_congr hcourse limit unwanted otherUnwanted page otherPage

end BookFinder.Search
