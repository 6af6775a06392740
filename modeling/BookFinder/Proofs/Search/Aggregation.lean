import BookFinder.Proofs.Search.Arrival
import BookFinder.Search.Run
import Mathlib.Algebra.Group.Nat.Defs

/-! # Exclusions over all pages of a catalog -/

namespace BookFinder.Search

open Catalog

/-! ## Pages by their numbers -/

def pagesThrough (last : UInt32) : List UInt32 := (List.range' 1 last.toNat).map UInt32.ofNat

theorem toNat_ofNat_page {n : Nat} (h : n < 2 ^ 32) : (UInt32.ofNat n).toNat = n :=
  UInt32.toNat_ofNat_of_lt' h

theorem mem_pagesFrom {start count : Nat} (h : start + count ≤ 2 ^ 32) {page : UInt32} :
    page ∈ (List.range' start count).map UInt32.ofNat ↔
      start ≤ page.toNat ∧ page.toNat < start + count := by
  simp only [List.mem_map, List.mem_range'_1]
  constructor
  · rintro ⟨n, hn, rfl⟩
    rwa [toNat_ofNat_page (by omega)]
  · intro hpage
    exact ⟨page.toNat, hpage, UInt32.ofNat_toNat⟩

theorem pagesFrom_sorted {start count : Nat} (h : start + count ≤ 2 ^ 32) :
    ((List.range' start count).map UInt32.ofNat).Pairwise (· < ·) := by
  rw [List.pairwise_map]
  refine (List.pairwise_lt_range' (s := start) (n := count)).imp_of_mem ?_
  intro m n hm hn hlt
  rw [List.mem_range'_1] at hm hn
  rw [UInt32.lt_iff_toNat_lt, toNat_ofNat_page (by omega), toNat_ofNat_page (by omega)]
  exact hlt

theorem mem_pagesAfterFirst {last page : UInt32} :
    page ∈ pagesAfterFirst last ↔ 2 ≤ page ∧ page ≤ last := by
  have hlast := last.toNat_lt
  have htwo : (2 : UInt32).toNat = 2 := rfl
  rw [pagesAfterFirst, mem_pagesFrom (by omega), UInt32.le_iff_toNat_le, UInt32.le_iff_toNat_le,
    htwo]
  omega

theorem mem_pagesThrough {last page : UInt32} :
    page ∈ pagesThrough last ↔ 1 ≤ page ∧ page ≤ last := by
  have hlast := last.toNat_lt
  rw [pagesThrough, mem_pagesFrom (by omega), UInt32.le_iff_toNat_le, UInt32.le_iff_toNat_le,
    UInt32.toNat_one]
  omega

theorem pagesAfterFirst_sorted (last : UInt32) : (pagesAfterFirst last).Pairwise (· < ·) := by
  have hlast := last.toNat_lt
  exact pagesFrom_sorted (by omega)

theorem length_pagesAfterFirst (last : UInt32) : (pagesAfterFirst last).length = last.toNat - 1 := by
  rw [pagesAfterFirst, List.length_map, List.length_range']

theorem pagesThrough_sorted (last : UInt32) : (pagesThrough last).Pairwise (· < ·) := by
  have hlast := last.toNat_lt
  exact pagesFrom_sorted (by omega)

theorem pagesThrough_eq_cons {last : UInt32} (h : last ≠ 0) :
    pagesThrough last = 1 :: pagesAfterFirst last := by
  have hpos : last.toNat ≠ 0 := fun e => h (UInt32.toNat_inj.mp (by simpa using e))
  obtain ⟨n, hn⟩ := Nat.exists_eq_succ_of_ne_zero hpos
  rw [pagesThrough, pagesAfterFirst, hn, List.range'_succ]
  rfl

/-! ## The pages that are asked -/

/-- The answer is a failure and comes without delay. -/
def FailsAtOnce (answer : Answer) : Prop :=
  answer.delay = 0 ∧ ∃ error, answer.result = .error error

theorem failsAtOnce_iff (answer : Answer) : failsAtOnce answer = true ↔ FailsAtOnce answer := by
  cases h : answer.result <;> simp [failsAtOnce, FailsAtOnce, h]

theorem askedOfSmall_cases (ask : UInt32 → Answer) (pages : List UInt32) :
    askedOfSmall ask pages = pages ∧ (∀ n ∈ pages, ¬ FailsAtOnce (ask n)) ∨
    ∃ before page after, pages = before ++ page :: after ∧ FailsAtOnce (ask page) ∧
      (∀ n ∈ before, ¬ FailsAtOnce (ask n)) ∧ askedOfSmall ask pages = before ++ [page] := by
  induction pages with
  | nil => exact .inl ⟨rfl, by simp⟩
  | cons n pages ih =>
      by_cases hn : failsAtOnce (ask n) = true
      · exact .inr ⟨[], n, pages, rfl, (failsAtOnce_iff _).mp hn, by simp, by simp [askedOfSmall, hn]⟩
      have hnot : ¬ FailsAtOnce (ask n) := mt (failsAtOnce_iff _).mpr hn
      rcases ih with ⟨hall, hnone⟩ | ⟨before, page, after, rfl, hpage, hbefore, hasked⟩
      · exact .inl ⟨by simp [askedOfSmall, hn, hall], by simpa [hnot] using hnone⟩
      · exact .inr ⟨n :: before, page, after, rfl, hpage, by simpa [hnot] using hbefore,
          by simp [askedOfSmall, hn, hasked]⟩

theorem askedOfLarge_cases (ask : UInt32 → Answer) (pages : List UInt32) :
    askedOfLarge ask pages = pages ∧
      ((∀ n, (ask n).delay = 0) → ∀ n ∈ pages, ¬ FailsAtOnce (ask n)) ∨
    ∃ before page after, pages = before ++ page :: after ∧ FailsAtOnce (ask page) ∧
      (∀ n ∈ before, ¬ FailsAtOnce (ask n)) ∧ askedOfLarge ask pages = before ++ [page] := by
  induction pages with
  | nil => exact .inl ⟨rfl, by simp⟩
  | cons n pages ih =>
      by_cases hn : failsAtOnce (ask n) = true
      · exact .inr ⟨[], n, pages, rfl, (failsAtOnce_iff _).mp hn, by simp, by simp [askedOfLarge, hn]⟩
      have hnot : ¬ FailsAtOnce (ask n) := mt (failsAtOnce_iff _).mpr hn
      by_cases hdelay : (ask n).delay = 0
      · rcases ih with ⟨hall, hnone⟩ | ⟨before, page, after, rfl, hpage, hbefore, hasked⟩
        · exact .inl ⟨by simp [askedOfLarge, hn, hdelay, hall],
            fun hprompt => by simpa [hnot] using hnone hprompt⟩
        · exact .inr ⟨n :: before, page, after, rfl, hpage, by simpa [hnot] using hbefore,
            by simp [askedOfLarge, hn, hdelay, hasked]⟩
      · exact .inl ⟨by simp [askedOfLarge, hn, hdelay], fun hprompt => absurd (hprompt n) hdelay⟩

/-- All pages are asked, or those up to the first that fails at once. Only a large round with an
answer that takes time can pass over a failure at once. -/
theorem pagesAsked_cases (ask : UInt32 → Answer) (pages : List UInt32) :
    pagesAsked ask pages = pages ∧
      ((∀ n, (ask n).delay = 0) ∨ pages.length ≤ smallRound →
        ∀ n ∈ pages, ¬ FailsAtOnce (ask n)) ∨
    ∃ before page after, pages = before ++ page :: after ∧ FailsAtOnce (ask page) ∧
      (∀ n ∈ before, ¬ FailsAtOnce (ask n)) ∧ pagesAsked ask pages = before ++ [page] := by
  rw [pagesAsked]
  split
  · rcases askedOfSmall_cases ask pages with ⟨hall, hnone⟩ | hfailed
    · exact .inl ⟨hall, fun _ => hnone⟩
    · exact .inr hfailed
  · rename_i hlarge
    rcases askedOfLarge_cases ask pages with ⟨hall, hnone⟩ | hfailed
    · exact .inl ⟨hall, fun h => hnone (h.resolve_right hlarge)⟩
    · exact .inr hfailed

theorem pagesAsked_eq_self {ask : UInt32 → Answer} {pages : List UInt32}
    (h : ∀ n ∈ pages, ¬ FailsAtOnce (ask n)) : pagesAsked ask pages = pages := by
  rcases pagesAsked_cases ask pages with ⟨hall, -⟩ | ⟨before, page, after, rfl, hpage, -, -⟩
  · exact hall
  · exact absurd hpage (h page (by simp))

theorem not_failsAtOnce_of_ok {answer : Answer} (h : ∃ found, answer.result = .ok found) :
    ¬ FailsAtOnce answer := by
  rintro ⟨-, error, herror⟩
  obtain ⟨found, hfound⟩ := h
  simp [hfound] at herror

/-! ## The records of several pages -/

/-- The records that a catalog gives for a page; none if it fails. -/
def recordsAt (ask : UInt32 → Answer) (page : UInt32) : List Record :=
  match (ask page).result with
  | .ok found => found.records
  | .error _ => []

def recordsThrough (ask : UInt32 → Answer) (last : UInt32) : List Record :=
  (pagesThrough last).flatMap (recordsAt ask)

theorem flatMap_arrivedPages (ask : UInt32 → Answer) (pages : List UInt32) :
    (arrivedPages (pages.map ask)).flatMap (·.records) = pages.flatMap (recordsAt ask) := by
  induction pages with
  | nil => rfl
  | cons page pages ih =>
      rw [List.map_cons, List.flatMap_cons, arrivedPages, recordsAt]
      cases (ask page).result with
      | ok found => rw [List.flatMap_cons, ih]
      | error error => rw [ih, List.nil_append]

def AllArrive (ask : UInt32 → Answer) (last : UInt32) : Prop :=
  ∀ n : UInt32, 2 ≤ n → n ≤ last → ∃ found, (ask n).result = .ok found

theorem allArrive_iff {ask : UInt32 → Answer} {last : UInt32} :
    AllArrive ask last ↔ ∀ n ∈ pagesAfterFirst last, ∃ found, (ask n).result = .ok found := by
  simp only [AllArrive, mem_pagesAfterFirst, and_imp]

/-- Merging page 1 with the pages that come after it gives the records in page order. -/
theorem merged_eq_recordsThrough {ask : UInt32 → Answer} {head : RemotePage} {last : UInt32}
    (hhead : (ask 1).result = .ok head) (hlast : last ≠ 0) :
    head.records ++ (arrivedPages ((pagesAfterFirst last).map ask)).flatMap (·.records) =
      recordsThrough ask last := by
  have hfirst : recordsAt ask 1 = head.records := by rw [recordsAt, hhead]
  rw [flatMap_arrivedPages, recordsThrough, pagesThrough_eq_cons hlast, List.flatMap_cons, hfirst]

/-- The title or the subtitle holds the term, whatever the case of either. -/
def Mentions (record : Record) (term : String) : Prop :=
  Text.lower term.toList <:+: Text.lower record.title.toList ∨
    Text.lower term.toList <:+: Text.lower record.subtitle.toList

theorem mentions_iff (record : Record) (term : String) :
    record.mentions (Text.lower term.toList) = true ↔ Mentions record term := by
  rw [Record.mentions, Bool.or_eq_true, Text.occursIn_iff, Text.occursIn_iff, Mentions]

instance (record : Record) (term : String) : Decidable (Mentions record term) :=
  decidable_of_iff _ (mentions_iff record term)

theorem withoutMentions_eq (unwanted : String) (records : List Record) :
    withoutMentions unwanted records = records.filter (¬ Mentions · unwanted) := by
  apply List.filter_congr
  intro record _
  simp [← mentions_iff]

/-- What an exclusion leaves of the records on all the pages that page 1 reports. -/
def survivors (ask : UInt32 → Answer) (unwanted : String) : List Record :=
  match (ask 1).result with
  | .ok head => (recordsThrough ask head.pageCount).filter (¬ Mentions · unwanted)
  | .error _ => []

theorem survivors_of_ok {ask : UInt32 → Answer} {head : RemotePage} (unwanted : String)
    (h : (ask 1).result = .ok head) :
    survivors ask unwanted = withoutMentions unwanted (recordsThrough ask head.pageCount) := by
  rw [survivors, h, withoutMentions_eq]

theorem paginate_eq (records : List Record) (page : UInt32) :
    paginate records page =
      { totalPages := pageCount records.length
        books := ((records.drop (10 * (page.toNat - 1))).take 10).map BookSummary.ofRecord } := by
  cases records with
  | nil => simp [paginate, pageCount, pageSize]
  | cons record records =>
      rw [paginate, pageWindow_eq_window]
      rfl

/-! ## The exits of an exclusion -/

theorem pageCount_eq_zero_iff (head : RemotePage) : head.pageCount = 0 ↔ head.total = 0 := by
  rw [← UInt32.toNat_inj, ← UInt64.toNat_inj, RemotePage.pageCount, toNat_pageCount]
  simp only [UInt32.toNat_zero, UInt64.toNat_zero]
  omega

section Exits

variable {catalog : Catalog} {wanted unwanted : String} {page limit : UInt32}

theorem excluding_of_first_failed {error : CatalogError}
    (h : (catalog wanted 1).result = .error error) :
    Run.excluding catalog wanted unwanted page limit =
      { outcome := .error (.unavailable error), calls := [⟨wanted, 1⟩] } := by
  simp only [Run.excluding, h]

variable {head : RemotePage}

theorem excluding_of_no_results (h : (catalog wanted 1).result = .ok head)
    (hzero : head.total = 0) :
    Run.excluding catalog wanted unwanted page limit =
      { outcome := .ok {}, calls := [⟨wanted, 1⟩], events := [.noResults wanted] } := by
  simp only [Run.excluding, h, if_pos hzero]

theorem excluding_of_over_limit (h : (catalog wanted 1).result = .ok head)
    (hlimit : limit < head.pageCount) :
    Run.excluding catalog wanted unwanted page limit =
      { outcome := .error (.unavailable (.tooManyPages head.pageCount limit))
        calls := [⟨wanted, 1⟩]
        events := [.overLimit head.pageCount wanted limit] } := by
  have hsome : ¬ head.total = 0 := by
    rw [← pageCount_eq_zero_iff]
    rintro hzero
    exact absurd hlimit (by simp [hzero])
  simp only [Run.excluding, h, if_neg hsome, if_pos hlimit]

def fanOutCalls (catalog : Catalog) (wanted : String) (last : UInt32) : List Call :=
  ⟨wanted, 1⟩ :: (pagesAsked (catalog wanted) (pagesAfterFirst last)).map (⟨wanted, ·⟩)

/-- The event of a search that goes on after page 1, if there are other pages. -/
def fanOutEvents (wanted : String) (last : UInt32) : List Event :=
  if (pagesAfterFirst last).isEmpty then [] else [.fetchingMore (last - 1) wanted]

theorem excluding_of_page_failed {error : CatalogError} (h : (catalog wanted 1).result = .ok head)
    (hsome : head.total ≠ 0) (hlimit : head.pageCount ≤ limit)
    (hround : gather ((pagesAfterFirst head.pageCount).map (catalog wanted)) = .error error) :
    Run.excluding catalog wanted unwanted page limit =
      { outcome := .error (.unavailable error)
        calls := fanOutCalls catalog wanted head.pageCount
        events := fanOutEvents wanted head.pageCount } := by
  simp only [Run.excluding, h, if_neg hsome, if_neg (UInt32.not_lt.mpr hlimit), hround]
  rfl

theorem excluding_of_merged (h : (catalog wanted 1).result = .ok head)
    (hsome : head.total ≠ 0) (hlimit : head.pageCount ≤ limit)
    (hpages : AllArrive (catalog wanted) head.pageCount) :
    Run.excluding catalog wanted unwanted page limit =
      { outcome := .ok (paginate (survivors (catalog wanted) unwanted) page)
        calls := fanOutCalls catalog wanted head.pageCount
        events := fanOutEvents wanted head.pageCount ++
          [.recordsLeft (survivors (catalog wanted) unwanted).length wanted unwanted] } := by
  have hround := gather_of_ok (allArrive_iff.mp hpages)
  have hmerged := merged_eq_recordsThrough h (mt (pageCount_eq_zero_iff head).mp hsome)
  simp only [Run.excluding, h, if_neg hsome, if_neg (UInt32.not_lt.mpr hlimit), hround, hmerged]
  rw [← survivors_of_ok unwanted h]
  rfl

theorem excluding_calls_of_within_limit (h : (catalog wanted 1).result = .ok head)
    (hsome : head.total ≠ 0) (hlimit : head.pageCount ≤ limit) :
    (Run.excluding catalog wanted unwanted page limit).calls =
      fanOutCalls catalog wanted head.pageCount := by
  by_cases hpages : AllArrive (catalog wanted) head.pageCount
  · rw [excluding_of_merged h hsome hlimit hpages]
  · obtain ⟨-, -, error, -, hround, -⟩ :=
      gather_of_not_ok (pagesAfterFirst_sorted head.pageCount) (mt allArrive_iff.mpr hpages)
    rw [excluding_of_page_failed h hsome hlimit hround]

/-- A search asks for page 1 alone, or goes on to the pages that it reports within the limit. -/
theorem excluding_calls_cases (catalog : Catalog) (wanted unwanted : String) (page limit : UInt32) :
    (Run.excluding catalog wanted unwanted page limit).calls = [⟨wanted, 1⟩] ∨
    ∃ head, (catalog wanted 1).result = .ok head ∧ head.total ≠ 0 ∧ head.pageCount ≤ limit ∧
      (Run.excluding catalog wanted unwanted page limit).calls =
        fanOutCalls catalog wanted head.pageCount := by
  cases hfirst : (catalog wanted 1).result with
  | error error => exact .inl (by rw [excluding_of_first_failed hfirst])
  | ok head =>
      by_cases hzero : head.total = 0
      · exact .inl (by rw [excluding_of_no_results hfirst hzero])
      by_cases hover : limit < head.pageCount
      · exact .inl (by rw [excluding_of_over_limit hfirst hover])
      have hlimit : head.pageCount ≤ limit := UInt32.not_lt.mp hover
      exact .inr ⟨head, rfl, hzero, hlimit, excluding_calls_of_within_limit hfirst hzero hlimit⟩

end Exits

/-! ## Success -/

/-- Page 1 comes in, and so do all that it reports, which are no more than the limit. -/
def Complete (ask : UInt32 → Answer) (limit : UInt32) : Prop :=
  ∃ head, (ask 1).result = .ok head ∧ head.pageCount ≤ limit ∧ AllArrive ask head.pageCount

theorem Complete.allArrive {ask : UInt32 → Answer} {limit : UInt32} {head : RemotePage}
    (h : Complete ask limit) (hfirst : (ask 1).result = .ok head) :
    AllArrive ask head.pageCount := by
  obtain ⟨first, hok, -, hpages⟩ := h
  have heq : head = first := Except.ok.inj (hfirst.symm.trans hok)
  exact heq ▸ hpages

section Success

variable {catalog : Catalog} {wanted unwanted : String} {page limit : UInt32}

theorem survivors_of_no_results {ask : UInt32 → Answer} {head : RemotePage}
    (h : (ask 1).result = .ok head) (hzero : head.total = 0) : survivors ask unwanted = [] := by
  rw [survivors, h]
  simp [recordsThrough, pagesThrough, (pageCount_eq_zero_iff head).mpr hzero]

/-- An exclusion succeeds when the catalog is complete, and returns its page of the survivors. -/
theorem excluding_of_complete (h : Complete (catalog wanted) limit) (unwanted : String)
    (page : UInt32) :
    (Run.excluding catalog wanted unwanted page limit).outcome =
      .ok (paginate (survivors (catalog wanted) unwanted) page) := by
  obtain ⟨head, hfirst, hlimit, hpages⟩ := h
  by_cases hzero : head.total = 0
  · rw [excluding_of_no_results hfirst hzero, survivors_of_no_results hfirst hzero]
    rfl
  · rw [excluding_of_merged hfirst hzero hlimit hpages]

/-- An exclusion over a catalog that is not complete fails by an error of the catalog, or by the
limit, whatever is unwanted and whichever page is asked for. -/
theorem excluding_of_not_complete (h : ¬ Complete (catalog wanted) limit) :
    ∃ error, ∀ unwanted page, (Run.excluding catalog wanted unwanted page limit).outcome =
      .error (.unavailable error) := by
  cases hfirst : (catalog wanted 1).result with
  | error error => exact ⟨error, fun _ _ => by rw [excluding_of_first_failed hfirst]⟩
  | ok head =>
      by_cases hover : limit < head.pageCount
      · exact ⟨_, fun _ _ => by rw [excluding_of_over_limit hfirst hover]⟩
      have hlimit : head.pageCount ≤ limit := UInt32.not_lt.mp hover
      have hpages : ¬ AllArrive (catalog wanted) head.pageCount :=
        fun hpages => h ⟨head, hfirst, hlimit, hpages⟩
      have hsome : head.total ≠ 0 := by
        intro hzero
        apply hpages
        intro n hlow hhigh
        rw [(pageCount_eq_zero_iff head).mpr hzero] at hhigh
        exact absurd (UInt32.le_trans hlow hhigh) (by decide)
      obtain ⟨-, -, error, -, hround, -⟩ :=
        gather_of_not_ok (pagesAfterFirst_sorted head.pageCount) (mt allArrive_iff.mpr hpages)
      exact ⟨error, fun _ _ => by rw [excluding_of_page_failed hfirst hsome hlimit hround]⟩

theorem excluding_eq_ok_iff {found : ResultPage} :
    (Run.excluding catalog wanted unwanted page limit).outcome = .ok found ↔
      Complete (catalog wanted) limit ∧
        found = paginate (survivors (catalog wanted) unwanted) page := by
  by_cases h : Complete (catalog wanted) limit
  · rw [excluding_of_complete h unwanted page, Except.ok.injEq]
    simp [h, eq_comm]
  · obtain ⟨error, hrun⟩ := excluding_of_not_complete h
    simp [hrun, h]

theorem excluding_calls_of_complete {head : RemotePage} (h : (catalog wanted 1).result = .ok head)
    (hlimit : head.pageCount ≤ limit) (hpages : AllArrive (catalog wanted) head.pageCount) :
    (Run.excluding catalog wanted unwanted page limit).calls =
      (1 :: pagesAfterFirst head.pageCount).map (⟨wanted, ·⟩) := by
  by_cases hzero : head.total = 0
  · rw [excluding_of_no_results h hzero, (pageCount_eq_zero_iff head).mpr hzero]
    rfl
  · have hasked := pagesAsked_eq_self
      (fun n hn => not_failsAtOnce_of_ok (allArrive_iff.mp hpages n hn))
    rw [excluding_of_merged h hzero hlimit hpages, fanOutCalls, hasked, List.map_cons]

end Success

end BookFinder.Search
