import BookFinder.Catalog.Memory
import BookFinder.Proofs.Search.Calls

/-! # The page limit of an exclusion

A search whose page 1 reports more pages than the limit stops there. Pages are counted in 32 bits:
a catalog of more pages than these can number gets past the greatest limit that there is, and past
no other. -/

namespace BookFinder.Search

open Catalog

/-! ## Counting without bounds -/

/-- The pages that so many records fill, however many these are. -/
def pagesNeeded (count : Nat) : Nat := (count + (pageSize - 1)) / pageSize

theorem pagesNeeded_le_iff {count pages : Nat} :
    pagesNeeded count ≤ pages ↔ count ≤ pageSize * pages := by
  simp only [pagesNeeded, pageSize]
  omega

theorem toNat_pageCount_eq_min (count : Nat) :
    (pageCount count).toNat = min (pagesNeeded count) (UInt32.size - 1) :=
  toNat_pageCount count

/-- A limit of 32 bits that is not the greatest one is exceeded by the pages as they are counted if
and only if it is by the pages there are. -/
theorem lt_pageCount_iff {count : Nat} {limit : UInt32} :
    limit < pageCount count ↔ limit.toNat < pagesNeeded count ∧ limit.toNat < UInt32.size - 1 := by
  rw [UInt32.lt_iff_toNat_lt, toNat_pageCount_eq_min, Nat.lt_min]

/-! ## Stopping at the limit -/

/-- The run fails because page 1 reports more pages than the limit, and asks for no other page. -/
def StopsAtLimit (run : Run) (wanted : String) (limit : UInt32) : Prop :=
  (∃ reported, run.outcome = .error (.unavailable (.tooManyPages reported limit))) ∧
    run.calls = [⟨wanted, 1⟩]

section Limit

variable {catalog : Catalog} {wanted unwanted : String} {page limit : UInt32} {head : RemotePage}

theorem complete_of_single_call (hfirst : (catalog wanted 1).result = .ok head)
    (hsome : head.total ≠ 0) (hlimit : head.pageCount ≤ limit)
    (hcalls : (Run.excluding catalog wanted unwanted page limit).calls = [⟨wanted, 1⟩]) :
    Complete (catalog wanted) limit := by
  obtain ⟨m, hend, hrow⟩ :=
    fanOutCalls_eq catalog wanted (mt (pageCount_eq_zero_iff head).mp hsome)
  rw [← excluding_calls_of_within_limit hfirst hsome hlimit, hcalls] at hrow
  have hm : m.toNat = 1 := by
    simpa [pagesThrough] using (congrArg List.length hrow).symm
  have hsingle : ∀ n, 2 ≤ n → ¬ n ≤ m := by
    intro n hlow hhigh
    have hle : (2 : UInt32).toNat ≤ m.toNat := UInt32.le_trans hlow hhigh
    rw [hm] at hle
    exact absurd hle (by decide)
  have hlast : head.pageCount ≤ m := by
    refine UInt32.not_lt.mp ?_
    intro hlt
    exact hsingle m (hend.fails hlt).1 (UInt32.le_refl m)
  refine ⟨head, hfirst, hlimit, ?_⟩
  intro n hlow hhigh
  exact absurd (UInt32.le_trans hhigh hlast) (hsingle n hlow)

theorem stopsAtLimit_iff_lt (hfirst : (catalog wanted 1).result = .ok head) :
    StopsAtLimit (Run.excluding catalog wanted unwanted page limit) wanted limit ↔
      limit < head.pageCount := by
  constructor
  · rintro ⟨⟨reported, houtcome⟩, hcalls⟩
    by_contra hover
    have hlimit : head.pageCount ≤ limit := UInt32.not_lt.mp hover
    by_cases hzero : head.total = 0
    · rw [excluding_of_no_results hfirst hzero] at houtcome
      cases houtcome
    · have hcomplete := complete_of_single_call hfirst hzero hlimit hcalls
      rw [excluding_of_complete hcomplete] at houtcome
      cases houtcome
  · intro hover
    rw [excluding_of_over_limit hfirst hover]
    exact ⟨⟨_, rfl⟩, rfl⟩

theorem asked_of_not_stopsAtLimit (hfirst : (catalog wanted 1).result = .ok head)
    (hsome : head.total ≠ 0)
    (hgoes : ¬ StopsAtLimit (Run.excluding catalog wanted unwanted page limit) wanted limit)
    {n : UInt32} (hlow : 1 ≤ n) (hhigh : n ≤ head.pageCount) :
    ⟨wanted, n⟩ ∈ (Run.excluding catalog wanted unwanted page limit).calls ∨
      ∃ k, 2 ≤ k ∧ k < n ∧ FailsAtOnce (catalog wanted k) := by
  have hlimit : head.pageCount ≤ limit :=
    UInt32.not_lt.mp (mt (stopsAtLimit_iff_lt hfirst).mpr hgoes)
  obtain ⟨m, hend, hrow⟩ :=
    fanOutCalls_eq catalog wanted (mt (pageCount_eq_zero_iff head).mp hsome)
  rw [excluding_calls_of_within_limit hfirst hsome hlimit, hrow]
  by_cases hn : n ≤ m
  · exact .inl (List.mem_map_of_mem (mem_pagesThrough.mpr ⟨hlow, hn⟩))
  · have hlt : m < n := UInt32.not_le.mp hn
    obtain ⟨hm, hfails⟩ := hend.fails (UInt32.lt_of_lt_of_le hlt hhigh)
    exact .inr ⟨m, hm, hlt, hfails⟩

/-! ## How exact the limit is -/

/-- The limit is exact for every limit but the greatest number of 32 bits, and under that one for
every total that 32 bits can number the pages of: a search stops at it if and only if the records
need more pages, and one that does not stop asks for each page that they need, unless a page before
it fails at once. Where neither holds the search goes past the limit. -/
theorem limit_exact_iff (hfirst : (catalog wanted 1).result = .ok head) (hsome : head.total ≠ 0)
    (unwanted : String) (page limit : UInt32) :
    let needed := pagesNeeded head.total.toNat
    let run := Run.excluding catalog wanted unwanted page limit
    let countable := limit.toNat < UInt32.size - 1 ∨
      head.total.toNat ≤ pageSize * (UInt32.size - 1)
    ((StopsAtLimit run wanted limit ↔ limit.toNat < needed) ↔ countable) ∧
    (countable → ¬ StopsAtLimit run wanted limit →
      ∀ n : Nat, 1 ≤ n → n ≤ needed → n < UInt32.size ∧
        (⟨wanted, UInt32.ofNat n⟩ ∈ run.calls ∨
          ∃ k : UInt32, 2 ≤ k ∧ k.toNat < n ∧ FailsAtOnce (catalog wanted k))) := by
  intro needed run countable
  have hbound := limit.toNat_lt
  have hstops : StopsAtLimit run wanted limit ↔
      limit.toNat < needed ∧ limit.toNat < UInt32.size - 1 :=
    (stopsAtLimit_iff_lt hfirst).trans lt_pageCount_iff
  have hneeded : needed ≤ UInt32.size - 1 ↔ head.total.toNat ≤ pageSize * (UInt32.size - 1) :=
    pagesNeeded_le_iff
  have hmost : limit.toNat ≤ UInt32.size - 1 := Nat.le_sub_one_of_lt limit.toNat_lt
  constructor
  · rw [hstops]
    simp only [countable]
    omega
  · intro hcountable hgoes n hlow hhigh
    have hfew : needed ≤ UInt32.size - 1 := by
      rcases hcountable with hlimit | htotal
      · have hover : ¬ limit.toNat < needed := fun h => hgoes (hstops.mpr ⟨h, hlimit⟩)
        omega
      · exact hneeded.mpr htotal
    have hn : n < UInt32.size := by
      have : (UInt32.size - 1) + 1 = UInt32.size := rfl
      omega
    have hpage : (UInt32.ofNat n).toNat = n := toNat_ofNat_page hn
    have hcounted : UInt32.ofNat n ≤ head.pageCount := by
      rw [UInt32.le_iff_toNat_le, hpage, RemotePage.pageCount, toNat_pageCount_eq_min]
      exact Nat.le_min.mpr ⟨hhigh, hhigh.trans hfew⟩
    have hfirstPage : 1 ≤ UInt32.ofNat n := by
      rw [UInt32.le_iff_toNat_le, hpage]
      exact hlow
    refine ⟨hn, ?_⟩
    rcases asked_of_not_stopsAtLimit hfirst hsome hgoes hfirstPage hcounted with
      hasked | ⟨k, hk, hbefore, hfails⟩
    · exact .inl hasked
    · rw [UInt32.lt_iff_toNat_lt, hpage] at hbefore
      exact .inr ⟨k, hk, hbefore, hfails⟩

theorem limit_exact_iff_on_huge_total :
    let catalog := Memory.catalog { total := some 99999999999 }
    (catalog "Rust" 1).result = .ok { total := 99999999999 } ∧ (99999999999 : UInt64) ≠ 0 ∧
      StopsAtLimit (Run.excluding catalog "Rust" "Haskell" 1 100) "Rust" 100 := by
  intro catalog
  have hfirst : (catalog "Rust" 1).result = .ok { total := 99999999999 } := rfl
  have hsome : (99999999999 : UInt64) ≠ 0 := by decide
  have hexact := (limit_exact_iff hfirst hsome "Haskell" 1 100).1
  exact ⟨hfirst, hsome, (hexact.mpr (.inl (by decide))).mpr (by decide)⟩

/-- Under the greatest limit a total of one record more than 32 bits can number the pages of is not
refused, although its pages are more than the limit. -/
theorem greatest_limit_exceeded :
    let catalog := Memory.catalog { total := some 42949672951 }
    let limit : UInt32 := 4294967295
    (catalog "java" 1).result = .ok { total := 42949672951 } ∧
      limit.toNat < pagesNeeded (42949672951 : UInt64).toNat ∧
      ¬ StopsAtLimit (Run.excluding catalog "java" "spring" 1 limit) "java" limit := by
  intro catalog limit
  have hfirst : (catalog "java" 1).result = .ok { total := 42949672951 } := rfl
  refine ⟨hfirst, by decide, ?_⟩
  rw [stopsAtLimit_iff_lt hfirst]
  decide

end Limit

end BookFinder.Search
