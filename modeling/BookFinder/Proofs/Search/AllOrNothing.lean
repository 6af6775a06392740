import BookFinder.Proofs.Search.Agreement

/-! # Exclusions are all or nothing

An exclusion returns the whole filtered set, cut into pages, or fails; the order in which the pages
of the catalog come in has no part in it. -/

namespace BookFinder.Search

open Catalog

/-! ## Pages that come in one by one -/

/-- What an exclusion comes to when the pages after page 1 come in one by one, in the given order;
nothing while one of them is missing. -/
def outcomeInOrder (ask : UInt32 → Answer) (unwanted : String) (page limit : UInt32)
    (order : List UInt32) : Option (Except SearchError ResultPage) :=
  match (ask 1).result with
  | .error error => some (.error (.unavailable error))
  | .ok head =>
    if head.total = 0 then some (.ok {})
    else if limit < head.pageCount then
      some (.error (.unavailable (.tooManyPages head.pageCount limit)))
    else
      let others := pagesAfterFirst head.pageCount
      match (Round.run ask others order).result others with
      | none => none
      | some (.error error) => some (.error (.unavailable error))
      | some (.ok rest) =>
        some (.ok (paginate (withoutMentions unwanted
          (head.records ++ rest.flatMap (·.records))) page))

section Orders

variable {catalog : Catalog} {wanted : String} {limit : UInt32} {head : RemotePage}
  {order : List UInt32}

theorem outcomeInOrder_of_arrival (hfirst : (catalog wanted 1).result = .ok head)
    (hperm : order.Perm (pagesAfterFirst head.pageCount))
    (horder : head.pageCount.toNat - 1 ≤ smallRound → order.Pairwise (Precedes (catalog wanted)))
    {unwanted : String} {page : UInt32} :
    outcomeInOrder (catalog wanted) unwanted page limit order =
      some (Run.excluding catalog wanted unwanted page limit).outcome := by
  rw [← length_pagesAfterFirst] at horder
  have hround := Round.result_run_eq_gather (pagesAfterFirst_sorted head.pageCount) hperm horder
  simp only [outcomeInOrder, Run.excluding, hfirst, hround]
  split
  · rfl
  · split
    · rfl
    · cases gather ((pagesAfterFirst head.pageCount).map (catalog wanted)) <;> rfl

theorem outcomeInOrder_of_any_order (hfirst : (catalog wanted 1).result = .ok head)
    (hsome : head.total ≠ 0) (hlimit : head.pageCount ≤ limit)
    (hperm : order.Perm (pagesAfterFirst head.pageCount)) (unwanted : String) (page : UInt32) :
    (AllArrive (catalog wanted) head.pageCount ∧
      outcomeInOrder (catalog wanted) unwanted page limit order =
        some (.ok (paginate (survivors (catalog wanted) unwanted) page))) ∨
    ∃ (n : UInt32) (error : CatalogError), 2 ≤ n ∧ n ≤ head.pageCount ∧
      (catalog wanted n).result = .error error ∧
      outcomeInOrder (catalog wanted) unwanted page limit order =
        some (.error (.unavailable error)) := by
  by_cases hpages : AllArrive (catalog wanted) head.pageCount
  · have hround := Round.result_run_of_ok hperm (allArrive_iff.mp hpages)
    have hmerged := merged_eq_recordsThrough hfirst (mt (pageCount_eq_zero_iff head).mp hsome)
    refine .inl ⟨hpages, ?_⟩
    simp only [outcomeInOrder, hfirst, if_neg hsome, if_neg (UInt32.not_lt.mpr hlimit), hround,
      hmerged]
    rw [survivors_of_ok unwanted hfirst]
  · obtain ⟨n, hmem, error, herror, hrun⟩ := Round.run_of_not_ok hperm (mt allArrive_iff.mpr hpages)
    obtain ⟨hlow, hhigh⟩ := mem_pagesAfterFirst.mp hmem
    refine .inr ⟨n, error, hlow, hhigh, herror, ?_⟩
    simp only [outcomeInOrder, hfirst, if_neg hsome, if_neg (UInt32.not_lt.mpr hlimit), hrun,
      Round.result]

/-- In whatever order the pages come in, the search ends; it succeeds if and only if it does under
the delays of the catalog, with the same result, and otherwise fails by the failure of a page. -/
theorem outcomeInOrder_spec (hfirst : (catalog wanted 1).result = .ok head)
    (hsome : head.total ≠ 0) (hlimit : head.pageCount ≤ limit)
    (hperm : order.Perm (pagesAfterFirst head.pageCount)) (unwanted : String) (page : UInt32) :
    ∃ result, outcomeInOrder (catalog wanted) unwanted page limit order = some result ∧
      (∀ found, result = .ok found ↔
        (Run.excluding catalog wanted unwanted page limit).outcome = .ok found) ∧
      (∀ failure, result = .error failure →
        ∃ (n : UInt32) (error : CatalogError), 2 ≤ n ∧ n ≤ head.pageCount ∧
          (catalog wanted n).result = .error error ∧ failure = .unavailable error) := by
  rcases outcomeInOrder_of_any_order hfirst hsome hlimit hperm unwanted page with
    ⟨hpages, hresult⟩ | ⟨n, error, hlow, hhigh, herror, hresult⟩
  · refine ⟨_, hresult, ?_, by simp⟩
    intro found
    rw [excluding_of_complete ⟨head, hfirst, hlimit, hpages⟩ unwanted page]
  · refine ⟨_, hresult, ?_, ?_⟩
    · intro found
      refine ⟨by simp, ?_⟩
      intro hfound
      obtain ⟨other, hother⟩ := (excluding_eq_ok_iff.mp hfound).1.allArrive hfirst n hlow hhigh
      simp [hother] at herror
    · intro failure hfailure
      exact ⟨n, error, hlow, hhigh, herror, (Except.error.inj hfailure).symm⟩

theorem excluding_failed (hfirst : (catalog wanted 1).result = .ok head) (hsome : head.total ≠ 0)
    (hlimit : head.pageCount ≤ limit) {unwanted : String} {page : UInt32} {failure : SearchError}
    (h : (Run.excluding catalog wanted unwanted page limit).outcome = .error failure) :
    ∃ (n : UInt32) (error : CatalogError), 2 ≤ n ∧ n ≤ head.pageCount ∧
      (catalog wanted n).result = .error error ∧ failure = .unavailable error ∧
      (head.pageCount.toNat - 1 ≤ smallRound → ∀ k : UInt32, 2 ≤ k → k ≤ head.pageCount →
        (∃ e, (catalog wanted k).result = .error e) → k = n ∨ Precedes (catalog wanted) n k) ∧
      (smallRound < head.pageCount.toNat - 1 → ∀ k : UInt32, 2 ≤ k → k < n →
        ∃ other, (catalog wanted k).result = .ok other) := by
  have hpages : ¬ AllArrive (catalog wanted) head.pageCount := by
    intro hpages
    rw [excluding_of_merged hfirst hsome hlimit hpages] at h
    cases h
  obtain ⟨n, hmem, error, herror, hround, hsmall, hlarge⟩ :=
    gather_of_not_ok (pagesAfterFirst_sorted head.pageCount) (mt allArrive_iff.mpr hpages)
  obtain ⟨hlow, hhigh⟩ := mem_pagesAfterFirst.mp hmem
  rw [excluding_of_page_failed hfirst hsome hlimit hround, Except.error.injEq] at h
  rw [length_pagesAfterFirst] at hsmall hlarge
  refine ⟨n, error, hlow, hhigh, herror, h.symm, ?_, ?_⟩
  · intro hle k hk hkn
    exact hsmall hle k (mem_pagesAfterFirst.mpr ⟨hk, hkn⟩)
  · intro hlt k hk hkn
    have hkl := UInt32.le_trans (UInt32.le_of_lt hkn) hhigh
    exact hlarge hlt k (mem_pagesAfterFirst.mpr ⟨hk, hkl⟩) hkn

end Orders

/-! ## All or nothing -/

theorem keeps_excluding {catalog other : Catalog} {wanted unwanted : String} {page limit : UInt32}
    (hsame : ∀ n, (other wanted n).result = (catalog wanted n).result) :
    Keeps catalog other (Run.excluding catalog wanted unwanted page limit).calls := by
  intro call hcall found hfound
  rw [excluding_calls_keyword hcall] at hfound ⊢
  rw [hsame, hfound]

/-- Page 1 decides first: its failure is the failure of the search, no results are no error, and too
many pages are one. After that the search succeeds if and only if every page comes in, and fails by
the failure of a page: of the first to come in, or of the lowest if there are more than 30 pages
after page 1. A success is a page of the filtered records of all pages in their order. In whatever
order the pages come in, and under whatever delays, a success is the same. -/
theorem excluding_all_or_nothing (catalog : Catalog) (wanted unwanted : String)
    (page limit : UInt32) :
    let ask := catalog wanted
    let outcome := (Run.excluding catalog wanted unwanted page limit).outcome
    (∀ error, (ask 1).result = .error error → outcome = .error (.unavailable error)) ∧
    (∀ head, (ask 1).result = .ok head →
      let last := pageCount head.total.toNat
      (head.total = 0 → outcome = .ok { totalPages := 0, books := [] }) ∧
      (limit < last → outcome = .error (.unavailable (.tooManyPages last limit))) ∧
      (head.total ≠ 0 → last ≤ limit →
        ((∃ found, outcome = .ok found) ↔
          ∀ n : UInt32, 2 ≤ n → n ≤ last → ∃ other, (ask n).result = .ok other) ∧
        (∀ failure, outcome = .error failure →
          ∃ (n : UInt32) (error : CatalogError), 2 ≤ n ∧ n ≤ last ∧
            (ask n).result = .error error ∧ failure = .unavailable error ∧
            (last.toNat - 1 ≤ 30 → ∀ k : UInt32, 2 ≤ k → k ≤ last →
              (∃ e, (ask k).result = .error e) → k = n ∨ Precedes ask n k) ∧
            (30 < last.toNat - 1 → ∀ k : UInt32, 2 ≤ k → k < n →
              ∃ other, (ask k).result = .ok other)) ∧
        (∃ order : List UInt32, order.Perm (pagesAfterFirst last) ∧
          order.Pairwise (Precedes ask)) ∧
        (∀ order, order.Perm (pagesAfterFirst last) →
          ∃ result, outcomeInOrder ask unwanted page limit order = some result ∧
            (∀ found, result = .ok found ↔ outcome = .ok found) ∧
            (∀ failure, result = .error failure →
              ∃ (n : UInt32) (error : CatalogError), 2 ≤ n ∧ n ≤ last ∧
                (ask n).result = .error error ∧ failure = .unavailable error) ∧
            ((last.toNat - 1 ≤ 30 → order.Pairwise (Precedes ask)) → result = outcome))) ∧
      (∀ found, outcome = .ok found →
        let left := (recordsThrough ask last).filter (¬ Mentions · unwanted)
        found.totalPages = pageCount left.length ∧
        found.books = ((left.drop (10 * (page.toNat - 1))).take 10).map fun record =>
          { title := record.title, subtitle := record.subtitle, image := record.image })) ∧
    ∀ other : Catalog, (∀ n, (other wanted n).result = (ask n).result) → ∀ found,
      (Run.excluding other wanted unwanted page limit).outcome = .ok found ↔
        outcome = .ok found := by
  intro ask outcome
  refine ⟨?_, ?_, ?_⟩
  · intro error herror
    exact congrArg Run.outcome (excluding_of_first_failed herror)
  · intro head hfirst last
    refine ⟨?_, ?_, ?_, ?_⟩
    · intro hzero
      exact congrArg Run.outcome (excluding_of_no_results hfirst hzero)
    · intro hlimit
      exact congrArg Run.outcome (excluding_of_over_limit hfirst hlimit)
    · intro hsome hlimit
      refine ⟨⟨?_, ?_⟩, ?_, ?_, ?_⟩
      · rintro ⟨found, hfound⟩
        exact (excluding_eq_ok_iff.mp hfound).1.allArrive hfirst
      · intro hpages
        exact ⟨_, excluding_of_complete ⟨head, hfirst, hlimit, hpages⟩ unwanted page⟩
      · intro failure hfailure
        exact excluding_failed hfirst hsome hlimit hfailure
      · exact exists_arrival_order ask (pagesAfterFirst_sorted last)
      · intro order hperm
        obtain ⟨result, hresult, hok, hfailed⟩ :=
          outcomeInOrder_spec hfirst hsome hlimit hperm unwanted page
        refine ⟨result, hresult, hok, hfailed, ?_⟩
        intro horder
        exact Option.some.inj (hresult.symm.trans
          (outcomeInOrder_of_arrival hfirst hperm horder))
    · intro found hfound
      have hpage := (excluding_eq_ok_iff.mp hfound).2
      rw [paginate_eq, survivors_of_ok unwanted hfirst, withoutMentions_eq] at hpage
      rw [hpage]
      exact ⟨rfl, rfl⟩
  · intro other hsame found
    constructor
    · intro hfound
      exact (excluding_of_keeps hfound (keeps_excluding (fun n => (hsame n).symm))).1
    · intro hfound
      exact (excluding_of_keeps hfound (keeps_excluding hsame)).1

end BookFinder.Search
