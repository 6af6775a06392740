import BookFinder.Catalog.Memory
import BookFinder.Proofs.Search.Aggregation

/-! # The pages of one exclusion

The windows of ten records lie side by side, so that the pages of an exclusion are the parts of one
list. An exclusion that removes nothing is the plain search.
-/

namespace BookFinder.Search

open Catalog Query

/-! ## Windows side by side -/

theorem flatMap_range_windows {α : Type} (size count : Nat) (items : List α) :
    (List.range count).flatMap (fun i => (items.drop (size * i)).take size) =
      items.take (size * count) := by
  induction count with
  | zero => simp
  | succ count ih =>
      rw [List.range_succ, List.flatMap_append, ih, Nat.mul_succ, List.take_add]
      simp

theorem flatMap_pagesThrough {β : Type} (last : UInt32) (f : UInt32 → List β) (g : Nat → List β)
    (h : ∀ p : UInt32, p ≠ 0 → f p = g (p.toNat - 1)) :
    (pagesThrough last).flatMap f = (List.range last.toNat).flatMap g := by
  have hlast := last.toNat_lt
  rw [pagesThrough, List.range'_eq_map_range, List.map_map, List.flatMap_map]
  apply List.flatMap_congr
  intro i hi
  have hn : (UInt32.ofNat (1 + i)).toNat = 1 + i :=
    toNat_ofNat_page (by have := List.mem_range.mp hi; omega)
  have hne : UInt32.ofNat (1 + i) ≠ 0 := by
    intro h0
    rw [h0, UInt32.toNat_zero] at hn
    omega
  simp only [Function.comp_apply]
  rw [h _ hne, hn, Nat.add_sub_cancel_left]

theorem flatMap_windows_eq {α : Type} {last : UInt32} {items : List α}
    (h : items.length ≤ 10 * last.toNat) :
    (pagesThrough last).flatMap (fun p => (items.drop (10 * (p.toNat - 1))).take 10) = items := by
  rw [flatMap_pagesThrough last _ (fun i => (items.drop (10 * i)).take 10) (fun _ _ => rfl),
    flatMap_range_windows, List.take_of_length_le h]

/-! ## Counting pages and books -/

/-- As many items as can be on numbered pages are counted without saturation. -/
theorem toNat_pageCount_of_fits {count : Nat} (h : count ≤ 10 * (2 ^ 32 - 1)) :
    (pageCount count).toNat = (count + 9) / 10 := by
  rw [toNat_pageCount]
  omega

theorem toNat_ofNat_of_fits {count : Nat} (h : count ≤ 10 * (2 ^ 32 - 1)) :
    (UInt64.ofNat count).toNat = count :=
  UInt64.toNat_ofNat_of_lt' (lt_of_le_of_lt h (by decide))

theorem length_paginate_books (records : List Record) (page : UInt32) :
    (paginate records page).books.length = min 10 (records.length - 10 * (page.toNat - 1)) := by
  rw [paginate_eq, List.length_map, List.length_take, List.length_drop]

theorem flatMap_paginate_books {records : List Record} {last : UInt32}
    (h : records.length ≤ 10 * last.toNat) :
    (pagesThrough last).flatMap (fun p => (paginate records p).books) =
      records.map BookSummary.ofRecord := by
  have hbooks (p : UInt32) : (paginate records p).books =
      ((records.drop (10 * (p.toNat - 1))).take 10).map BookSummary.ofRecord := by
    rw [paginate_eq]
  calc (pagesThrough last).flatMap (fun p => (paginate records p).books)
    _ = (pagesThrough last).flatMap (fun p =>
          ((records.drop (10 * (p.toNat - 1))).take 10).map BookSummary.ofRecord) :=
        List.flatMap_congr (fun p _ => hbooks p)
    _ = records.map BookSummary.ofRecord := by
        rw [← List.map_flatMap, flatMap_windows_eq h]

/-! ## The partition -/

/-- The pages of one exclusion partition its filtered set: all are found by the same calls and count
the same pages, each but the last is full, none is empty before the last or filled after it, and one
after the other they are the whole set. No count or position on the way leaves its type. -/
theorem excluding_pages_partition {catalog : Catalog} {wanted unwanted : String}
    {page limit : UInt32} {found : ResultPage}
    (hsuccess : (Run.excluding catalog wanted unwanted page limit).outcome = .ok found)
    (hsize : (survivors (catalog wanted) unwanted).length ≤ 10 * (2 ^ 32 - 1)) :
    let left := survivors (catalog wanted) unwanted
    let run (p : UInt32) := Run.excluding catalog wanted unwanted p limit
    ∃ (result : UInt32 → ResultPage) (last : UInt32),
      (∀ p, (run p).outcome = .ok (result p)) ∧
      (∀ p, (run p).calls = (run page).calls) ∧
      last.toNat = (left.length + 9) / 10 ∧
      (last = 0 ↔ left = []) ∧
      (∀ p, (result p).totalPages = last) ∧
      (∀ p, 1 ≤ p → p < last → (result p).books.length = 10) ∧
      (last ≠ 0 → 1 ≤ (result last).books.length ∧ (result last).books.length ≤ 10) ∧
      (∀ p, last < p → (result p).books = []) ∧
      result 0 = result 1 ∧
      ((pagesThrough last).flatMap (fun p => (result p).books) = left.map fun record =>
        { title := record.title, subtitle := record.subtitle, image := record.image }) ∧
      (∀ p, (windowStart p).toNat = 10 * (p.toNat - 1)) ∧
      (UInt64.ofNat left.length).toNat = left.length := by
  intro left run
  have hcomplete : Complete (catalog wanted) limit := (excluding_eq_ok_iff.mp hsuccess).1
  have hlast : (pageCount left.length).toNat = (left.length + 9) / 10 :=
    toNat_pageCount_of_fits hsize
  refine ⟨paginate left, pageCount left.length, ?_, ?_, hlast, ?_, ?_, ?_, ?_, ?_, ?_, ?_,
    toNat_windowStart, ?_⟩
  · intro p
    exact excluding_of_complete hcomplete unwanted p
  · intro p
    obtain ⟨head, hfirst, hlimit, hpages⟩ := hcomplete
    rw [excluding_calls_of_complete hfirst hlimit hpages,
      excluding_calls_of_complete hfirst hlimit hpages]
  · rw [← UInt32.toNat_inj, hlast, ← List.length_eq_zero_iff, UInt32.toNat_zero]
    omega
  · intro p
    rw [paginate_eq]
  · intro p hlow hhigh
    rw [UInt32.le_iff_toNat_le, UInt32.toNat_one] at hlow
    rw [UInt32.lt_iff_toNat_lt, hlast] at hhigh
    rw [length_paginate_books]
    omega
  · intro hne
    have hpos : (pageCount left.length).toNat ≠ 0 := fun h => hne (UInt32.toNat_inj.mp h)
    rw [length_paginate_books]
    omega
  · intro p hlow
    rw [UInt32.lt_iff_toNat_lt, hlast] at hlow
    rw [← List.length_eq_zero_iff, length_paginate_books]
    omega
  · rw [paginate_eq, paginate_eq]
    rfl
  · exact flatMap_paginate_books (by omega)
  · exact toNat_ofNat_of_fits hsize

/-- Twelve volumes less one fill one page and begin another. -/
theorem excluding_pages_partition_of_twelve_volumes :
    let catalog := Memory.catalog { books := fun series => (List.range 12).map (volume series) }
    let left := survivors (catalog "Rust") "7"
    ∃ (result : UInt32 → ResultPage) (last : UInt32),
      (∀ p, (Run.excluding catalog "Rust" "7" p 100).outcome = .ok (result p)) ∧
      last.toNat = 2 ∧
      (pagesThrough last).flatMap (fun p => (result p).books) = left.map fun record =>
        { title := record.title, subtitle := record.subtitle, image := record.image } := by
  intro catalog left
  have hfirst : (catalog "Rust" 1).result =
      .ok { total := 12, records := (List.range 10).map (volume "Rust") } := by decide +kernel
  have hcomplete : Complete (catalog "Rust") 100 :=
    ⟨_, hfirst, by decide, fun _ _ _ => ⟨_, rfl⟩⟩
  have hlen : left.length = 11 := by decide +kernel
  obtain ⟨result, last, hresult, -, hlast, -, -, -, -, -, -, hall, -, -⟩ :=
    excluding_pages_partition (excluding_of_complete hcomplete "7" 1)
      (by rw [hlen]; decide)
  refine ⟨result, last, hresult, ?_, hall⟩
  rw [hlast, hlen]

/-! ## An exclusion that removes nothing -/

/-- Each page reports how many records there are, and holds ten of them from its place on; page 0 is
page 1. -/
def Serves (ask : UInt32 → Answer) (records : List Record) : Prop :=
  ∀ n, (ask n).result =
    .ok { total := UInt64.ofNat records.length, records := window pageSize n records }

theorem serves_memory (books : String → List Record) (keyword : String) :
    Serves (Memory.catalog { books } keyword) (books keyword) := fun _ => rfl

section Serves

variable {catalog : Catalog} {wanted unwanted : String} {records : List Record} {limit : UInt32}

/-- What a catalog serves under that number of pages is the list again. -/
theorem Serves.recordsThrough_eq {ask : UInt32 → Answer} {last : UInt32}
    (h : Serves ask records) (hlast : records.length ≤ 10 * last.toNat) :
    recordsThrough ask last = records := by
  have hat : recordsAt ask = fun n => (records.drop (10 * (n.toNat - 1))).take 10 := by
    funext n
    rw [recordsAt, h n]
    rfl
  rw [recordsThrough, hat, flatMap_windows_eq hlast]

theorem pageCount_of_fits (hsize : records.length ≤ 10 * (2 ^ 32 - 1)) (part : List Record) :
    (RemotePage.mk (UInt64.ofNat records.length) part).pageCount = pageCount records.length := by
  rw [RemotePage.pageCount, toNat_ofNat_of_fits hsize]

theorem plain_of_serves (hserves : Serves (catalog wanted) records)
    (hsize : records.length ≤ 10 * (2 ^ 32 - 1)) (page : UInt32) :
    (Run.plain catalog wanted page).outcome = .ok (paginate records page) := by
  have hcount := pageCount_of_fits hsize
  cases records with
  | nil =>
      simp only [Run.plain, hserves page]
      rfl
  | cons record records =>
      have hsome : ¬ UInt64.ofNat (record :: records).length = 0 := by
        rw [← UInt64.toNat_inj, toNat_ofNat_of_fits hsize]
        simp
      simp only [Run.plain, hserves page, if_neg hsome, hcount]
      rw [paginate, pageWindow_eq_window]
      rfl

theorem excluding_of_serves (hserves : Serves (catalog wanted) records)
    (hsize : records.length ≤ 10 * (2 ^ 32 - 1))
    (hunmentioned : ∀ record ∈ records, ¬ Mentions record unwanted)
    (hlimit : (records.length + 9) / 10 ≤ limit.toNat) (page : UInt32) :
    (Run.excluding catalog wanted unwanted page limit).outcome =
      .ok (paginate records page) := by
  have hcount := pageCount_of_fits hsize
  have hpages : (pageCount records.length).toNat = (records.length + 9) / 10 :=
    toNat_pageCount_of_fits hsize
  have hcomplete : Complete (catalog wanted) limit := by
    refine ⟨_, hserves 1, ?_, fun n _ _ => ⟨_, hserves n⟩⟩
    rw [hcount, UInt32.le_iff_toNat_le, hpages]
    exact hlimit
  have hleft : survivors (catalog wanted) unwanted = records := by
    rw [survivors, hserves 1]
    simp only [hcount]
    rw [hserves.recordsThrough_eq (by omega), List.filter_eq_self]
    simpa using hunmentioned
  rw [excluding_of_complete hcomplete unwanted page, hleft]

/-- Over a catalog that serves a list no record of which mentions the unwanted term, an exclusion
puts the list together again and cuts it as the plain search finds it cut. -/
theorem excluding_agrees_with_plain (page : UInt32) (hserves : Serves (catalog wanted) records)
    (hsize : records.length ≤ 10 * (2 ^ 32 - 1))
    (hunmentioned : ∀ record ∈ records, ¬ Mentions record unwanted)
    (hlimit : (records.length + 9) / 10 ≤ limit.toNat) :
    ∃ found : ResultPage,
      (execute catalog limit (.excluding wanted unwanted) page).outcome = .ok found ∧
      (execute catalog limit (.plain wanted) page).outcome = .ok found := by
  refine ⟨paginate records page, ?_, ?_⟩
  · exact excluding_of_serves hserves hsize hunmentioned hlimit page
  · exact plain_of_serves hserves hsize page

/-- Of two pages of fourteen volumes, all of which lack the unwanted word, the second. -/
theorem excluding_agrees_with_plain_on_volumes :
    let catalog := Memory.catalog { books := fun series => (List.range 14).map (volume series) }
    ∃ found : ResultPage,
      (execute catalog 2 (.excluding "Rust" "Haskell") 2).outcome = .ok found ∧
      (execute catalog 2 (.plain "Rust") 2).outcome = .ok found :=
  excluding_agrees_with_plain 2 (serves_memory _ "Rust") (by decide +kernel) (by decide +kernel)
    (by decide +kernel)

end Serves

end BookFinder.Search
