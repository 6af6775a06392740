import BookFinder.Catalog.Basic

/-! # Catalogs held in memory

The books of each keyword are given as a list, which is cut into pages. Totals, delays and failures
of single pages can be set apart from the books.
-/

namespace BookFinder.Catalog

structure Memory where
  books : String → List Record := fun _ => []
  pageSize : Nat := 10
  /-- The total that every page reports in place of the number of books. -/
  total : Option UInt64 := none
  /-- Totals that single pages report in place of any other. -/
  totals : UInt32 → Option UInt64 := fun _ => none
  delay : UInt32 → Nat := fun _ => 0
  failure : UInt32 → Option CatalogError := fun _ => none

def Memory.page (memory : Memory) (keyword : String) (page : UInt32) : RemotePage :=
  let books := memory.books keyword
  { total := ((memory.totals page).or memory.total).getD (UInt64.ofNat books.length)
    records := window memory.pageSize page books }

def Memory.catalog (memory : Memory) : Catalog := fun keyword page =>
  { delay := memory.delay page
    result := match memory.failure page with
      | some error => .error error
      | none => .ok (memory.page keyword page) }

/-- The `i`-th volume of a series. -/
def volume (series : String) (i : Nat) : Record :=
  { title := series ++ " " ++ toString i
    subtitle := "Volume " ++ toString i
    image := "https://img.example/" ++ toString i ++ ".png" }

end BookFinder.Catalog
