import BookFinder.Text.Lowercase
import BookFinder.Text.Substring

/-! # Book records and the pages that carry them -/

namespace BookFinder.Catalog

structure Record where
  title : String := ""
  subtitle : String := ""
  image : String := ""
  isbn : String := ""
  price : String := ""
  url : String := ""
deriving DecidableEq, Repr

/-- Whether the title or the subtitle, lowercased, contains `term` as it is. -/
def Record.mentions (record : Record) (term : List Char) : Bool :=
  Text.occursIn term (Text.lower record.title.toList) ||
    Text.occursIn term (Text.lower record.subtitle.toList)

/-- One page of a catalog's answer, with the number of matches over all pages. -/
structure RemotePage where
  total : UInt64 := 0
  records : List Record := []
deriving DecidableEq, Repr

/-- Records on one page, of the catalog's answers as of our own. -/
def pageSize : Nat := 10

/-- The pages that `count` records fill, as far as 32 bits can count them. -/
def pageCount (count : Nat) : UInt32 :=
  UInt32.ofNat (min ((count + (pageSize - 1)) / pageSize) (UInt32.size - 1))

/-- The part of a list that a page of `size` items holds; page 0 counts as page 1. -/
def window {α : Type} (size : Nat) (page : UInt32) (items : List α) : List α :=
  (items.drop (size * (page.toNat - 1))).take size

def saturatingMul (a b : UInt64) : UInt64 :=
  if a.toNat * b.toNat < UInt64.size then a * b else UInt64.ofNat (UInt64.size - 1)

/-- The place of the first record of one of our own pages, as a number of 64 bits; page 0 counts as
page 1. -/
def windowStart (page : UInt32) : UInt64 :=
  saturatingMul (if page = 0 then 0 else page - 1).toUInt64 (UInt64.ofNat pageSize)

def pageWindow (page : UInt32) (records : List Record) : List Record :=
  (records.drop (windowStart page).toNat).take pageSize

def RemotePage.pageCount (page : RemotePage) : UInt32 := Catalog.pageCount page.total.toNat

theorem toNat_pageCount (count : Nat) :
    (pageCount count).toNat = min ((count + 9) / 10) 4294967295 := by
  have : min ((count + 9) / 10) 4294967295 < 4294967296 := by omega
  simp only [pageCount, pageSize, UInt32.size, UInt32.toNat_ofNat']
  omega

/-- No page starts so far back that 64 bits could not say where. -/
theorem toNat_windowStart (page : UInt32) : (windowStart page).toNat = 10 * (page.toNat - 1) := by
  have hlt := page.toNat_lt
  have hpred : (if page = 0 then 0 else page - 1).toUInt64.toNat = page.toNat - 1 := by
    split
    · rename_i h
      simp [h]
    · rename_i h
      have hpos : page.toNat ≠ 0 := fun e => h (UInt32.toNat_inj.mp (by simpa using e))
      have hle : (1 : UInt32) ≤ page := by
        rw [UInt32.le_iff_toNat_le]
        simp
        omega
      rw [UInt32.toNat_toUInt64, UInt32.toNat_sub_of_le _ _ hle]
      rfl
  have hsize : (UInt64.ofNat pageSize).toNat = 10 := rfl
  have hroom : (page.toNat - 1) * 10 < 2 ^ 64 := by omega
  have hfits : (page.toNat - 1) * 10 < UInt64.size := hroom
  rw [windowStart, saturatingMul, hpred, hsize, if_pos hfits, UInt64.toNat_mul, hpred, hsize,
    Nat.mod_eq_of_lt hroom, Nat.mul_comm]

theorem pageWindow_eq_window (page : UInt32) (records : List Record) :
    pageWindow page records = window pageSize page records := by
  rw [pageWindow, toNat_windowStart]
  rfl

end BookFinder.Catalog
