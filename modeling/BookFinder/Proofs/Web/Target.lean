import BookFinder.Text.Split
import BookFinder.Web.Target

/-! # Paths and queries of targets

Where path and query hold nothing but characters that may stand in them, a target has just them, and
no fragment comes into it. -/

namespace BookFinder.Web.Target

open Text

theorem not_mem_of_forall {isOfClass : Char → Bool} {d : Char} (hd : isOfClass d = false)
    {cs : List Char} (h : ∀ c ∈ cs, isOfClass c = true) : d ∉ cs := by
  intro hmem
  simp [h d hmem] at hd

section Path

variable {path : List Char} (hpath : ∀ c ∈ path, isPathChar c = true)

include hpath

theorem ofPathAndQuery_eq {query fragment : Option (List Char)}
    (hquery : ∀ cs ∈ query, ∀ c ∈ cs, isQueryChar c = true) :
    ofPathAndQuery (path ++ query.elim [] ('?' :: ·) ++ fragment.elim [] ('#' :: ·)) =
      some { path := if path.isEmpty then ['/'] else path, query } := by
  have hhash : '#' ∉ path ++ query.elim [] ('?' :: ·) := by
    have hfront : '#' ∉ path := not_mem_of_forall (by decide) hpath
    cases query with
    | none => simpa using hfront
    | some cs =>
        have hback : '#' ∉ cs := not_mem_of_forall (by decide) (hquery cs rfl)
        simp [hfront, hback]
  have hwhole := (span_append (forall_mem_bne hhash)
    (show ∀ c ∈ (fragment.elim [] ('#' :: ·)).head?, (c != '#') = false by
      cases fragment <;> simp)).1
  have hspan := span_append
    (forall_mem_bne (not_mem_of_forall (d := '?') (by decide) hpath))
    (show ∀ c ∈ (query.elim [] ('?' :: ·)).head?, (c != '?') = false by cases query <;> simp)
  have hall := List.all_eq_true.mpr hpath
  simp only [ofPathAndQuery, hwhole, hspan, hall]
  cases query with
  | none => rfl
  | some cs => simp [List.all_eq_true.mpr (hquery cs rfl)]

theorem ofPathAndQuery_query (hne : path ≠ []) {query : List Char}
    (hquery : ∀ c ∈ query, isQueryChar c = true) :
    ofPathAndQuery (path ++ '?' :: query) = some { path, query := some query } := by
  have h := @ofPathAndQuery_eq path hpath (some query) none (by simpa using hquery)
  simpa [hne] using h

theorem ofPathAndQuery_path (hne : path ≠ []) : ofPathAndQuery path = some { path } := by
  have h := @ofPathAndQuery_eq path hpath none none (by simp)
  simpa [hne] using h

end Path

end BookFinder.Web.Target
