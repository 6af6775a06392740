import BookFinder.Catalog.Memory
import BookFinder.Proofs.Query.Grammar
import BookFinder.Proofs.Search.Calls

/-! # Blank terms

A keyword that is blank is refused. What the catalog is asked for is a part of the keyword, and that
part can be blank all the same: in front of a `-` there may be nothing but white space. -/

namespace BookFinder

namespace Query

/-- The first character of the keyword that is not white space is a `-`, so that it names nothing
that is wanted. -/
def LacksWanted (raw : String) : Prop := raw.toList.find? (!Text.isBlank ·) = some '-'

theorem isBlank_iff_find? (text : String) :
    IsBlank text ↔ text.toList.find? (!Text.isBlank ·) = none := by
  simp [IsBlank, List.find?_eq_none]

theorem lacksWanted_append_iff {wanted : String} (h : IsTerm wanted) (unwanted : String) :
    LacksWanted (wanted ++ "-" ++ unwanted) ↔ IsBlank wanted := by
  have htext : (wanted ++ "-" ++ unwanted).toList = wanted.toList ++ '-' :: unwanted.toList := by
    simp
  rw [LacksWanted, isBlank_iff_find?, htext, List.find?_append]
  cases hfind : wanted.toList.find? (!Text.isBlank ·) with
  | none => simp [show Text.isBlank '-' = false by decide]
  | some c =>
      have hc : c ≠ '-' := by
        rintro rfl
        exact not_mem_of_operatorCount h.no_operator .without (List.mem_of_find?_eq_some hfind)
      simp [hc]

/-- The search term of an accepted keyword is blank just where the keyword lacks one. -/
theorem isBlank_searchTerm_iff {raw : String} {expression : Expression}
    (h : Expression.parse raw = .ok expression) :
    IsBlank expression.searchTerm ↔ LacksWanted raw := by
  have hverdict := verdict_parse raw
  rw [h] at hverdict
  cases hverdict with
  | excluding hwording hwanted hunwanted hraw =>
      rw [← hraw, lacksWanted_append_iff hwanted]
      rfl
  | plain hwording hfew hend hmark =>
      have hwritten : ¬ IsBlank raw := hwording.not_blank
      have hfirst : ¬ LacksWanted raw := fun hlacks => hmark (List.mem_of_find?_eq_some hlacks)
      exact iff_of_false hwritten hfirst

end Query

namespace Search

open Catalog Query

theorem one_le_of_mem_execute_calls {catalog : Catalog} {limit page : UInt32}
    {expression : Expression} (hpage : 1 ≤ page) {call : Call}
    (h : call ∈ (execute catalog limit expression page).calls) : 1 ≤ call.page := by
  cases expression with
  | plain keyword =>
      have hcalls : (execute catalog limit (.plain keyword) page).calls = [⟨keyword, page⟩] :=
        plain_calls catalog keyword page
      rw [hcalls, List.mem_singleton] at h
      rw [h]
      exact hpage
  | excluding wanted unwanted =>
      obtain ⟨m, hcalls, -⟩ := excluding_calls_row catalog wanted unwanted page limit
      have hcall : call ∈ (Run.excluding catalog wanted unwanted page limit).calls := h
      rw [hcalls] at hcall
      obtain ⟨n, hn, rfl⟩ := List.mem_map.mp hcall
      exact (mem_pagesThrough.mp hn).1

theorem one_le_of_mem_search_calls {catalog : Catalog} {limit : UInt32} {keyword page : String}
    {call : Call} (h : call ∈ (search catalog limit keyword page).calls) : 1 ≤ call.page := by
  rcases search_cases limit keyword page with
    ⟨error, -, hrun⟩ | ⟨expression, number, -, hpage, hrun⟩
  · rw [hrun] at h
    exact absurd h List.not_mem_nil
  · rw [hrun] at h
    exact one_le_of_mem_execute_calls (one_le_of_parsePage hpage) h

/-- The catalog is asked for pages from 1 on, and for a blank term just where the keyword has a `-`
in front of all that is not white space. For any other keyword neither the term of the expression
nor any term that the catalog is asked for is blank. -/
theorem asked_blank_iff (catalog : Catalog) (limit : UInt32) (keyword page : String) :
    (∀ expression, Expression.parse keyword = .ok expression →
      (IsBlank expression.searchTerm ↔ LacksWanted keyword)) ∧
    ∀ call ∈ (search catalog limit keyword page).calls,
      1 ≤ call.page ∧ (IsBlank call.keyword ↔ LacksWanted keyword) := by
  refine ⟨fun expression hparse => isBlank_searchTerm_iff hparse, ?_⟩
  intro call hcall
  refine ⟨one_le_of_mem_search_calls hcall, ?_⟩
  obtain ⟨expression, hparse, hterm⟩ := search_calls_keyword hcall
  rw [hterm]
  exact isBlank_searchTerm_iff hparse

theorem asked_blank_iff_of_spaced_term :
    let calls := (search (Memory.catalog {}) defaultLimit "\u3000java -spring" "07").calls
    Expression.parse "\u3000java -spring" = .ok (.excluding "\u3000java " "spring") ∧
      calls = [⟨"\u3000java ", 1⟩] ∧ ∀ call ∈ calls, ¬ IsBlank call.keyword := by
  intro calls
  have hwanted : ¬ LacksWanted "\u3000java -spring" := by
    rw [LacksWanted]
    decide +kernel
  obtain ⟨-, hasked⟩ := asked_blank_iff (Memory.catalog {}) defaultLimit "\u3000java -spring" "07"
  refine ⟨by decide +kernel, by decide +kernel, ?_⟩
  intro call hcall
  exact mt (hasked call hcall).2.mp hwanted

/-- A space in front of the `-` gets a keyword accepted that is refused without it, and the catalog
is asked for the space. -/
theorem space_asked_for :
    let calls := (search (Memory.catalog {}) defaultLimit " -java" "1").calls
    Expression.parse "-java" = .error (.misplacedOperator .without) ∧
      Expression.parse " -java" = .ok (.excluding " " "java") ∧
      calls = [⟨" ", 1⟩] ∧ ¬ ∀ call ∈ calls, ¬ IsBlank call.keyword := by
  intro calls
  have hcalls : calls = [⟨" ", 1⟩] := by decide +kernel
  have hasked : ⟨" ", 1⟩ ∈ calls := by
    rw [hcalls]
    exact List.mem_singleton_self _
  have hblank : IsBlank " " := (isBlankText_iff " ").mp (by decide +kernel)
  exact ⟨by decide +kernel, by decide +kernel, hcalls, fun hterms => hterms _ hasked hblank⟩

end Search

end BookFinder
