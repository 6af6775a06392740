import BookFinder.Proofs.Search.Aggregation
import BookFinder.Search.Request

/-! # What a successful search depends on

A search that succeeds has got every page that it asked for. It gives the same result over any other
catalog that has these pages, whatever becomes of the pages that it did not ask for. -/

namespace BookFinder.Search

open Catalog Query

/-- What the one catalog gives to these calls, the other gives as well. -/
def Keeps (catalog other : Catalog) (calls : List Call) : Prop :=
  ∀ call ∈ calls, ∀ found, (catalog call.keyword call.page).result = .ok found →
    (other call.keyword call.page).result = .ok found

theorem recordsAt_of_ok {ask : UInt32 → Answer} {n : UInt32} {found : RemotePage}
    (h : (ask n).result = .ok found) : recordsAt ask n = found.records := by
  rw [recordsAt, h]

theorem recordsThrough_congr {ask other : UInt32 → Answer} {last : UInt32}
    (h : ∀ n ∈ 1 :: pagesAfterFirst last, ∃ found,
      (ask n).result = .ok found ∧ (other n).result = .ok found) :
    recordsThrough other last = recordsThrough ask last := by
  rw [recordsThrough, recordsThrough]
  by_cases hzero : last = 0
  · rw [hzero]
    rfl
  · rw [pagesThrough_eq_cons hzero]
    apply List.flatMap_congr
    intro n hn
    obtain ⟨found, hask, hother⟩ := h n hn
    rw [recordsAt_of_ok hask, recordsAt_of_ok hother]

section Runs

variable {catalog other : Catalog} {limit page : UInt32} {found : ResultPage}

theorem excluding_of_keeps {wanted unwanted : String}
    (hrun : (Run.excluding catalog wanted unwanted page limit).outcome = .ok found)
    (hkeeps : Keeps catalog other (Run.excluding catalog wanted unwanted page limit).calls) :
    (Run.excluding other wanted unwanted page limit).outcome = .ok found ∧
      (Run.excluding other wanted unwanted page limit).calls =
        (Run.excluding catalog wanted unwanted page limit).calls := by
  obtain ⟨⟨head, hfirst, hlimit, hpages⟩, rfl⟩ := excluding_eq_ok_iff.mp hrun
  have hcalls : (Run.excluding catalog wanted unwanted page limit).calls = _ :=
    excluding_calls_of_complete hfirst hlimit hpages
  rw [hcalls] at hkeeps ⊢
  have hboth : ∀ n ∈ 1 :: pagesAfterFirst head.pageCount, ∃ p,
      (catalog wanted n).result = .ok p ∧ (other wanted n).result = .ok p := by
    intro n hn
    have hask : ∃ p, (catalog wanted n).result = .ok p := by
      rcases List.mem_cons.mp hn with rfl | hn
      · exact ⟨head, hfirst⟩
      · exact allArrive_iff.mp hpages n hn
    obtain ⟨p, hp⟩ := hask
    exact ⟨p, hp, hkeeps ⟨wanted, n⟩ (List.mem_map_of_mem hn) p hp⟩
  have hother : (other wanted 1).result = .ok head :=
    hkeeps ⟨wanted, 1⟩ (List.mem_map_of_mem (List.mem_cons_self ..)) head hfirst
  have harrive : AllArrive (other wanted) head.pageCount := by
    rw [allArrive_iff]
    intro n hn
    obtain ⟨p, -, hp⟩ := hboth n (List.mem_cons_of_mem _ hn)
    exact ⟨p, hp⟩
  have hleft : survivors (other wanted) unwanted = survivors (catalog wanted) unwanted := by
    rw [survivors_of_ok unwanted hother, survivors_of_ok unwanted hfirst,
      recordsThrough_congr hboth]
  constructor
  · rw [excluding_of_complete ⟨head, hother, hlimit, harrive⟩, hleft]
  · exact excluding_calls_of_complete hother hlimit harrive

theorem plain_calls (catalog : Catalog) (keyword : String) (page : UInt32) :
    (Run.plain catalog keyword page).calls = [⟨keyword, page⟩] := by
  rw [Run.plain]
  split
  · rfl
  · split <;> rfl

theorem plain_of_keeps {keyword : String}
    (hrun : (Run.plain catalog keyword page).outcome = .ok found)
    (hkeeps : Keeps catalog other (Run.plain catalog keyword page).calls) :
    (Run.plain other keyword page).outcome = .ok found ∧
      (Run.plain other keyword page).calls = (Run.plain catalog keyword page).calls := by
  rw [plain_calls] at hkeeps
  rw [plain_calls, plain_calls]
  refine ⟨?_, rfl⟩
  cases hask : (catalog keyword page).result with
  | error error => simp [Run.plain, hask] at hrun
  | ok p =>
      have hother := hkeeps ⟨keyword, page⟩ (List.mem_singleton_self _) p hask
      rw [← hrun]
      simp only [Run.plain, hask, hother]

theorem execute_of_keeps {expression : Expression}
    (hrun : (execute catalog limit expression page).outcome = .ok found)
    (hkeeps : Keeps catalog other (execute catalog limit expression page).calls) :
    (execute other limit expression page).outcome = .ok found ∧
      (execute other limit expression page).calls =
        (execute catalog limit expression page).calls := by
  cases expression with
  | plain keyword => exact plain_of_keeps hrun hkeeps
  | excluding wanted unwanted => exact excluding_of_keeps hrun hkeeps

/-- An expression that is run succeeds, or fails because of the catalog. -/
theorem execute_cases (catalog : Catalog) (limit : UInt32) (expression : Expression)
    (page : UInt32) :
    (∃ found, (execute catalog limit expression page).outcome = .ok found) ∨
      ∃ error, (execute catalog limit expression page).outcome = .error (.unavailable error) := by
  cases expression with
  | plain keyword =>
      cases hask : (catalog keyword page).result with
      | error error =>
          refine .inr ⟨error, ?_⟩
          simp only [execute, Run.plain, hask]
      | ok p =>
          left
          by_cases hzero : p.total = 0
          · simp [execute, Run.plain, hask, hzero]
          · simp [execute, Run.plain, hask, hzero]
  | excluding wanted unwanted =>
      by_cases hcomplete : Complete (catalog wanted) limit
      · exact .inl ⟨_, excluding_of_complete hcomplete unwanted page⟩
      · obtain ⟨error, hrun⟩ := excluding_of_not_complete hcomplete
        exact .inr ⟨error, hrun unwanted page⟩

end Runs

/-! ## Searches -/

theorem ofArguments_eq_ok {keyword page : String} {request : Request}
    (h : Request.ofArguments keyword page = .ok request) :
    request.keyword = keyword ∧ parsePage page = .ok request.page := by
  rw [Request.ofArguments] at h
  split at h
  · cases h
  · split at h
    · rename_i number hpage
      obtain rfl := Except.ok.inj h
      exact ⟨rfl, hpage⟩
    · cases h

theorem isCallersFault_of_ofArguments {keyword page : String} {error : SearchError}
    (h : Request.ofArguments keyword page = .error error) : error.isCallersFault = true := by
  rw [Request.ofArguments] at h
  split at h
  · rw [← Except.error.inj h]
    rfl
  · split at h
    · cases h
    · rw [← Except.error.inj h]
      rfl

/-- A search is refused before any catalog is asked, or runs the expression of its keyword. -/
theorem search_cases (limit : UInt32) (keyword page : String) :
    (∃ error : SearchError, error.isCallersFault = true ∧
      ∀ catalog, search catalog limit keyword page = { outcome := .error error }) ∨
    ∃ expression number, Expression.parse keyword = .ok expression ∧
      parsePage page = .ok number ∧
      ∀ catalog, search catalog limit keyword page = execute catalog limit expression number := by
  cases hrequest : Request.ofArguments keyword page with
  | error error =>
      refine .inl ⟨error, isCallersFault_of_ofArguments hrequest, ?_⟩
      intro catalog
      rw [search, hrequest]
  | ok request =>
      obtain ⟨hkeyword, hpage⟩ := ofArguments_eq_ok hrequest
      cases hparse : Expression.parse keyword with
      | error cause =>
          refine .inl ⟨.invalidQuery cause, rfl, ?_⟩
          intro catalog
          simp only [search, hrequest, hkeyword, hparse]
      | ok expression =>
          refine .inr ⟨expression, request.page, rfl, hpage, ?_⟩
          intro catalog
          simp only [search, hrequest, hkeyword, hparse]

/-- Outcomes that a caller cannot tell apart: of a failure of the catalog only that it failed is
known. -/
inductive Alike : Except SearchError ResultPage → Except SearchError ResultPage → Prop
  | same (outcome : Except SearchError ResultPage) : Alike outcome outcome
  | unavailable (cause other : CatalogError) :
      Alike (.error (.unavailable cause)) (.error (.unavailable other))

/-- Over two catalogs each of which has what the other one gives, a search comes out alike. -/
theorem search_alike {catalog other : Catalog} {limit : UInt32} {keyword page : String}
    (hthere : Keeps catalog other (search catalog limit keyword page).calls)
    (hback : Keeps other catalog (search other limit keyword page).calls) :
    Alike (search other limit keyword page).outcome (search catalog limit keyword page).outcome ∧
      ∀ found, (search catalog limit keyword page).outcome = .ok found →
        (search other limit keyword page).calls = (search catalog limit keyword page).calls := by
  rcases search_cases limit keyword page with
    ⟨error, -, hrun⟩ | ⟨expression, number, -, -, hrun⟩
  · rw [hrun, hrun]
    exact ⟨.same _, fun _ _ => rfl⟩
  · rw [hrun] at hthere hback
    rw [hrun, hrun]
    rcases execute_cases catalog limit expression number with ⟨found, hfound⟩ | ⟨error, herror⟩
    · obtain ⟨hother, hcalls⟩ := execute_of_keeps hfound hthere
      rw [hfound, hother]
      exact ⟨.same _, fun _ _ => hcalls⟩
    · refine ⟨?_, by simp [herror]⟩
      rcases execute_cases other limit expression number with ⟨found, hfound⟩ | ⟨cause, hcause⟩
      · have hsame := (execute_of_keeps hfound hback).1
        simp [herror] at hsame
      · rw [herror, hcause]
        exact .unavailable cause error

/-- All that a search asks for is the search term of its keyword. -/
theorem excluding_calls_keyword {catalog : Catalog} {wanted unwanted : String}
    {page limit : UInt32} {call : Call}
    (h : call ∈ (Run.excluding catalog wanted unwanted page limit).calls) :
    call.keyword = wanted := by
  rcases excluding_calls_cases catalog wanted unwanted page limit with
    hcalls | ⟨head, -, -, -, hcalls⟩
  · rw [hcalls, List.mem_singleton] at h
    rw [h]
  · rw [hcalls, fanOutCalls, List.mem_cons] at h
    rcases h with rfl | h
    · rfl
    · obtain ⟨n, -, rfl⟩ := List.mem_map.mp h
      rfl

theorem execute_calls_keyword {catalog : Catalog} {limit : UInt32} {expression : Expression}
    {page : UInt32} {call : Call} (h : call ∈ (execute catalog limit expression page).calls) :
    call.keyword = expression.searchTerm := by
  cases expression with
  | plain keyword =>
      have hcalls : (execute catalog limit (.plain keyword) page).calls = [⟨keyword, page⟩] :=
        plain_calls catalog keyword page
      rw [hcalls, List.mem_singleton] at h
      rw [h]
      rfl
  | excluding wanted unwanted => exact excluding_calls_keyword h

theorem search_calls_keyword {catalog : Catalog} {limit : UInt32} {keyword page : String}
    {call : Call} (h : call ∈ (search catalog limit keyword page).calls) :
    ∃ expression, Expression.parse keyword = .ok expression ∧
      call.keyword = expression.searchTerm := by
  rcases search_cases limit keyword page with
    ⟨error, -, hrun⟩ | ⟨expression, number, hparse, -, hrun⟩
  · rw [hrun] at h
    exact absurd h (List.not_mem_nil)
  · rw [hrun] at h
    exact ⟨expression, hparse, execute_calls_keyword h⟩

end BookFinder.Search
