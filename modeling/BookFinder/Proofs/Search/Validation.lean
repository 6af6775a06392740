import BookFinder.Proofs.Query.Grammar
import BookFinder.Proofs.Search.Agreement

/-! # The checks before a search

Three checks come before any question to the catalog, in a fixed order: that both arguments are
there, that the page is one, that the keyword is one. The first that fails is the outcome of the
search, and nothing else happens. -/

namespace BookFinder

namespace Query

theorem not_isBlank_of_parse {raw : String} {expression : Expression}
    (h : Expression.parse raw = .ok expression) : ¬ IsBlank raw := by
  intro hblank
  rw [parse_of_blank hblank] at h
  cases h

theorem not_isBlank_of_parsePage {raw : String} {page : UInt32} (h : parsePage raw = .ok page) :
    ¬ IsBlank raw := by
  intro hblank
  exact (parsePage_eq_ok_iff.mp h).1.1 (Text.trim_eq_nil_iff.mpr hblank)

end Query

namespace Search

open Catalog Query

def Accepts (keyword page : String) : Prop :=
  (∃ expression, Expression.parse keyword = .ok expression) ∧ ∃ number, parsePage page = .ok number

/-! ## One check after the other -/

section Checks

variable {keyword page : String} (catalog : Catalog) (limit : UInt32)

theorem search_of_incomplete (h : IsBlank keyword ∨ IsBlank page) :
    search catalog limit keyword page = { outcome := .error .incomplete } := by
  have hblank : (Text.isBlankText keyword.toList || Text.isBlankText page.toList) = true := by
    rw [Bool.or_eq_true, isBlankText_iff, isBlankText_iff]
    exact h
  simp only [search, Request.ofArguments, if_pos hblank]

/-- Of arguments that are both there the page decides first, then the keyword. -/
theorem search_of_given (hkeyword : ¬ IsBlank keyword) (hpage : ¬ IsBlank page) :
    search catalog limit keyword page =
      match parsePage page with
      | .error cause => { outcome := .error (.invalidQuery cause) }
      | .ok number =>
        match Expression.parse keyword with
        | .error cause => { outcome := .error (.invalidQuery cause) }
        | .ok expression => execute catalog limit expression number := by
  have hgiven : ¬ (Text.isBlankText keyword.toList || Text.isBlankText page.toList) = true := by
    rw [Bool.or_eq_true, isBlankText_iff, isBlankText_iff]
    exact not_or.mpr ⟨hkeyword, hpage⟩
  rw [search, Request.ofArguments, if_neg hgiven]
  cases parsePage page with
  | error cause => rfl
  | ok number => rfl

theorem search_of_invalidPage (hkeyword : ¬ IsBlank keyword) (hpage : ¬ IsBlank page)
    (h : ∀ number, parsePage page ≠ .ok number) :
    search catalog limit keyword page =
      { outcome := .error (.invalidQuery (.invalidPage page)) } := by
  rw [search_of_given catalog limit hkeyword hpage]
  cases hparse : parsePage page with
  | error cause => rw [parsePage_error hparse]
  | ok number => exact absurd hparse (h number)

theorem search_of_invalidKeyword {number : UInt32} {cause : QueryError}
    (hkeyword : ¬ IsBlank keyword) (hpage : parsePage page = .ok number)
    (h : Expression.parse keyword = .error cause) :
    search catalog limit keyword page = { outcome := .error (.invalidQuery cause) } := by
  simp only [search_of_given catalog limit hkeyword (not_isBlank_of_parsePage hpage), hpage, h]

theorem search_of_accepted {number : UInt32} {expression : Expression}
    (hpage : parsePage page = .ok number) (h : Expression.parse keyword = .ok expression) :
    search catalog limit keyword page = execute catalog limit expression number := by
  simp only [search_of_given catalog limit (not_isBlank_of_parse h)
    (not_isBlank_of_parsePage hpage), hpage, h]

end Checks

/-! ## Refused and accepted arguments -/

theorem execute_calls_ne_nil (catalog : Catalog) (limit : UInt32) (expression : Expression)
    (page : UInt32) : (execute catalog limit expression page).calls ≠ [] := by
  cases expression with
  | plain keyword =>
      have hcalls : (execute catalog limit (.plain keyword) page).calls = [⟨keyword, page⟩] :=
        plain_calls catalog keyword page
      simp [hcalls]
  | excluding wanted unwanted =>
      change (Run.excluding catalog wanted unwanted page limit).calls ≠ []
      rcases excluding_calls_cases catalog wanted unwanted page limit with
        hcalls | ⟨head, -, -, -, hcalls⟩
      · simp [hcalls]
      · simp [hcalls, fanOutCalls]

/-- Refused arguments are the caller's fault, and the search has done nothing else than refuse
them. -/
theorem search_of_not_accepts {keyword page : String} (catalog : Catalog) (limit : UInt32)
    (h : ¬ Accepts keyword page) :
    ∃ error : SearchError, error.isCallersFault = true ∧ error ≠ .invalidQuery .blank ∧
      search catalog limit keyword page = { outcome := .error error } := by
  by_cases hincomplete : IsBlank keyword ∨ IsBlank page
  · exact ⟨_, rfl, by simp, search_of_incomplete catalog limit hincomplete⟩
  obtain ⟨hkeyword, hpage⟩ := not_or.mp hincomplete
  cases hparse : parsePage page with
  | error cause =>
      have hnumber : ∀ number, parsePage page ≠ .ok number := by simp [hparse]
      exact ⟨_, rfl, by simp, search_of_invalidPage catalog limit hkeyword hpage hnumber⟩
  | ok number =>
      cases hexpression : Expression.parse keyword with
      | ok expression => exact absurd ⟨⟨expression, hexpression⟩, number, hparse⟩ h
      | error cause =>
          have hverdict := verdict_parse keyword
          rw [hexpression] at hverdict
          have hcause : cause ≠ .blank := by
            rintro rfl
            cases hverdict with
            | blank hblank => exact hkeyword hblank
          exact ⟨_, rfl, by simpa using hcause,
            search_of_invalidKeyword catalog limit hkeyword hparse hexpression⟩

theorem unavailable_of_execute {catalog : Catalog} {limit : UInt32} {expression : Expression}
    {page : UInt32} {error : SearchError}
    (h : (execute catalog limit expression page).outcome = .error error) :
    ∃ cause, error = .unavailable cause := by
  rcases execute_cases catalog limit expression page with ⟨found, hfound⟩ | ⟨cause, hcause⟩
  · cases hfound.symm.trans h
  · exact ⟨cause, Except.error.inj (h.symm.trans hcause)⟩

/-- A search for accepted arguments asks the catalog, and fails only if the catalog does. -/
theorem search_of_accepts {keyword page : String} (catalog : Catalog) (limit : UInt32)
    (h : Accepts keyword page) :
    (search catalog limit keyword page).calls ≠ [] ∧
      ∀ error, (search catalog limit keyword page).outcome = .error error →
        ∃ cause, error = .unavailable cause := by
  obtain ⟨⟨expression, hexpression⟩, number, hnumber⟩ := h
  rw [search_of_accepted catalog limit hnumber hexpression]
  exact ⟨execute_calls_ne_nil catalog limit expression number, fun _ => unavailable_of_execute⟩

theorem outcome_eq_incomplete_iff (catalog : Catalog) (limit : UInt32) (keyword page : String) :
    (search catalog limit keyword page).outcome = .error .incomplete ↔
      IsBlank keyword ∨ IsBlank page := by
  constructor
  · intro houtcome
    by_contra hgiven
    obtain ⟨hkeyword, hpage⟩ := not_or.mp hgiven
    rw [search_of_given catalog limit hkeyword hpage] at houtcome
    split at houtcome
    · cases houtcome
    · split at houtcome
      · cases houtcome
      · obtain ⟨cause, hcause⟩ := unavailable_of_execute houtcome
        cases hcause
  · intro hincomplete
    rw [search_of_incomplete catalog limit hincomplete]

theorem outcome_eq_invalidQuery_iff {keyword page : String} {number : UInt32} (catalog : Catalog)
    (limit : UInt32) (hkeyword : ¬ IsBlank keyword) (hpage : parsePage page = .ok number)
    (cause : QueryError) :
    (search catalog limit keyword page).outcome = .error (.invalidQuery cause) ↔
      Expression.parse keyword = .error cause := by
  cases hparse : Expression.parse keyword with
  | error other =>
      rw [search_of_invalidKeyword catalog limit hkeyword hpage hparse]
      simp
  | ok expression =>
      refine iff_of_false ?_ (by simp)
      intro houtcome
      rw [search_of_accepted catalog limit hpage hparse] at houtcome
      obtain ⟨other, hother⟩ := unavailable_of_execute houtcome
      cases hother

theorem outcome_eq_invalidPage_iff {keyword page : String} (catalog : Catalog) (limit : UInt32)
    (hkeyword : ¬ IsBlank keyword) (hpage : ¬ IsBlank page) :
    (search catalog limit keyword page).outcome = .error (.invalidQuery (.invalidPage page)) ↔
      ∃ cause, parsePage page = .error cause := by
  cases hparse : parsePage page with
  | error cause =>
      have hnumber : ∀ number, parsePage page ≠ .ok number := by simp [hparse]
      rw [search_of_invalidPage catalog limit hkeyword hpage hnumber]
      exact iff_of_true rfl ⟨cause, rfl⟩
  | ok number =>
      refine iff_of_false ?_ (by simp)
      rw [outcome_eq_invalidQuery_iff catalog limit hkeyword hparse]
      -- reading a keyword says nothing of pages
      intro hkeywordError
      have hverdict := verdict_parse keyword
      rw [hkeywordError] at hverdict
      cases hverdict

/-- A search fails for want of an argument if and only if one is blank; otherwise for the page, named
as it was written, if and only if that is none, whatever the keyword is; otherwise for the keyword,
as that is read; and otherwise it is the run of the expression. Refused arguments are the caller's
fault, never for a blank keyword, and neither the catalog nor the log hears of them. After that a
search fails by the catalog alone, which has been asked. -/
theorem search_checks_in_order (catalog : Catalog) (limit : UInt32) (keyword page : String) :
    let run := search catalog limit keyword page
    (run.outcome = .error .incomplete ↔ IsBlank keyword ∨ IsBlank page) ∧
    (¬ (IsBlank keyword ∨ IsBlank page) →
      (run.outcome = .error (.invalidQuery (.invalidPage page)) ↔
        ∃ cause, parsePage page = .error cause) ∧
      ∀ number, parsePage page = .ok number →
        (∀ cause, run.outcome = .error (.invalidQuery cause) ↔
          Expression.parse keyword = .error cause) ∧
        ∀ expression, Expression.parse keyword = .ok expression →
          run = execute catalog limit expression number) ∧
    (¬ Accepts keyword page →
      run.calls = [] ∧ run.events = [] ∧
        ∃ error, run.outcome = .error error ∧ error.isCallersFault = true) ∧
    run.outcome ≠ .error (.invalidQuery .blank) ∧
    (Accepts keyword page → ∀ error, run.outcome = .error error →
      (∃ cause, error = .unavailable cause) ∧ error.isCallersFault = false ∧ run.calls ≠ []) := by
  intro run
  refine ⟨outcome_eq_incomplete_iff catalog limit keyword page, ?_, ?_, ?_, ?_⟩
  · intro hgiven
    obtain ⟨hkeyword, hpage⟩ := not_or.mp hgiven
    refine ⟨outcome_eq_invalidPage_iff catalog limit hkeyword hpage, ?_⟩
    intro number hnumber
    exact ⟨outcome_eq_invalidQuery_iff catalog limit hkeyword hnumber,
      fun expression => search_of_accepted catalog limit hnumber⟩
  · intro hrefused
    obtain ⟨error, hfault, -, hrun⟩ := search_of_not_accepts catalog limit hrefused
    rw [show run = { outcome := .error error } from hrun]
    exact ⟨rfl, rfl, error, rfl, hfault⟩
  · intro hblank
    by_cases h : Accepts keyword page
    · obtain ⟨cause, hcause⟩ := (search_of_accepts catalog limit h).2 _ hblank
      cases hcause
    · obtain ⟨error, -, hne, hrun⟩ := search_of_not_accepts catalog limit h
      rw [show run = { outcome := .error error } from hrun] at hblank
      exact hne (Except.error.inj hblank)
  · intro haccepts error herror
    obtain ⟨hasked, hcatalog⟩ := search_of_accepts catalog limit haccepts
    obtain ⟨cause, rfl⟩ := hcatalog error herror
    exact ⟨⟨cause, rfl⟩, rfl, hasked⟩

/-- With nothing right about either argument, it is the page that is complained of. -/
example : (search (fun _ _ => { result := .ok {} }) defaultLimit "-c++-" " 0").outcome =
    .error (.invalidQuery (.invalidPage " 0")) := by
  decide +kernel

end Search

end BookFinder
