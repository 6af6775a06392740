import BookFinder.Search.FanOut
import Mathlib.Data.List.Sort

/-! # Answers that come in one after the other

`gather` settles a round of questions from all answers at once. Here the answers come in one by
one, in any order: a small round is settled by the order in which its delays bring them, a large one
by the order of its questions. -/

namespace BookFinder.Search

open Catalog

/-! ## Rounds under way -/

/-- What is known of a round while its answers come in. -/
inductive Round where
  | waiting (arrived : List (UInt32 × Answer))
  | failed (error : CatalogError)

/-- The failure among the answers to some pages, taken in the order of the pages: none as long as an
answer before it is missing. -/
def dueFailure (arrived : List (UInt32 × Answer)) : List UInt32 → Option CatalogError
  | [] => none
  | page :: pages =>
    match arrived.lookup page with
    | none => none
    | some answer =>
      match answer.result with
      | .ok _ => dueFailure arrived pages
      | .error error => some error

/-- The answer to one more question comes in. A small round looks at this answer alone, a large one
at all that have their turn. After a failure none counts. -/
def Round.take (ask : UInt32 → Answer) (questions : List UInt32) : Round → UInt32 → Round
  | failed error, _ => failed error
  | waiting arrived, page =>
    let known := (page, ask page) :: arrived
    match dueFailure known (if questions.length ≤ smallRound then [page] else questions) with
    | some error => failed error
    | none => waiting known

def Round.run (ask : UInt32 → Answer) (questions order : List UInt32) : Round :=
  order.foldl (take ask questions) (waiting [])

def Round.result (questions : List UInt32) :
    Round → Option (Except CatalogError (List RemotePage))
  | failed error => some (.error error)
  | waiting arrived => (questions.mapM (arrived.lookup ·)).map fun answers => .ok (arrivedPages answers)

/-- The answer to `p` comes before that to `q`; of two that come together the lower page is
first. -/
def Precedes (ask : UInt32 → Answer) (p q : UInt32) : Prop :=
  (ask p).delay < (ask q).delay ∨ (ask p).delay = (ask q).delay ∧ p < q

variable {ask : UInt32 → Answer}

theorem precedes_asymm {p q : UInt32} (h : Precedes ask p q) : ¬ Precedes ask q p := by
  rintro (hd | ⟨hd, hp⟩) <;> rcases h with h | ⟨he, hq⟩
  · omega
  · omega
  · omega
  · exact absurd hq (UInt32.not_lt.mpr (UInt32.le_of_lt hp))

/-! ## What has arrived -/

def Knows (ask : UInt32 → Answer) (seen : List UInt32) (arrived : List (UInt32 × Answer)) : Prop :=
  ∀ page, arrived.lookup page = if page ∈ seen then some (ask page) else none

namespace Knows

variable {seen pages : List UInt32} {arrived : List (UInt32 × Answer)}

theorem nil (ask : UInt32 → Answer) : Knows ask [] [] := fun _ => by simp

theorem cons (h : Knows ask seen arrived) (page : UInt32) :
    Knows ask (page :: seen) ((page, ask page) :: arrived) := by
  intro q
  by_cases hq : q = page
  · subst hq
    simp
  · have hbeq : (q == page) = false := by simpa using hq
    simp [List.lookup_cons, hbeq, hq, h q]

theorem lookup (h : Knows ask seen arrived) {page : UInt32} (hpage : page ∈ seen) :
    arrived.lookup page = some (ask page) := by
  rw [h page, if_pos hpage]

theorem mapM_lookup (h : Knows ask seen arrived) (hpages : ∀ page ∈ pages, page ∈ seen) :
    pages.mapM (arrived.lookup ·) = some (pages.map ask) := by
  induction pages with
  | nil => rfl
  | cons page pages ih =>
      rw [List.mapM_cons, h.lookup (hpages page (by simp)), ih (fun p hp => hpages p (by simp [hp]))]
      rfl

theorem dueFailure_of_ok (h : Knows ask seen arrived)
    (hok : ∀ page ∈ seen, ∃ found, (ask page).result = .ok found) (pages : List UInt32) :
    dueFailure arrived pages = none := by
  induction pages with
  | nil => rfl
  | cons page pages ih =>
      by_cases hpage : page ∈ seen
      · obtain ⟨found, hfound⟩ := hok page hpage
        simp only [dueFailure, h.lookup hpage, hfound, ih]
      · simp only [dueFailure, h page, if_neg hpage]

theorem lowestFailure_of_due (h : Knows ask seen arrived) {error : CatalogError}
    (hdue : dueFailure arrived pages = some error) :
    lowestFailure (pages.map ask) = some error := by
  induction pages with
  | nil => cases hdue
  | cons page pages ih =>
      by_cases hpage : page ∈ seen
      · rw [dueFailure, h.lookup hpage] at hdue
        rw [List.map_cons, lowestFailure]
        cases hresult : (ask page).result with
        | ok found =>
            simp only [hresult] at hdue
            exact ih hdue
        | error other => simpa only [hresult] using hdue
      · simp [dueFailure, h page, hpage] at hdue

theorem dueFailure_of_all (h : Knows ask seen arrived) (hpages : ∀ page ∈ pages, page ∈ seen) :
    dueFailure arrived pages = lowestFailure (pages.map ask) := by
  induction pages with
  | nil => rfl
  | cons page pages ih =>
      rw [dueFailure, h.lookup (hpages page (by simp)), ih (fun p hp => hpages p (by simp [hp]))]
      rfl

end Knows

/-! ## One answer, and all of them -/

namespace Round

variable {questions : List UInt32}

theorem take_of_due {arrived : List (UInt32 × Answer)} {page : UInt32} {error : CatalogError}
    (h : dueFailure ((page, ask page) :: arrived)
      (if questions.length ≤ smallRound then [page] else questions) = some error) :
    take ask questions (waiting arrived) page = failed error := by
  simp only [take, h]

theorem take_of_none_due {arrived : List (UInt32 × Answer)} {page : UInt32}
    (h : dueFailure ((page, ask page) :: arrived)
      (if questions.length ≤ smallRound then [page] else questions) = none) :
    take ask questions (waiting arrived) page = waiting ((page, ask page) :: arrived) := by
  simp only [take, h]

theorem foldl_take_failed (error : CatalogError) (order : List UInt32) :
    order.foldl (take ask questions) (failed error) = failed error := by
  induction order with
  | nil => rfl
  | cons page order ih => exact ih

theorem foldl_take_of_ok (order : List UInt32) {seen : List UInt32}
    {arrived : List (UInt32 × Answer)} (hknows : Knows ask seen arrived)
    (hseen : ∀ page ∈ seen, ∃ found, (ask page).result = .ok found)
    (h : ∀ page ∈ order, ∃ found, (ask page).result = .ok found) :
    ∃ more, order.foldl (take ask questions) (waiting arrived) = waiting more ∧
      Knows ask (order.reverse ++ seen) more := by
  induction order generalizing seen arrived with
  | nil => exact ⟨arrived, rfl, hknows⟩
  | cons page order ih =>
      have hall : ∀ p ∈ page :: seen, ∃ found, (ask p).result = .ok found := by
        intro p hp
        rcases List.mem_cons.mp hp with rfl | hp
        · exact h p (by simp)
        · exact hseen p hp
      have hnone := (hknows.cons page).dueFailure_of_ok hall
      obtain ⟨more, hrun, hmore⟩ :=
        ih (hknows.cons page) hall (fun p hp => h p (List.mem_cons_of_mem page hp))
      refine ⟨more, ?_, ?_⟩
      · rw [List.foldl_cons, take_of_none_due (hnone _), hrun]
      · rwa [List.reverse_cons, List.append_assoc]

theorem foldl_take_of_small (hsmall : questions.length ≤ smallRound) (order : List UInt32)
    (arrived : List (UInt32 × Answer))
    (h : ¬ ∀ page ∈ order, ∃ found, (ask page).result = .ok found) :
    ∃ before page after error, order = before ++ page :: after ∧
      (∀ p ∈ before, ∃ found, (ask p).result = .ok found) ∧
      (ask page).result = .error error ∧
      order.foldl (take ask questions) (waiting arrived) = failed error := by
  induction order generalizing arrived with
  | nil => exact absurd (by simp) h
  | cons first order ih =>
      cases hfirst : (ask first).result with
      | error error =>
          have hdue : dueFailure ((first, ask first) :: arrived)
              (if questions.length ≤ smallRound then [first] else questions) = some error := by
            simp [hsmall, dueFailure, hfirst]
          refine ⟨[], first, order, error, rfl, by simp, hfirst, ?_⟩
          rw [List.foldl_cons, take_of_due hdue, foldl_take_failed]
      | ok found =>
          have hrest : ¬ ∀ page ∈ order, ∃ found, (ask page).result = .ok found := by
            intro hall
            apply h
            intro page hp
            rcases List.mem_cons.mp hp with rfl | hp
            · exact ⟨found, hfirst⟩
            · exact hall page hp
          obtain ⟨before, page, after, error, rfl, hbefore, hpage, hrun⟩ :=
            ih ((first, ask first) :: arrived) hrest
          refine ⟨first :: before, page, after, error, rfl, ?_, hpage, ?_⟩
          · intro p hp
            rcases List.mem_cons.mp hp with rfl | hp
            · exact ⟨found, hfirst⟩
            · exact hbefore p hp
          · rw [List.foldl_cons, take_of_none_due (by simp [hsmall, dueFailure, hfirst]), hrun]

/-- A large round fails by the lowest page that fails, or goes on waiting with no failure due. -/
theorem foldl_take_of_large (hlarge : smallRound < questions.length) (order : List UInt32)
    {seen : List UInt32} {arrived : List (UInt32 × Answer)} (hknows : Knows ask seen arrived)
    (hdue : dueFailure arrived questions = none) :
    (∃ more, order.foldl (take ask questions) (waiting arrived) = waiting more ∧
      Knows ask (order.reverse ++ seen) more ∧ dueFailure more questions = none) ∨
    ∃ error, lowestFailure (questions.map ask) = some error ∧
      order.foldl (take ask questions) (waiting arrived) = failed error := by
  induction order generalizing seen arrived with
  | nil => exact .inl ⟨arrived, rfl, hknows, hdue⟩
  | cons page order ih =>
      have hknown := hknows.cons page
      cases hnext : dueFailure ((page, ask page) :: arrived) questions with
      | some error =>
          refine .inr ⟨error, hknown.lowestFailure_of_due hnext, ?_⟩
          rw [List.foldl_cons, take_of_due (by rwa [if_neg (Nat.not_le.mpr hlarge)]),
            foldl_take_failed]
      | none =>
          rw [List.foldl_cons, take_of_none_due (by rwa [if_neg (Nat.not_le.mpr hlarge)]),
            List.reverse_cons, List.append_assoc]
          exact ih hknown hnext

variable {order : List UInt32}

theorem result_run_of_ok (hperm : order.Perm questions)
    (h : ∀ page ∈ questions, ∃ found, (ask page).result = .ok found) :
    (run ask questions order).result questions = some (.ok (arrivedPages (questions.map ask))) := by
  have hcome : ∀ page ∈ order, ∃ found, (ask page).result = .ok found :=
    fun page hp => h page (hperm.mem_iff.mp hp)
  have hseen : ∀ page ∈ questions, page ∈ order.reverse ++ [] :=
    fun page hp => by simp [hperm.mem_iff, hp]
  obtain ⟨more, hrun, hmore⟩ :=
    @foldl_take_of_ok ask questions order [] [] (.nil ask) (by simp) hcome
  rw [run, hrun, result, hmore.mapM_lookup hseen]
  rfl

theorem run_of_large (hlarge : smallRound < questions.length) (hperm : order.Perm questions)
    {error : CatalogError} (h : lowestFailure (questions.map ask) = some error) :
    run ask questions order = failed error := by
  have hnone : dueFailure [] questions = none := (Knows.nil ask).dueFailure_of_ok (by simp) questions
  rcases foldl_take_of_large hlarge order (.nil ask) hnone with ⟨more, -, hmore, hdue⟩ | ⟨e, he, hrun⟩
  · have hseen : ∀ page ∈ questions, page ∈ order.reverse ++ [] :=
      fun page hp => by simp [hperm.mem_iff, hp]
    rw [hmore.dueFailure_of_all hseen, h] at hdue
    cases hdue
  · rw [h, Option.some.injEq] at he
    rw [run, hrun, he]

end Round

/-! ## The order that the delays bring about -/

theorem firstFailure_eq_none_iff (answers : List Answer) :
    firstFailure answers = none ↔ ∀ answer ∈ answers, ∃ found, answer.result = .ok found := by
  induction answers with
  | nil => simp [firstFailure]
  | cons answer answers ih =>
      cases hresult : answer.result with
      | ok found => simp [firstFailure, hresult, ih]
      | error error =>
          cases hlater : firstFailure answers with
          | none => simp [firstFailure, hresult, hlater]
          | some later =>
              simp only [firstFailure, hresult, hlater]
              split <;> simp [hresult]

/-- The failure of a round is that of a page before which no other failure arrives. -/
theorem firstFailure_spec {pages : List UInt32} (hsorted : pages.Pairwise (· < ·)) {delay : Nat}
    {error : CatalogError} (h : firstFailure (pages.map ask) = some (delay, error)) :
    ∃ page ∈ pages, (ask page).result = .error error ∧ (ask page).delay = delay ∧
      ∀ q ∈ pages, (∃ e, (ask q).result = .error e) → q = page ∨ Precedes ask page q := by
  induction pages generalizing delay error with
  | nil => simp [firstFailure] at h
  | cons first pages ih =>
      obtain ⟨hfirst, hpages⟩ := List.pairwise_cons.mp hsorted
      rw [List.map_cons, firstFailure] at h
      cases hresult : (ask first).result with
      | ok found =>
          simp only [hresult] at h
          obtain ⟨page, hmem, hpage, hdelay, hmin⟩ := ih hpages h
          refine ⟨page, by simp [hmem], hpage, hdelay, ?_⟩
          intro q hq hfail
          rcases List.mem_cons.mp hq with rfl | hq
          · simp [hresult] at hfail
          · exact hmin q hq hfail
      | error e =>
          cases hlater : firstFailure (pages.map ask) with
          | none =>
              simp only [hresult, hlater, Option.some.injEq, Prod.mk.injEq] at h
              obtain ⟨rfl, rfl⟩ := h
              refine ⟨first, by simp, hresult, rfl, ?_⟩
              rintro q hq ⟨e', hfail⟩
              rcases List.mem_cons.mp hq with rfl | hq
              · exact .inl rfl
              · have hok := (firstFailure_eq_none_iff _).mp hlater (ask q) (List.mem_map_of_mem hq)
                simp [hfail] at hok
          | some later =>
              obtain ⟨laterDelay, laterError⟩ := later
              obtain ⟨page, hmem, hpage, hdelay, hmin⟩ := ih hpages hlater
              simp only [hresult, hlater] at h
              split at h
              · rename_i hlt
                simp only [Option.some.injEq, Prod.mk.injEq] at h
                obtain ⟨rfl, rfl⟩ := h
                refine ⟨page, by simp [hmem], hpage, hdelay, ?_⟩
                intro q hq hfail
                rcases List.mem_cons.mp hq with rfl | hq
                · exact .inr (.inl (by omega))
                · exact hmin q hq hfail
              · rename_i hge
                simp only [Option.some.injEq, Prod.mk.injEq] at h
                obtain ⟨rfl, rfl⟩ := h
                refine ⟨first, by simp, hresult, rfl, ?_⟩
                intro q hq hfail
                rcases List.mem_cons.mp hq with rfl | hq
                · exact .inl rfl
                · -- no later failure is earlier than the first of them, and that is not before this
                  have hle : (ask first).delay ≤ (ask q).delay := by
                    rcases hmin q hq hfail with rfl | hd | ⟨hd, -⟩ <;> omega
                  rcases Nat.lt_or_eq_of_le hle with hd | hd
                  · exact .inr (.inl hd)
                  · exact .inr (.inr ⟨hd, hfirst q hq⟩)

theorem lowestFailure_eq_none_iff (answers : List Answer) :
    lowestFailure answers = none ↔ ∀ answer ∈ answers, ∃ found, answer.result = .ok found := by
  induction answers with
  | nil => simp [lowestFailure]
  | cons answer answers ih =>
      cases hresult : answer.result with
      | ok found => simp [lowestFailure, hresult, ih]
      | error error => simp [lowestFailure, hresult]

theorem lowestFailure_spec {pages : List UInt32} {error : CatalogError}
    (h : lowestFailure (pages.map ask) = some error) :
    ∃ before page after, pages = before ++ page :: after ∧
      (∀ p ∈ before, ∃ found, (ask p).result = .ok found) ∧ (ask page).result = .error error := by
  induction pages with
  | nil => cases h
  | cons first pages ih =>
      rw [List.map_cons, lowestFailure] at h
      cases hresult : (ask first).result with
      | error e =>
          simp only [hresult, Option.some.injEq] at h
          exact ⟨[], first, pages, rfl, by simp, h ▸ hresult⟩
      | ok found =>
          simp only [hresult] at h
          obtain ⟨before, page, after, rfl, hbefore, hpage⟩ := ih h
          refine ⟨first :: before, page, after, rfl, ?_, hpage⟩
          intro p hp
          rcases List.mem_cons.mp hp with rfl | hp
          · exact ⟨found, hresult⟩
          · exact hbefore p hp

theorem roundFailure_eq_none_iff (answers : List Answer) :
    roundFailure answers = none ↔ ∀ answer ∈ answers, ∃ found, answer.result = .ok found := by
  rw [roundFailure]
  split
  · rw [Option.map_eq_none_iff, firstFailure_eq_none_iff]
  · rw [lowestFailure_eq_none_iff]

section Settled

variable {questions order : List UInt32}

theorem gather_of_ok (h : ∀ page ∈ questions, ∃ found, (ask page).result = .ok found) :
    gather (questions.map ask) = .ok (arrivedPages (questions.map ask)) := by
  have hnone : roundFailure (questions.map ask) = none := by
    rw [roundFailure_eq_none_iff]
    simpa using h
  rw [gather, hnone]

/-- A round is settled by one of its pages: in a small round by one before which no other failure
arrives, in a large one by the lowest that fails. -/
theorem gather_of_not_ok (hsorted : questions.Pairwise (· < ·))
    (h : ¬ ∀ page ∈ questions, ∃ found, (ask page).result = .ok found) :
    ∃ page ∈ questions, ∃ error, (ask page).result = .error error ∧
      gather (questions.map ask) = .error error ∧
      (questions.length ≤ smallRound →
        ∀ q ∈ questions, (∃ e, (ask q).result = .error e) → q = page ∨ Precedes ask page q) ∧
      (smallRound < questions.length →
        ∀ q ∈ questions, q < page → ∃ found, (ask q).result = .ok found) := by
  by_cases hsmall : questions.length ≤ smallRound
  · cases hfirst : firstFailure (questions.map ask) with
    | none =>
        rw [firstFailure_eq_none_iff] at hfirst
        exact absurd (by simpa using hfirst) h
    | some failure =>
        obtain ⟨delay, error⟩ := failure
        obtain ⟨page, hmem, hpage, -, hmin⟩ := firstFailure_spec hsorted hfirst
        refine ⟨page, hmem, error, hpage, ?_, fun _ => hmin, ?_⟩
        · simp [gather, roundFailure, hsmall, hfirst]
        · intro hlarge
          omega
  · cases hlowest : lowestFailure (questions.map ask) with
    | none =>
        rw [lowestFailure_eq_none_iff] at hlowest
        exact absurd (by simpa using hlowest) h
    | some error =>
        obtain ⟨before, page, after, rfl, hbefore, hpage⟩ := lowestFailure_spec hlowest
        refine ⟨page, by simp, error, hpage, ?_, fun hle => absurd hle hsmall, ?_⟩
        · rw [gather, roundFailure, List.length_map, if_neg hsmall, hlowest]
        · intro _ q hq hlt
          obtain ⟨-, htail, -⟩ := List.pairwise_append.mp hsorted
          rcases List.mem_append.mp hq with hq | hq
          · exact hbefore q hq
          · rcases List.mem_cons.mp hq with rfl | hq
            · exact absurd hlt (UInt32.lt_irrefl q)
            · have hafter := (List.pairwise_cons.mp htail).1 q hq
              exact absurd hlt (UInt32.lt_asymm hafter)

/-- In whatever order the answers come in, a round that is not complete fails by one of its pages. -/
theorem Round.run_of_not_ok (hperm : order.Perm questions)
    (h : ¬ ∀ page ∈ questions, ∃ found, (ask page).result = .ok found) :
    ∃ page ∈ questions, ∃ error, (ask page).result = .error error ∧
      run ask questions order = failed error := by
  by_cases hsmall : questions.length ≤ smallRound
  · have hfail : ¬ ∀ page ∈ order, ∃ found, (ask page).result = .ok found := by
      intro hall
      exact h (fun page hp => hall page (hperm.mem_iff.mpr hp))
    obtain ⟨before, page, after, error, rfl, -, hpage, hrun⟩ :=
      foldl_take_of_small hsmall order [] hfail
    exact ⟨page, hperm.mem_iff.mp (by simp), error, hpage, hrun⟩
  · cases hlowest : lowestFailure (questions.map ask) with
    | none =>
        rw [lowestFailure_eq_none_iff] at hlowest
        exact absurd (by simpa using hlowest) h
    | some error =>
        obtain ⟨before, page, after, rfl, -, hpage⟩ := lowestFailure_spec hlowest
        exact ⟨page, by simp, error, hpage, run_of_large (Nat.not_le.mp hsmall) hperm hlowest⟩

/-- A round whose answers come in the order of their delays is settled as `gather` says, and a large
round in whatever order they come. -/
theorem Round.result_run_eq_gather (hsorted : questions.Pairwise (· < ·))
    (hperm : order.Perm questions)
    (horder : questions.length ≤ smallRound → order.Pairwise (Precedes ask)) :
    (run ask questions order).result questions = some (gather (questions.map ask)) := by
  by_cases hok : ∀ page ∈ questions, ∃ found, (ask page).result = .ok found
  · rw [result_run_of_ok hperm hok, gather_of_ok hok]
  by_cases hsmall : questions.length ≤ smallRound
  · have hfail : ¬ ∀ page ∈ order, ∃ found, (ask page).result = .ok found := by
      intro hall
      exact hok (fun page hp => hall page (hperm.mem_iff.mpr hp))
    obtain ⟨before, page, after, error, hsplit, hbefore, hpage, hrun⟩ :=
      foldl_take_of_small hsmall order [] hfail
    obtain ⟨q, hq, e, hqe, hgather, hmin, -⟩ := gather_of_not_ok hsorted hok
    have hpageMem : page ∈ questions := hperm.mem_iff.mp (by simp [hsplit])
    have hsame : page = q := by
      rcases hmin hsmall page hpageMem ⟨error, hpage⟩ with heq | hqp
      · exact heq
      · -- `q` fails and is not among the answers before `page`, so it comes after it
        have hmem : q ∈ before ++ page :: after := hsplit ▸ hperm.mem_iff.mpr hq
        rcases List.mem_append.mp hmem with hb | hb
        · obtain ⟨found, hfound⟩ := hbefore q hb
          simp [hqe] at hfound
        · rcases List.mem_cons.mp hb with rfl | hb
          · rfl
          · have hpairs := hsplit ▸ horder hsmall
            have htail := (List.pairwise_append.mp hpairs).2.1
            exact absurd hqp (precedes_asymm ((List.pairwise_cons.mp htail).1 q hb))
    subst hsame
    rw [hpage, Except.error.injEq] at hqe
    rw [run, hrun, hgather, result, hqe]
  · cases hlowest : lowestFailure (questions.map ask) with
    | none =>
        rw [lowestFailure_eq_none_iff] at hlowest
        exact absurd (by simpa using hlowest) hok
    | some error =>
        rw [run_of_large (Nat.not_le.mp hsmall) hperm hlowest, result, gather, roundFailure,
          List.length_map, if_neg hsmall, hlowest]

end Settled

theorem exists_arrival_order (ask : UInt32 → Answer) {questions : List UInt32}
    (hsorted : questions.Pairwise (· < ·)) :
    ∃ order : List UInt32, order.Perm questions ∧ order.Pairwise (Precedes ask) := by
  let le (p q : UInt32) : Bool :=
    decide ((ask p).delay < (ask q).delay ∨ (ask p).delay = (ask q).delay ∧ p ≤ q)
  have htrans : ∀ p q r, le p q → le q r → le p r := by
    intro p q r hpq hqr
    simp only [le, decide_eq_true_eq] at hpq hqr ⊢
    rcases hpq with hpq | ⟨hpq, hp⟩ <;> rcases hqr with hqr | ⟨hqr, hq⟩
    · exact .inl (by omega)
    · exact .inl (by omega)
    · exact .inl (by omega)
    · exact .inr ⟨by omega, UInt32.le_trans hp hq⟩
  have htotal : ∀ p q, le p q || le q p := by
    intro p q
    simp only [le, Bool.or_eq_true, decide_eq_true_eq]
    rcases Nat.lt_trichotomy (ask p).delay (ask q).delay with h | h | h
    · exact .inl (.inl h)
    · rcases UInt32.le_total p q with hp | hp
      · exact .inl (.inr ⟨h, hp⟩)
      · exact .inr (.inr ⟨h.symm, hp⟩)
    · exact .inr (.inl h)
  have hperm := List.mergeSort_perm questions le
  refine ⟨questions.mergeSort le, hperm, ?_⟩
  have hnodup : (questions.mergeSort le).Nodup :=
    hperm.nodup_iff.mpr (hsorted.imp (fun h => UInt32.ne_of_lt h))
  refine ((List.pairwise_mergeSort htrans htotal questions).and hnodup).imp ?_
  rintro p q ⟨hle, hne⟩
  simp only [le, decide_eq_true_eq] at hle
  rcases hle with h | ⟨h, hp⟩
  · exact .inl h
  · exact .inr ⟨h, UInt32.lt_of_le_of_ne hp hne⟩

end BookFinder.Search
