import BookFinder.Proofs.Entries
import BookFinder.Proofs.Search.Validation
import BookFinder.Proofs.Web.Replies

/-! # What a request sets off

Only a request that reads, that names one of the two routes to a search and that brings arguments
which pass the checks of a search gets the catalog asked. All others are answered on the spot. -/

namespace BookFinder.Web

open Catalog Text

/-! ## Routes -/

/-- The method is one of those that a route answers. -/
def Method.Reads (method : Method) : Prop := method.name = "GET" ∨ method.name = "HEAD"

inductive Route.Names : List Char → Route → Prop
  | books : Names "/books".toList books
  | booksOf {search page : List Char} (hsearch : '/' ∉ search) (hpage : '/' ∉ page)
      (hne : page ≠ []) : Names ("/books/".toList ++ search ++ '/' :: page) (booksOf search page)
  | health : Names "/health".toList health

theorem joinWith_books : joinWith '/' [[], "books".toList] = "/books".toList := by decide

theorem joinWith_health : joinWith '/' [[], "health".toList] = "/health".toList := by decide

theorem joinWith_booksOf (search page : List Char) :
    joinWith '/' [[], "books".toList, search, page] =
      "/books/".toList ++ search ++ '/' :: page := by
  have hfront : "/books/".toList = '/' :: ("books".toList ++ ['/']) := by decide
  simp [joinWith, hfront]

theorem Route.Names.ofPath_eq {path : List Char} {route : Route} (h : Route.Names path route) :
    Route.ofPath path = some route := by
  cases h with
  | books =>
      have hsplit : splitAt (· == '/') "/books".toList = [[], "books".toList] :=
        (splitAt_eq_iff (by simp)).mpr ⟨joinWith_books, by simp⟩
      rw [Route.ofPath, hsplit]
      exact if_pos rfl
  | health =>
      have hsplit : splitAt (· == '/') "/health".toList = [[], "health".toList] :=
        (splitAt_eq_iff (by simp)).mpr ⟨joinWith_health, by simp⟩
      rw [Route.ofPath, hsplit]
      simp
  | @booksOf search page hsearch hpage hne =>
      have hsplit : splitAt (· == '/') ("/books/".toList ++ search ++ '/' :: page) =
          [[], "books".toList, search, page] :=
        (splitAt_eq_iff (by simp)).mpr ⟨joinWith_booksOf search page, by simp [hsearch, hpage]⟩
      rw [Route.ofPath, hsplit]
      exact if_pos ⟨rfl, hne⟩

theorem Route.names_of_ofPath {path : List Char} {route : Route}
    (h : Route.ofPath path = some route) : Route.Names path route := by
  rw [Route.ofPath] at h
  split at h
  · rename_i first hsplit
    obtain ⟨hjoin, -⟩ := (splitAt_eq_iff (by simp)).mp hsplit
    split at h
    · rename_i hbooks
      obtain rfl := Option.some.inj h
      rw [← hjoin, hbooks, joinWith_books]
      exact .books
    · split at h
      · rename_i hhealth
        obtain rfl := Option.some.inj h
        rw [← hjoin, hhealth, joinWith_health]
        exact .health
      · cases h
  · rename_i first search page hsplit
    split at h
    · rename_i hbooks
      obtain rfl := Option.some.inj h
      obtain ⟨hjoin, hparts⟩ := (splitAt_eq_iff (by simp)).mp hsplit
      rw [← hjoin, hbooks.1, joinWith_booksOf]
      exact .booksOf (hparts search (by simp)) (hparts page (by simp)) hbooks.2
    · cases h
  · cases h

/-! ## Arguments -/

/-- The pairs of a query give `value` for an argument: it occurs once at most, and one that does not
occur is empty. -/
def GivesArgument (pairs : List (List Char × List Char)) (argument : Argument) (value : String) :
    Prop :=
  Gives [argument.name.toList] (fun text value => value.toList = text) "" pairs value

/-- The target brings these arguments to a route to a search: as pairs of its query, or as the last
segments of its path, whose escapes then stand for UTF-8. -/
inductive Target.Brings (target : Target) (arguments : Arguments) : Prop
  | inQuery (hroute : Route.Names target.path .books)
      (hsearch : GivesArgument (FormUrlencoded.decode (target.query.getD [])) .search
        arguments.search)
      (hpage : GivesArgument (FormUrlencoded.decode (target.query.getD [])) .page arguments.page)
  | inPath {search page : List Char} (hroute : Route.Names target.path (.booksOf search page))
      (hsearch : Percent.decodeBytes search = Utf8.encode arguments.search.toList)
      (hpage : Percent.decodeBytes page = Utf8.encode arguments.page.toList)

theorem ofKey_eq_some_iff {key : List Char} {argument : Argument} :
    Argument.ofKey key = some argument ↔ key = argument.name.toList := by
  have hdiffer : Argument.search.name.toList ≠ Argument.page.name.toList := by decide
  rw [Argument.ofKey]
  by_cases hsearch : key = Argument.search.name.toList
  · rw [if_pos hsearch, hsearch]
    cases argument <;> simp [hdiffer]
  · rw [if_neg hsearch]
    cases argument <;> simp [hsearch]

def foundBefore (argument : Argument) (value : Option (List Char)) : List (List Char × List Char) :=
  (value.map fun text => (argument.name.toList, text)).toList

theorem givesArgument_foundBefore {argument : Argument} {found : Option (List Char)}
    {value : String} :
    GivesArgument (foundBefore argument found) argument value ↔
      value = String.ofList (found.getD []) := by
  cases found with
  | none => exact gives_nil
  | some text =>
      refine (gives_singleton (List.mem_singleton_self _) text).trans ?_
      constructor
      · rintro rfl
        exact String.ofList_toList.symm
      · rintro rfl
        exact String.toList_ofList

/-- The pairs that are left give an argument together with what has been found of it. -/
theorem ofPairs_eq_ok_iff {search page : Option (List Char)} {pairs : List (List Char × List Char)}
    {arguments : Arguments} :
    Arguments.ofPairs search page pairs = .ok arguments ↔
      GivesArgument (foundBefore .search search ++ pairs) .search arguments.search ∧
        GivesArgument (foundBefore .page page ++ pairs) .page arguments.page := by
  have hskip {key : List Char} {argument : Argument} (hkey : key ≠ argument.name.toList)
      (value : List Char) (front rest : List (List Char × List Char)) (text : String) :
      GivesArgument (front ++ (key, value) :: rest) argument text ↔
        GivesArgument (front ++ rest) argument text :=
    gives_skip (by simpa using hkey) value front rest
  have htwice (argument : Argument) (value other : List Char) (rest : List (List Char × List Char))
      (text : String) : ¬ GivesArgument ((argument.name.toList, value) ::
        (argument.name.toList, other) :: rest) argument text :=
    not_gives_of_two (List.mem_singleton_self _) (List.mem_singleton_self _) value other rest
  have hdiffer : Argument.search.name.toList ≠ Argument.page.name.toList := by decide
  induction pairs generalizing search page with
  | nil =>
      obtain ⟨s, p⟩ := arguments
      rw [List.append_nil, List.append_nil, givesArgument_foundBefore, givesArgument_foundBefore]
      simp [Arguments.ofPairs, eq_comm]
  | cons pair pairs ih =>
      obtain ⟨key, value⟩ := pair
      rw [Arguments.ofPairs]
      cases hkey : Argument.ofKey key with
      | none =>
          have hother (argument : Argument) : key ≠ argument.name.toList := by
            rw [ne_eq, ← ofKey_eq_some_iff, hkey]
            simp
          rw [hskip (hother .search), hskip (hother .page)]
          exact ih
      | some argument =>
          obtain rfl := ofKey_eq_some_iff.mp hkey
          cases argument with
          | search =>
              rw [hskip hdiffer]
              cases search with
              | none => exact ih
              | some found =>
                  refine iff_of_false ?_ fun h => htwice _ _ _ _ _ h.1
                  simp
          | page =>
              rw [hskip hdiffer.symm]
              cases page with
              | none => exact ih
              | some found =>
                  refine iff_of_false ?_ fun h => htwice _ _ _ _ _ h.2
                  simp

theorem ofQuery_eq_ok_iff {query : List Char} {arguments : Arguments} :
    Arguments.ofQuery query = .ok arguments ↔
      GivesArgument (FormUrlencoded.decode query) .search arguments.search ∧
        GivesArgument (FormUrlencoded.decode query) .page arguments.page :=
  ofPairs_eq_ok_iff

theorem decode?_eq_some_iff {cs text : List Char} :
    Percent.decode? cs = some text ↔ Percent.decodeBytes cs = Utf8.encode text := by
  rw [Percent.decode?, Utf8.decode?_eq_some_iff, eq_comm]

theorem ofPath_eq_ok_iff {search page : List Char} {arguments : Arguments} :
    Arguments.ofPath search page = .ok arguments ↔
      Percent.decodeBytes search = Utf8.encode arguments.search.toList ∧
        Percent.decodeBytes page = Utf8.encode arguments.page.toList := by
  rw [← decode?_eq_some_iff, ← decode?_eq_some_iff, Arguments.ofPath]
  obtain ⟨s, p⟩ := arguments
  cases Percent.decode? search with
  | none => simp
  | some searchText =>
      cases Percent.decode? page with
      | none => simp
      | some pageText => simp [← String.toList_inj, eq_comm]

theorem arguments_eq_ok_iff {request : Request} {arguments : Arguments} :
    request.arguments = some (.ok arguments) ↔ request.target.Brings arguments := by
  constructor
  · intro h
    rw [Request.arguments] at h
    split at h
    · rename_i hroute
      obtain ⟨hsearch, hpage⟩ := ofQuery_eq_ok_iff.mp (Option.some.inj h)
      exact .inQuery (Route.names_of_ofPath hroute) hsearch hpage
    · rename_i hroute
      obtain ⟨hsearch, hpage⟩ := ofPath_eq_ok_iff.mp (Option.some.inj h)
      exact .inPath (Route.names_of_ofPath hroute) hsearch hpage
    · cases h
    · cases h
  · intro h
    cases h with
    | inQuery hroute hsearch hpage =>
        simp only [Request.arguments, hroute.ofPath_eq, ofQuery_eq_ok_iff.mpr ⟨hsearch, hpage⟩]
    | inPath hroute hsearch hpage =>
        simp only [Request.arguments, hroute.ofPath_eq, ofPath_eq_ok_iff.mpr ⟨hsearch, hpage⟩]

/-! ## Replies without a search -/

section Replies

variable (find : String → String → Search.Run) {request : Request}

theorem respond_of_options (h : request.method.name = "OPTIONS") :
    respond find request = (preflight (Route.ofPath request.target.path)).allowAnyOrigin := by
  simp only [respond, if_pos h]

theorem respond_of_no_route (h : request.method.name ≠ "OPTIONS")
    (hroute : ∀ route, ¬ Route.Names request.target.path route) :
    respond find request = Reply.allowAnyOrigin { status := 404 } := by
  have hnone : Route.ofPath request.target.path = none := by
    rw [Option.eq_none_iff_forall_ne_some]
    intro route hfound
    exact hroute route (Route.names_of_ofPath hfound)
  simp only [respond, if_neg h, hnone]

theorem respond_of_other_method (h : request.method.name ≠ "OPTIONS")
    (hreads : ¬ request.method.Reads) {route : Route}
    (hroute : Route.Names request.target.path route) :
    respond find request =
      Reply.allowAnyOrigin { status := 405, headers := [allowHeader] } := by
  obtain ⟨hget, hhead⟩ := not_or.mp hreads
  simp only [respond, if_neg h, hroute.ofPath_eq, if_neg hget, if_neg hhead]

theorem respond_of_health (hreads : request.method.Reads)
    (hroute : Route.Names request.target.path .health) :
    respond find request = ((Reply.json 200 health).forMethod request.method).allowAnyOrigin :=
  respond_of_reading hreads hroute.ofPath_eq find

/-- HEAD is answered as GET is, without the body. -/
theorem respond_head (target : Target) :
    respond find { method := ⟨"HEAD"⟩, target } =
      { respond find { method := ⟨"GET"⟩, target } with body := "" } := by
  cases hroute : Route.ofPath target.path with
  | none => simp [respond, hroute, Reply.allowAnyOrigin]
  | some route => simp [respond, hroute, Reply.allowAnyOrigin]

end Replies

theorem forMethod_calls (method : Method) (reply : Reply) :
    (reply.forMethod method).calls = reply.calls := by
  rw [Reply.forMethod]
  split <;> rfl

/-! ## Requests that get the catalog asked -/

/-- The request reads, and brings arguments that pass the checks of a search. -/
structure Request.AsksFor (request : Request) (arguments : Arguments) : Prop where
  reads : request.method.Reads
  brings : request.target.Brings arguments
  accepts : Search.Accepts arguments.search arguments.page

theorem ofRun_of_ok {run : Search.Run} {found : Search.ResultPage} (h : run.outcome = .ok found) :
    Reply.ofRun run = .json 200 found.toJson run.calls := by
  rw [Reply.ofRun, h]

theorem ofRun_of_error {run : Search.Run} {error : Search.SearchError}
    (h : run.outcome = .error error) :
    Reply.ofRun run = .json (if error.isCallersFault then 400 else 502)
      (.object [("error", .string error.message)]) run.calls := by
  rw [Reply.ofRun, h]

/-- A search that fails only if the catalog does shows in its status which it was. -/
theorem status_ofRun {run : Search.Run}
    (h : ∀ error, run.outcome = .error error → ∃ cause, error = .unavailable cause) :
    ((Reply.ofRun run).status = 200 ↔ ∃ found, run.outcome = .ok found) ∧
      ((Reply.ofRun run).status = 502 ↔ ∃ cause, run.outcome = .error (.unavailable cause)) ∧
      ((Reply.ofRun run).status = 200 ∨ (Reply.ofRun run).status = 502) := by
  cases houtcome : run.outcome with
  | ok found =>
      rw [ofRun_of_ok houtcome]
      simp [Reply.json]
  | error error =>
      obtain ⟨cause, rfl⟩ := h error houtcome
      rw [ofRun_of_error houtcome]
      simp [Reply.json, Search.SearchError.isCallersFault]

theorem respond_of_refused (catalog : Catalog) (limit : UInt32) {request : Request} {route : Route}
    (hreads : request.method.Reads) (hroute : Route.Names request.target.path route)
    (hsearch : route ≠ .health) (hrefused : ∀ arguments, ¬ request.AsksFor arguments) :
    (respond (Search.search catalog limit) request).status = 400 ∧
      (respond (Search.search catalog limit) request).calls = [] := by
  obtain ⟨brought, hbrought⟩ : ∃ brought, request.arguments = some brought := by
    rw [Request.arguments, hroute.ofPath_eq]
    cases route with
    | books => exact ⟨_, rfl⟩
    | booksOf search page => exact ⟨_, rfl⟩
    | health => exact absurd rfl hsearch
  rw [respond_of_brought hreads hbrought, Reply.allowAnyOrigin, forMethod_status, forMethod_calls]
  cases brought with
  | error error => exact ⟨rfl, rfl⟩
  | ok arguments =>
      have hchecks : ¬ Search.Accepts arguments.search arguments.page := fun haccepts =>
        hrefused arguments ⟨hreads, arguments_eq_ok_iff.mp hbrought, haccepts⟩
      obtain ⟨error, hfault, -, hrun⟩ := Search.search_of_not_accepts catalog limit hchecks
      rw [replyToSearch, hrun, ofRun_of_error rfl, if_pos hfault]
      exact ⟨rfl, rfl⟩

theorem calls_of_not_asksFor (catalog : Catalog) (limit : UInt32) {request : Request}
    (h : ∀ arguments, ¬ request.AsksFor arguments) :
    (respond (Search.search catalog limit) request).calls = [] := by
  by_cases hoptions : request.method.name = "OPTIONS"
  · rw [respond_of_options _ hoptions]
    rfl
  by_cases hnone : ∀ route, ¬ Route.Names request.target.path route
  · rw [respond_of_no_route _ hoptions hnone]
    rfl
  obtain ⟨route, hroute⟩ := not_forall_not.mp hnone
  by_cases hreads : request.method.Reads
  · by_cases hhealth : route = .health
    · rw [respond_of_health _ hreads (hhealth ▸ hroute), Reply.allowAnyOrigin, forMethod_calls]
      rfl
    · exact (respond_of_refused catalog limit hreads hroute hhealth h).2
  · rw [respond_of_other_method _ hoptions hreads hroute]
    rfl

/-- The catalog is asked if and only if the request reads, by GET or HEAD, and brings to one of the
routes to a search arguments that pass its checks. The calls are then those of the search, and the
status is 200 if it succeeds and 502 if the catalog fails. Any other request is answered without the
catalog: a preflight by 200, one for no route by 404, one by another method by 405, one for the state
of the service by 200, and one that comes to a search with refused arguments by 400. HEAD has the
calls, the status and the headers of GET and no body. -/
theorem catalog_asked_iff (catalog : Catalog) (limit : UInt32) (request : Request) :
    let find := Search.search catalog limit
    let reply := respond find request
    let path := request.target.path
    (reply.calls ≠ [] ↔ ∃ arguments, request.AsksFor arguments) ∧
    (∀ arguments, request.AsksFor arguments →
      let run := find arguments.search arguments.page
      reply.calls = run.calls ∧
        (reply.status = 200 ↔ ∃ found, run.outcome = .ok found) ∧
        (reply.status = 502 ↔ ∃ cause, run.outcome = .error (.unavailable cause)) ∧
        (reply.status = 200 ∨ reply.status = 502)) ∧
    (request.method.name = "OPTIONS" → reply.status = 200) ∧
    (request.method.name ≠ "OPTIONS" → (∀ route, ¬ Route.Names path route) → reply.status = 404) ∧
    (request.method.name ≠ "OPTIONS" → ¬ request.method.Reads →
      ∀ route, Route.Names path route → reply.status = 405) ∧
    (request.method.Reads → Route.Names path .health → reply.status = 200) ∧
    (request.method.Reads → ∀ route, Route.Names path route → route ≠ .health →
      (∀ arguments, ¬ request.AsksFor arguments) → reply.status = 400) ∧
    ∀ target, respond find { method := ⟨"HEAD"⟩, target } =
      { respond find { method := ⟨"GET"⟩, target } with body := "" } := by
  intro find reply path
  have hsearched : ∀ arguments, request.AsksFor arguments →
      let run := find arguments.search arguments.page
      reply.calls = run.calls ∧ reply.status = (Reply.ofRun run).status := by
    intro arguments h run
    rw [show reply = _ from respond_of_search h.reads (arguments_eq_ok_iff.mpr h.brings) find]
    simp only [Reply.allowAnyOrigin, forMethod_calls, forMethod_status, ofRun_calls, run, and_self]
  refine ⟨⟨?_, ?_⟩, ?_, ?_, ?_, ?_, ?_, ?_, respond_head find⟩
  · intro hasked
    by_contra hnone
    exact hasked (calls_of_not_asksFor catalog limit (not_exists.mp hnone))
  · rintro ⟨arguments, h⟩
    rw [(hsearched arguments h).1]
    exact (Search.search_of_accepts catalog limit h.accepts).1
  · intro arguments h run
    obtain ⟨hcalls, hstatus⟩ := hsearched arguments h
    rw [hstatus]
    exact ⟨hcalls, status_ofRun (Search.search_of_accepts catalog limit h.accepts).2⟩
  · intro hoptions
    rw [show reply = _ from respond_of_options find hoptions]
    rfl
  · intro hoptions hnone
    rw [show reply = _ from respond_of_no_route find hoptions hnone]
    rfl
  · intro hoptions hreads route hroute
    rw [show reply = _ from respond_of_other_method find hoptions hreads hroute]
    rfl
  · intro hreads hhealth
    rw [show reply = _ from respond_of_health find hreads hhealth]
    simp only [Reply.allowAnyOrigin, forMethod_status]
    rfl
  · intro hreads route hroute hsearch hrefused
    exact (respond_of_refused catalog limit hreads hroute hsearch hrefused).1

/-- A keyword that is no UTF-8 brings no arguments, whatever the page is. -/
example : (Request.parse "GET" "/books/%FF/0").map (fun request =>
    let reply := respond (Search.search (fun _ _ => { result := .ok {} }) 100) request
    (reply.status, reply.body, reply.calls)) =
      some (400, "Invalid URL: Invalid UTF-8 in \x60search\x60", []) := by
  decide +kernel

end BookFinder.Web
