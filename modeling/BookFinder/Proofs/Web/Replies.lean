import BookFinder.Catalog.Memory
import BookFinder.Proofs.Search.Agreement
import BookFinder.Proofs.Web.Routes

/-! # What a reply shows of a search

A reply is made without any search, or of what a search comes to. Of a catalog that fails a caller
learns that it failed and nothing else. -/

namespace BookFinder.Web

open Catalog

/-! ## Replies to a search -/

/-- Of outcomes that a caller cannot tell apart the replies are the same. -/
theorem ofRun_of_alike {run other : Search.Run} (h : Search.Alike other.outcome run.outcome) :
    (Reply.ofRun other).status = (Reply.ofRun run).status ∧
      (Reply.ofRun other).headers = (Reply.ofRun run).headers ∧
      (Reply.ofRun other).body = (Reply.ofRun run).body := by
  obtain ⟨outcome, calls, events⟩ := run
  obtain ⟨otherOutcome, otherCalls, otherEvents⟩ := other
  cases h with
  | same => cases outcome <;> exact ⟨rfl, rfl, rfl⟩
  | unavailable cause other => exact ⟨rfl, rfl, rfl⟩

theorem ofRun_calls (run : Search.Run) : (Reply.ofRun run).calls = run.calls := by
  rw [Reply.ofRun]
  split <;> rfl

theorem outcome_of_status {run : Search.Run} (h : (Reply.ofRun run).status = 200) :
    ∃ found, run.outcome = .ok found := by
  cases houtcome : run.outcome with
  | ok found => exact ⟨found, rfl⟩
  | error error =>
      simp only [Reply.ofRun, houtcome, Reply.json] at h
      split at h <;> cases h

theorem ofRun_body_of_unavailable {run : Search.Run} (h : (Reply.ofRun run).status = 502) :
    (Reply.ofRun run).body = "\x7b\"error\":\"catalog search failed\"\x7d" := by
  obtain ⟨outcome, calls, events⟩ := run
  cases outcome with
  | ok found => cases h
  | error error =>
      cases error with
      | incomplete => cases h
      | invalidQuery cause => cases h
      | unavailable cause =>
          change (Json.object [("error", .string "catalog search failed")]).render = _
          decide +kernel

/-! ## Replies to any request -/

theorem forMethod_status (method : Method) (reply : Reply) :
    (reply.forMethod method).status = reply.status := by
  rw [Reply.forMethod]
  split <;> rfl

theorem forMethod_headers (method : Method) (reply : Reply) :
    (reply.forMethod method).headers = reply.headers := by
  rw [Reply.forMethod]
  split <;> rfl

theorem forMethod_body (method : Method) (reply : Reply) :
    (reply.forMethod method).body = if method.name = "HEAD" then "" else reply.body := by
  rw [Reply.forMethod]
  split <;> rfl

/-- A route whose reply is the same for all searches has one reply to a request. -/
theorem exists_reply_of_reading {request : Request} {route : Route} {answer : Reply}
    (hreads : request.method.name = "GET" ∨ request.method.name = "HEAD")
    (hroute : Route.ofPath request.target.path = some route) (hstatus : answer.status ≠ 502)
    (hanswer : ∀ find, route.reply find (request.target.query.getD []) = answer) :
    ∃ reply : Reply, reply.status ≠ 502 ∧ ∀ find, respond find request = reply := by
  refine ⟨(answer.forMethod request.method).allowAnyOrigin, ?_, ?_⟩
  · rw [Reply.allowAnyOrigin, forMethod_status]
    exact hstatus
  · intro find
    rw [respond_of_reading hreads hroute, hanswer]

/-- A request is answered without a search, or by what the search for its arguments comes to. -/
theorem respond_cases (request : Request) :
    (∃ reply : Reply, reply.status ≠ 502 ∧ ∀ find, respond find request = reply) ∨
    (request.method.name = "GET" ∨ request.method.name = "HEAD") ∧
      ∃ arguments, request.arguments = some (.ok arguments) := by
  by_cases hoptions : request.method.name = "OPTIONS"
  · exact .inl ⟨(preflight (Route.ofPath request.target.path)).allowAnyOrigin,
      by simp [Reply.allowAnyOrigin, preflight],
      fun find => by simp only [respond, if_pos hoptions]⟩
  cases hroute : Route.ofPath request.target.path with
  | none =>
      exact .inl ⟨Reply.allowAnyOrigin { status := 404 }, by decide,
        fun find => by simp only [respond, if_neg hoptions, hroute]⟩
  | some route =>
      by_cases hreads : request.method.name = "GET" ∨ request.method.name = "HEAD"
      · cases route with
        | books =>
            cases hquery : Arguments.ofQuery (request.target.query.getD []) with
            | error error =>
                have hanswer : ∀ find, Route.books.reply find (request.target.query.getD []) =
                    .text 400 error.message := by
                  intro find
                  rw [Route.reply, hquery, replyToSearch]
                exact .inl (exists_reply_of_reading hreads hroute (by simp [Reply.text]) hanswer)
            | ok arguments =>
                refine .inr ⟨hreads, arguments, ?_⟩
                simp only [Request.arguments, hroute, hquery]
        | booksOf search page =>
            cases hpath : Arguments.ofPath search page with
            | error error =>
                have hanswer : ∀ find, (Route.booksOf search page).reply find
                    (request.target.query.getD []) = .text 400 error.message := by
                  intro find
                  rw [Route.reply, hpath, replyToSearch]
                exact .inl (exists_reply_of_reading hreads hroute (by simp [Reply.text]) hanswer)
            | ok arguments =>
                refine .inr ⟨hreads, arguments, ?_⟩
                simp only [Request.arguments, hroute, hpath]
        | health =>
            exact .inl (exists_reply_of_reading hreads hroute (by decide) (fun find => rfl))
      · obtain ⟨hget, hhead⟩ := not_or.mp hreads
        exact .inl ⟨Reply.allowAnyOrigin { status := 405, headers := [allowHeader] }, by decide,
          fun find => by simp only [respond, if_neg hoptions, hroute, if_neg hget, if_neg hhead]⟩

/-! ## Failures of the catalog -/

/-- The catalogs give the same pages and fail on the same ones, for whatever reason and at whatever
time. -/
def SamePages (catalog other : Catalog) : Prop :=
  ∀ keyword page found,
    (other keyword page).result = .ok found ↔ (catalog keyword page).result = .ok found

theorem SamePages.alike {catalog other : Catalog} (h : SamePages catalog other) (limit : UInt32)
    (search page : String) :
    Search.Alike (Search.search other limit search page).outcome
      (Search.search catalog limit search page).outcome :=
  (Search.search_alike (fun call _ found => (h call.keyword call.page found).mpr)
    (fun call _ found => (h call.keyword call.page found).mp)).1

/-- Why and when pages of the catalog fail is not shown: over catalogs that give the same pages, any
request has the same reply in status, headers and body. A failed search is answered by one fixed
body, which a HEAD request is spared. -/
theorem failures_concealed {catalog other : Catalog} (hsame : SamePages catalog other)
    (limit : UInt32) (request : Request) :
    let reply := respond (Search.search catalog limit) request
    let otherReply := respond (Search.search other limit) request
    (otherReply.status = reply.status ∧ otherReply.headers = reply.headers ∧
      otherReply.body = reply.body) ∧
    (reply.status = 502 → reply.body =
      if request.method.name = "HEAD" then ""
      else "\x7b\"error\":\"catalog search failed\"\x7d") := by
  intro reply otherReply
  rcases respond_cases request with ⟨fixed, hfixed, hreply⟩ | ⟨hreads, arguments, harguments⟩
  · have hboth : otherReply = reply := (hreply _).trans (hreply _).symm
    refine ⟨by simp [hboth], ?_⟩
    intro hstatus
    rw [show reply = fixed from hreply _] at hstatus
    exact absurd hstatus hfixed
  · have hfound : reply = _ := respond_of_search hreads harguments (Search.search catalog limit)
    have hother : otherReply = _ := respond_of_search hreads harguments (Search.search other limit)
    obtain ⟨hstatus, hheaders, hbody⟩ :=
      ofRun_of_alike (hsame.alike limit arguments.search arguments.page)
    rw [hfound, hother]
    simp only [Reply.allowAnyOrigin, forMethod_status, forMethod_headers, forMethod_body, hstatus, hheaders,
      hbody, and_self, true_and]
    intro hfailed
    rw [ofRun_body_of_unavailable hfailed]

/-- Two catalogs of twelve volumes that lose the second page for reasons and after times of their
own. -/
theorem failures_concealed_of_second_page :
    let books (series : String) := (List.range 12).map (volume series)
    let catalog := Memory.catalog {
      books, failure := fun page => if page = 2 then some (.status 500 "disk full") else none }
    let other := Memory.catalog {
      books, delay := fun page => 40 * page.toNat
      failure := fun page => if page = 2 then some .malformed else none }
    SamePages catalog other ∧ ∃ request,
      Request.parse "GET" "/books?search=Rust-7&page=1" = some request ∧
      (respond (Search.search catalog 100) request).status = 502 ∧
      (respond (Search.search other 100) request).body =
        "\x7b\"error\":\"catalog search failed\"\x7d" := by
  intro books catalog other
  have hsame : SamePages catalog other := by
    intro keyword page found
    by_cases hpage : page = 2 <;> simp [catalog, other, Memory.catalog, Memory.page, hpage]
  have hstatus : (Request.parse "GET" "/books?search=Rust-7&page=1").map (fun request =>
      (request.method.name, (respond (Search.search catalog 100) request).status)) =
        some ("GET", 502) := by
    decide +kernel
  obtain ⟨request, hrequest, hpair⟩ := Option.map_eq_some_iff.mp hstatus
  obtain ⟨hget, hfailed⟩ := Prod.mk.inj hpair
  obtain ⟨⟨-, -, hbody⟩, htext⟩ := failures_concealed hsame 100 request
  refine ⟨hsame, request, hrequest, hfailed, ?_⟩
  rw [hbody, htext hfailed, hget]
  rfl

theorem body_of_failed_head :
    let catalog := Memory.catalog {
      failure := fun page => if page = 1 then some (.other "down") else none }
    ∃ request, Request.parse "HEAD" "/books/rust/1" = some request ∧
      (respond (Search.search catalog 100) request).status = 502 ∧
      (respond (Search.search catalog 100) request).body = "" ∧
      (respond (Search.search catalog 100) request).body ≠
        "\x7b\"error\":\"catalog search failed\"\x7d" := by
  intro catalog
  have hreply : (Request.parse "HEAD" "/books/rust/1").map (fun request =>
      ((respond (Search.search catalog 100) request).status,
        (respond (Search.search catalog 100) request).body)) = some (502, "") := by
    decide +kernel
  obtain ⟨request, hrequest, hpair⟩ := Option.map_eq_some_iff.mp hreply
  obtain ⟨hstatus, hbody⟩ := Prod.mk.inj hpair
  refine ⟨request, hrequest, hstatus, hbody, ?_⟩
  rw [hbody]
  decide

end BookFinder.Web
