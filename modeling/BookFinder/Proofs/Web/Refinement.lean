import BookFinder.Catalog.Memory
import BookFinder.Proofs.Catalog.Address
import BookFinder.Proofs.Catalog.Client
import BookFinder.Proofs.Web.Replies
import BookFinder.Web.Application

/-! # The service over HTTP refines the search in memory

A server that conveys the pages of a catalog stands for that catalog: whoever asks the service gets
the same answer, and a search that succeeds asks the server for the pages that it asks the catalog
for. -/

namespace BookFinder

open Catalog Network

/-! ## Servers on this machine -/

/-- The settings for a catalog at a path below a TCP port of this machine. -/
def Settings.loopback (tcpPort : UInt16) (path : String) (limit : UInt32) : Settings :=
  { catalog := {
      baseUrl := "http://127.0.0.1:" ++ String.ofList (Text.renderNat tcpPort.toNat) ++ "/" ++ path
      maxPages := limit } }

theorem Catalog.HttpClient.ofSettings_loopback (codecs : Codecs) (tcpPort : UInt16)
    (path : String) (limit : UInt32) :
    ∃ client, HttpClient.ofSettings codecs (Settings.loopback tcpPort path limit).catalog =
        .ok client ∧ client.Reaches tcpPort := by
  obtain ⟨url, hparse, hurl⟩ := Url.parse_loopback codecs.international tcpPort path.toList
  obtain ⟨list, hpath, -⟩ := hurl.clean.path
  have hbase : Url.parse codecs.international ("http://127.0.0.1:" ++
      String.ofList (Text.renderNat tcpPort.toNat) ++ "/" ++ path) = .ok url := by
    have hfront : "http://127.0.0.1:".toList = "http://".toList ++ Url.loopbackHost ++ [':'] := by
      decide
    rw [← hparse, Url.parse]
    simp only [String.toList_append, String.toList_ofList, hfront, Url.loopback]
    simp
  exact ⟨_, HttpClient.ofSettings_of_parse hbase hpath limit, rfl, hurl⟩

theorem Web.Application.ofSettings_loopback (codecs : Codecs) (tcpPort : UInt16) (path : String)
    (limit : UInt32) :
    ∃ app, Application.ofSettings codecs (.loopback tcpPort path limit) = .ok app ∧
      app.limit = limit ∧ app.client.Reaches tcpPort := by
  obtain ⟨client, hclient, hreaches⟩ := HttpClient.ofSettings_loopback codecs tcpPort path limit
  refine ⟨{ client, limit }, ?_, rfl, hreaches⟩
  rw [ofSettings, hclient]
  rfl

namespace Web

/-! ## Refinement -/

theorem respond_of_conveysAll {app : Application} {tcpPort : UInt16} {server : Server}
    {catalog : Catalog} {search page : String} (hreaches : app.client.Reaches tcpPort)
    (hconveys : ∀ expression, Query.Expression.parse search = .ok expression →
      app.client.ConveysAll server catalog expression.searchTerm)
    (hsend : ∀ call ∈ (Search.search catalog app.limit search page).calls,
      (Text.Utf8.encode (app.client.searchUrl call.keyword call.page).render).length ≤
        Target.maxLength)
    {request : Request} (hget : request.method.name = "GET")
    (harguments : request.arguments = some (.ok { search, page })) :
    let reply := app.respond (.single (.loopback tcpPort) server) request
    let expected := respond (Search.search catalog app.limit) request
    reply.status = expected.status ∧ reply.headers = expected.headers ∧
      reply.body = expected.body ∧
      (reply.status = 200 →
        (app.requests (.single (.loopback tcpPort) server) request).map (·.target) =
          expected.calls.map fun call => app.client.target call.keyword call.page) := by
  intro reply expected
  let remote := app.client.catalog (.single (.loopback tcpPort) server)
  have hkeyword {asked : Catalog} {call : Call}
      (hcall : call ∈ (Search.search asked app.limit search page).calls) :
      app.client.ConveysAll server catalog call.keyword := by
    obtain ⟨expression, hparse, hterm⟩ := Search.search_calls_keyword hcall
    rw [hterm]
    exact hconveys expression hparse
  have hsendable : ∀ call ∈ (Search.search catalog app.limit search page).calls,
      Sender.isSendable (app.client.requestUrl call.keyword call.page) = true :=
    fun call hcall => (hreaches.isSendable_iff _ _).mpr (hsend call hcall)
  have hthere : Search.Keeps catalog remote
      (Search.search catalog app.limit search page).calls := by
    intro call hcall found hfound
    exact HttpClient.conveysAll_ok hreaches (hkeyword hcall) (hsendable call hcall) hfound
  have hback : Search.Keeps remote catalog
      (Search.search remote app.limit search page).calls := by
    intro call hcall found hfound
    exact HttpClient.ok_of_conveysAll hreaches (hkeyword hcall) hfound
  obtain ⟨halike, hcalls⟩ := Search.search_alike hthere hback
  obtain ⟨hstatus, hheaders, hbody⟩ := ofRun_of_alike halike
  have hreply : reply = (Reply.ofRun (Search.search remote app.limit search page)).allowAnyOrigin :=
    respond_of_arguments hget harguments _
  have hexpected : expected =
      (Reply.ofRun (Search.search catalog app.limit search page)).allowAnyOrigin :=
    respond_of_arguments hget harguments _
  refine ⟨?_, ?_, ?_, ?_⟩
  · rw [hreply, hexpected]
    exact hstatus
  · rw [hreply, hexpected]
    exact congrArg (_ :: ·) hheaders
  · rw [hreply, hexpected]
    exact hbody
  · intro hok
    rw [hreply] at hok
    obtain ⟨found, hfound⟩ := outcome_of_status (hstatus.symm.trans hok)
    have hasked : reply.calls = (Search.search catalog app.limit search page).calls := by
      rw [hreply]
      exact (ofRun_calls _).trans (hcalls found hfound)
    have hexpects : expected.calls = (Search.search catalog app.limit search page).calls := by
      rw [hexpected]
      exact ofRun_calls _
    rw [hexpects]
    change (app.client.requests (.single (.loopback tcpPort) server) reply.calls).map (·.target) = _
    rw [hasked]
    apply HttpClient.targets_of_requests
    intro call hcall
    exact (HttpClient.fetchPage_of_conveys hreaches (hsendable call hcall)
      (hkeyword hcall call.page _ rfl)).1

/-- The service whose settings name a server of this machine, below any path, refines the search in
memory: whatever the keyword and the page, if the server conveys the catalog for the term that is
searched for and the URLs of its pages are short enough to be sent, a GET request for the search has
the same reply from both, and a success has asked for the targets of the catalog's calls, once and
in order. Keyword and page reach the service in either form of address that is short enough. -/
theorem service_refines_search (codecs : Codecs) (catalog : Catalog) (limit : UInt32)
    (tcpPort : UInt16) (path search page : String) :
    ∃ app, Application.ofSettings codecs (.loopback tcpPort path limit) = .ok app ∧
      (∀ server : Server,
        (∀ expression, Query.Expression.parse search = .ok expression →
          app.client.ConveysAll server catalog expression.searchTerm) →
        (∀ call ∈ (Search.search catalog limit search page).calls,
          (Text.Utf8.encode (app.client.searchUrl call.keyword call.page).render).length ≤
            Target.maxLength) →
        ∀ request : Request, request.method.name = "GET" →
          request.arguments = some (.ok { search, page }) →
          let network := Network.single (.loopback tcpPort) server
          let reply := app.respond network request
          let expected := respond (Search.search catalog limit) request
          reply.status = expected.status ∧ reply.headers = expected.headers ∧
            reply.body = expected.body ∧
            (reply.status = 200 → (app.requests network request).map (·.target) =
              expected.calls.map fun call => app.client.target call.keyword call.page)) ∧
      ∀ address, address = queryAddress search page ∨
          page ≠ "" ∧ address = pathAddress search page →
        (Text.Utf8.encode address.toList).length ≤ Target.maxLength →
        ∃ request, Request.parse "GET" address = some request ∧ request.method.name = "GET" ∧
          request.arguments = some (.ok { search, page }) := by
  obtain ⟨app, happ, hlimit, hreaches⟩ := Application.ofSettings_loopback codecs tcpPort path limit
  refine ⟨app, happ, ?_, ?_⟩
  · intro server hconveys hsend request hget harguments
    rw [← hlimit] at hsend ⊢
    exact respond_of_conveysAll hreaches hconveys hsend hget harguments
  · intro address haddress hlength
    rcases haddress with rfl | ⟨hpage, rfl⟩
    · exact parse_queryAddress hlength
    · exact parse_pathAddress hpage hlength

/-- Twelve volumes less one, of which the second page is asked for; a third page would fail. -/
theorem service_refines_search_on_volumes :
    let catalog := Memory.catalog {
      books := fun series => (List.range 12).map (volume series)
      failure := fun page => if page = 3 then some (.status 503 "maintenance") else none }
    ∃ app server request,
      Application.ofSettings .none (.loopback 8080 "1.0" 100) = .ok app ∧
      Request.parse "GET" "/books?search=Rust%2D7&page=2" = some request ∧
      (app.respond (.single (.loopback 8080) server) request).body =
        (respond (Search.search catalog 100) request).body ∧
      (app.requests (.single (.loopback 8080) server) request).map (·.target) =
        ["/1.0/search/Rust/1", "/1.0/search/Rust/2"] := by
  intro catalog
  obtain ⟨app, happ, hsame, haddress⟩ :=
    service_refines_search .none catalog 100 8080 "1.0" "Rust-7" "2"
  have hreaches : app.client.Reaches 8080 := by
    obtain ⟨other, hother, -, hreaches⟩ := Application.ofSettings_loopback .none 8080 "1.0" 100
    obtain rfl : app = other := Except.ok.inj (happ.symm.trans hother)
    exact hreaches
  let server := app.client.pageServer "Rust" fun page => plainReply (catalog "Rust" page).result
  have hconveys : ∀ expression, Query.Expression.parse "Rust-7" = .ok expression →
      app.client.ConveysAll server catalog expression.searchTerm := by
    intro expression hparse
    have hterm : (Query.Expression.parse "Rust-7").toOption.map (·.searchTerm) = some "Rust" := by
      decide +kernel
    rw [hparse] at hterm
    rw [show expression.searchTerm = "Rust" from Option.some.inj hterm]
    apply HttpClient.conveysAll_pageServer hreaches
    intro page error herror
    by_cases hpage : page = 3
    · simp only [catalog, Memory.catalog, if_pos hpage, Except.error.injEq] at herror
      exact ⟨503, "maintenance", herror.symm, by decide, by decide⟩
    · simp [catalog, Memory.catalog, hpage] at herror
  have hcalls : (Search.search catalog 100 "Rust-7" "2").calls = [⟨"Rust", 1⟩, ⟨"Rust", 2⟩] := by
    decide +kernel
  have hurls : (Application.ofSettings .none (.loopback 8080 "1.0" 100)).toOption.map (fun app =>
      [1, 2].map fun page => (decide ((Text.Utf8.encode
        (app.client.searchUrl "Rust" page).render).length ≤ Target.maxLength),
          app.client.target "Rust" page)) =
      some [(true, "/1.0/search/Rust/1"), (true, "/1.0/search/Rust/2")] := by
    decide +kernel
  rw [happ] at hurls
  simp only [Except.toOption, Option.map_some, List.map_cons, List.map_nil, Option.some.injEq,
    List.cons.injEq, Prod.mk.injEq, decide_eq_true_eq, and_true] at hurls
  obtain ⟨⟨hsendFirst, htargetFirst⟩, hsendSecond, htargetSecond⟩ := hurls
  have hsend : ∀ call ∈ (Search.search catalog 100 "Rust-7" "2").calls,
      (Text.Utf8.encode (app.client.searchUrl call.keyword call.page).render).length ≤
        Target.maxLength := by
    rw [hcalls]
    simp only [List.forall_mem_cons, List.not_mem_nil, false_imp_iff, implies_true, and_true]
    exact ⟨hsendFirst, hsendSecond⟩
  have hquery : queryAddress "Rust-7" "2" = "/books?search=Rust%2D7&page=2" := by decide +kernel
  obtain ⟨request, hrequest, hget, harguments⟩ := haddress _ (.inl rfl) (by decide +kernel)
  rw [hquery] at hrequest
  have hexpected : (Request.parse "GET" "/books?search=Rust%2D7&page=2").map (fun request =>
      ((respond (Search.search catalog 100) request).status,
        (respond (Search.search catalog 100) request).calls)) =
      some (200, [⟨"Rust", 1⟩, ⟨"Rust", 2⟩]) := by
    decide +kernel
  rw [hrequest, Option.map_some, Option.some.injEq, Prod.mk.injEq] at hexpected
  obtain ⟨hstatus, -, hbody, htargets⟩ := hsame server hconveys hsend request hget harguments
  refine ⟨app, server, request, happ, hrequest, hbody, ?_⟩
  rw [htargets (hstatus.trans hexpected.1), hexpected.2]
  simp [htargetFirst, htargetSecond]

end Web

end BookFinder
