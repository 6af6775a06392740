import BookFinder.Network.Script
import BookFinder.Proofs.Catalog.Address
import BookFinder.Proofs.Catalog.Shapes
import BookFinder.Proofs.Network.Replies

/-! # What a client makes of a reply

One request is sent for one page, and what the server replies to it settles the outcome: whether the
answer is complete comes first, then its status, then the page that its body may hold. -/

namespace BookFinder.Catalog.HttpClient

open Network

/-! ## The way to a server -/

def requestUrl (client : HttpClient) (keyword : String) (page : UInt32) : Url :=
  Sender.withoutUserInfo (client.searchUrl keyword page)

/-- The client's requests come to a server: straight, from a proxy that is asked in its place, or
through a tunnel that a proxy opens. -/
inductive Asks (client : HttpClient) (network : Network) (server : Server) : Prop
  | straight {endpoint : Endpoint} (hhttp : client.base.IsHttp)
      (hendpoint : Endpoint.ofUrl client.base = some endpoint)
      (hproxy : client.sender.proxy = none) (h : network endpoint = some server)
  | forwarded {endpoint proxy : Endpoint} (hscheme : client.base.scheme = "http".toList)
      (hendpoint : Endpoint.ofUrl client.base = some endpoint)
      (hproxy : client.sender.proxy = some proxy) (h : network proxy = some server)
  | tunnelled {endpoint proxy : Endpoint} {between : Server} {headers : Headers}
      (hscheme : client.base.scheme = "https".toList)
      (hendpoint : Endpoint.ofUrl client.base = some endpoint)
      (hproxy : client.sender.proxy = some proxy) (hbetween : network proxy = some between)
      (hopen : between (client.sender.tunnelRequest endpoint) = .answer 200 headers [] 0)
      (h : network endpoint = some server)

/-- A server is asked for the path and the query of a URL, a proxy in its place for all of the URL
but its fragment. -/
inductive Targets (client : HttpClient) (url : Url) : String → Prop
  | origin (h : client.sender.proxy = none ∨ client.base.scheme = "https".toList) :
      Targets client url (String.ofList (url.path.render ++ url.renderQuery))
  | whole {proxy : Endpoint} {target : String} (hproxy : client.sender.proxy = some proxy)
      (hscheme : client.base.scheme = "http".toList)
      (h : target.toList ++ url.renderFragment = url.render) : Targets client url target

theorem Asks.isHttp {client : HttpClient} {network : Network} {server : Server}
    (h : client.Asks network server) : client.base.IsHttp := by
  cases h with
  | straight hhttp => exact hhttp
  | forwarded hscheme => exact .inl hscheme
  | tunnelled hscheme => exact .inr hscheme

theorem withoutUserInfo_eq (url : Url) :
    ∃ username password, Sender.withoutUserInfo url = { url with username, password } := by
  rw [Sender.withoutUserInfo.eq_def]
  dsimp only
  split
  · split
    · exact ⟨url.username, url.password, rfl⟩
    · exact ⟨[], [], rfl⟩
  · exact ⟨url.username, url.password, rfl⟩

section Url

variable {client : HttpClient} (hpath : ∃ list, client.base.path = .segments list)
  (keyword : String) (page : UInt32)

include hpath

omit page in
theorem searchUrl_eq_append :
    ∃ pushed, ∀ page : UInt32, client.searchUrl keyword page =
      { client.base with
        path := .segments (Url.appendSegment pushed (Text.renderNat page.toNat)) } := by
  obtain ⟨list, hlist⟩ := hpath
  let push := Url.pushText client.base.isSpecial (Url.isFileScheme client.base.scheme)
  refine ⟨push (push (Url.dropEmptyLast list) "search".toList) keyword.toList, ?_⟩
  intro page
  rw [searchUrl, Url.extendPath, hlist,
    ← Url.pushText_renderNat client.base.isSpecial (Url.isFileScheme client.base.scheme)]
  rfl

theorem requestUrl_eq :
    ∃ username password pushed, client.requestUrl keyword page =
      { client.base with
        username
        password
        path := .segments (Url.appendSegment pushed (Text.renderNat page.toNat)) } := by
  obtain ⟨pushed, hsearch⟩ := searchUrl_eq_append hpath keyword
  obtain ⟨username, password, hurl⟩ := withoutUserInfo_eq (client.searchUrl keyword page)
  refine ⟨username, password, pushed, ?_⟩
  rw [requestUrl, hurl, hsearch]

theorem ofUrl_requestUrl :
    Endpoint.ofUrl (client.requestUrl keyword page) = Endpoint.ofUrl client.base := by
  obtain ⟨username, password, pushed, hurl⟩ := requestUrl_eq hpath keyword page
  rw [hurl]
  rfl

theorem scheme_requestUrl : (client.requestUrl keyword page).scheme = client.base.scheme := by
  obtain ⟨username, password, pushed, hurl⟩ := requestUrl_eq hpath keyword page
  rw [hurl]

theorem isSecure_requestUrl :
    (client.requestUrl keyword page).isSecure = client.base.isSecure := by
  rw [Url.isSecure, scheme_requestUrl hpath]
  rfl

theorem exists_host_requestUrl {endpoint : Endpoint}
    (h : Endpoint.ofUrl client.base = some endpoint) :
    ∃ host, (client.requestUrl keyword page).host = some host := by
  rw [← ofUrl_requestUrl hpath keyword page] at h
  cases hurl : (client.requestUrl keyword page).host with
  | some host => exact ⟨host, rfl⟩
  | none => simp [Endpoint.ofUrl, hurl] at h

theorem pathAndQuery_requestUrl :
    let url := client.requestUrl keyword page
    Sender.pathAndQuery url = url.path.render ++ url.renderQuery := by
  intro url
  obtain ⟨username, password, pushed, hurl⟩ := requestUrl_eq hpath keyword page
  have hne : url.path.render ≠ [] := by
    rw [show url = _ from hurl]
    simp [Url.Path.render, Url.renderSegments_appendSegment]
  rw [Sender.pathAndQuery, if_neg (by simpa using hne)]

variable {network : Network} {server : Server}

theorem Asks.server_eq (h : client.Asks network server) :
    client.sender.server network (client.requestUrl keyword page) = some server := by
  rw [Sender.server, ofUrl_requestUrl hpath, isSecure_requestUrl hpath]
  cases h with
  | straight _ hendpoint hproxy h => simp [hendpoint, hproxy, h]
  | forwarded hscheme hendpoint hproxy h =>
      simp [hendpoint, hproxy, h, Url.isSecure_of_http hscheme]
  | tunnelled hscheme hendpoint hproxy hbetween hopen h =>
      simp [hendpoint, hproxy, hbetween, hopen, h, Url.isSecure_of_https hscheme,
        Sender.opensTunnel]

theorem Asks.targets (h : client.Asks network server) :
    client.Targets (client.requestUrl keyword page)
      (client.sender.target (client.requestUrl keyword page)) := by
  rw [Sender.target, pathAndQuery_requestUrl hpath, isSecure_requestUrl hpath]
  cases h with
  | straight _ _ hproxy =>
      rw [hproxy]
      exact .origin (.inl hproxy)
  | forwarded hscheme hendpoint hproxy =>
      obtain ⟨host, hhost⟩ := exists_host_requestUrl hpath keyword page hendpoint
      simp only [hproxy, hhost, Url.isSecure_of_http hscheme]
      refine .whole hproxy hscheme ?_
      simp [Url.render, Url.renderAuthority, hhost]
  | tunnelled hscheme hendpoint hproxy =>
      obtain ⟨host, hhost⟩ := exists_host_requestUrl hpath keyword page hendpoint
      simp only [hproxy, hhost, Url.isSecure_of_https hscheme, if_true]
      exact .origin (.inr hscheme)

end Url

/-! ## The outcome of a reply -/

def HoldsPage (text : String) (page : RemotePage) : Prop :=
  ∃ json, Json.WritesElement text.toList json ∧ IsPage json page

theorem read_eq_some_iff_holdsPage {text : String} {page : RemotePage} :
    RemotePage.read text = some page ↔ HoldsPage text page := by
  simp only [RemotePage.read, Option.bind_eq_some_iff, Json.read_eq_some_iff,
    RemotePage.ofJson_eq_some_iff, HoldsPage]

/-- What comes of a reply: the result for the caller, and what is reported. -/
inductive ComesOf (codecs : Codecs) :
    Reply → Except CatalogError RemotePage → List Rejection → Prop
  | transport {reply : Reply} (h : Breaks codecs reply) :
      ComesOf codecs reply (.error .transport) []
  | refusal {reply : Reply} {status : Nat} {text : String} (h : Brings codecs reply status text)
      (hstatus : status < 200 ∨ 300 ≤ status) :
      ComesOf codecs reply (.error (.status status text)) [⟨status, text⟩]
  | page {reply : Reply} {status : Nat} {text : String} {page : RemotePage}
      (h : Brings codecs reply status text) (hstatus : 200 ≤ status ∧ status < 300)
      (hpage : HoldsPage text page) : ComesOf codecs reply (.ok page) []
  | malformed {reply : Reply} {status : Nat} {text : String} (h : Brings codecs reply status text)
      (hstatus : 200 ≤ status ∧ status < 300) (hpage : ∀ page, ¬ HoldsPage text page) :
      ComesOf codecs reply (.error .malformed) []

theorem exists_comesOf (codecs : Codecs) (reply : Reply) :
    ∃ result rejections, ComesOf codecs reply result rejections := by
  rcases breaks_or_brings codecs reply with hbreaks | ⟨status, text, hbrings⟩
  · exact ⟨_, _, .transport hbreaks⟩
  · by_cases hstatus : 200 ≤ status ∧ status < 300
    · by_cases hpage : ∃ page, HoldsPage text page
      · obtain ⟨page, hpage⟩ := hpage
        exact ⟨_, _, .page hbrings hstatus hpage⟩
      · exact ⟨_, _, .malformed hbrings hstatus (not_exists.mp hpage)⟩
    · exact ⟨_, _, .refusal hbrings (by omega)⟩

section Fetch

variable {codecs : Codecs} {client : HttpClient} {network : Network} {server : Server}
  {keyword : String} {page : UInt32}

theorem fetch_requestUrl (hhttp : client.base.IsHttp)
    (hpath : ∃ list, client.base.path = .segments list) (network : Network) (redirects : Nat) :
    client.sender.fetch network redirects (client.searchUrl keyword page) =
      if Sender.isSendable (client.requestUrl keyword page) then
        client.sender.get network redirects (client.requestUrl keyword page)
      else {} := by
  have hweb : (client.requestUrl keyword page).isWeb = true := by
    rw [Url.isWeb_iff, Url.IsHttp, scheme_requestUrl hpath]
    exact hhttp
  rw [Sender.fetch]
  change (if (client.requestUrl keyword page).isWeb && _ then _ else _) = _
  rw [hweb, Bool.true_and]
  rfl

section Reply

variable {result : Except CatalogError RemotePage} {rejections : List Rejection}
  (hasks : client.Asks network server) (hpath : ∃ list, client.base.path = .segments list)
  (hsend : Sender.isSendable (client.requestUrl keyword page) = true)
  (hfinal : IsFinal client.sender (client.requestUrl keyword page)
    (server (client.sender.request (client.requestUrl keyword page))))

include hasks hpath hsend hfinal

theorem ComesOf.fetchPage_eq
    (h : ComesOf client.sender.codecs
      (server (client.sender.request (client.requestUrl keyword page))) result rejections) :
    client.fetchPage network keyword page =
      { result
        requests := [client.sender.request (client.requestUrl keyword page)]
        rejections } := by
  rw [fetchPage, fetch_requestUrl hasks.isHttp hpath, if_pos hsend,
    Sender.get_of_final (hasks.server_eq hpath keyword page) hfinal]
  cases h with
  | transport hbreaks => rw [hbreaks.documentOf_eq]
  | @refusal status text hbrings hstatus =>
      have hsuccess : Status.isSuccess status = false := by
        rw [Bool.eq_false_iff, ne_eq, isSuccess_eq_true_iff]
        omega
      simp only [hbrings.documentOf_eq, Fetch.ofDocument, hsuccess]
      rfl
  | @page status text found hbrings hstatus hpage =>
      have hsuccess := isSuccess_eq_true_iff.mpr hstatus
      have hread := read_eq_some_iff_holdsPage.mpr hpage
      simp only [hbrings.documentOf_eq, Fetch.ofDocument, hsuccess, hread, if_true]
  | @malformed status text hbrings hstatus hpage =>
      have hsuccess := isSuccess_eq_true_iff.mpr hstatus
      have hread : RemotePage.read text = none :=
        Option.eq_none_iff_forall_not_mem.mpr fun page h =>
          hpage page (read_eq_some_iff_holdsPage.mp h)
      simp only [hbrings.documentOf_eq, Fetch.ofDocument, hsuccess, hread, if_true]

/-- A fetch comes to what comes of the reply, and to nothing else. -/
theorem fetchPage_iff_comesOf :
    ((client.fetchPage network keyword page).result = result ∧
        (client.fetchPage network keyword page).rejections = rejections) ↔
      ComesOf client.sender.codecs
        (server (client.sender.request (client.requestUrl keyword page))) result rejections := by
  constructor
  · obtain ⟨outcome, reported, hcomes⟩ := exists_comesOf client.sender.codecs
      (server (client.sender.request (client.requestUrl keyword page)))
    rw [hcomes.fetchPage_eq hasks hpath hsend hfinal]
    rintro ⟨rfl, rfl⟩
    exact hcomes
  · intro hcomes
    rw [hcomes.fetchPage_eq hasks hpath hsend hfinal]
    exact ⟨rfl, rfl⟩

end Reply

theorem fetchPage_of_not_sendable (hhttp : client.base.IsHttp)
    (hpath : ∃ list, client.base.path = .segments list)
    (h : Sender.isSendable (client.requestUrl keyword page) = false) :
    client.fetchPage network keyword page = { result := .error .transport, requests := [] } := by
  rw [fetchPage, fetch_requestUrl hhttp hpath, h]
  rfl

/-- A keyword with more characters than a URL may have bytes is not sent. -/
theorem not_sendable_of_long (hhttp : client.base.IsHttp)
    (hpath : ∃ list, client.base.path = .segments list) (hdot : '.' ∉ keyword.toList)
    (hlong : Web.Target.maxLength < (Url.keptText keyword.toList).length) (page : UInt32) :
    Sender.isSendable (client.requestUrl keyword page) = false := by
  let url := client.requestUrl keyword page
  obtain ⟨username, password, hurl⟩ := withoutUserInfo_eq (client.searchUrl keyword page)
  have hbytes := Text.Utf8.length_le_length_encode url.render
  have hsegment : (Url.keptText keyword.toList).length ≤ (keywordSegment keyword).length :=
    Text.Percent.length_le_length_encode _
  have hpath : url.path.render = client.base.pathFront ++ "/search/".toList ++
      lastSegments keyword page := by
    rw [show url = _ from hurl]
    exact render_path_searchUrl hhttp hpath hdot page
  have hparts := congrArg List.length hpath
  have hrender : url.path.render.length ≤ url.render.length := by
    simp only [Url.render, List.length_append, List.length_cons]
    omega
  simp only [lastSegments, List.length_append, List.length_cons] at hparts
  have hexceeds : Web.Target.maxLength < (Text.Utf8.encode url.render).length := by omega
  change (Web.Target.parse (String.ofList url.render)).isSome = false
  rw [Web.Target.parse, String.toList_ofList, if_pos hexceeds]
  rfl

theorem codecs_of_ofSettings {settings : Settings.Remote}
    (h : ofSettings codecs settings = .ok client) : client.sender.codecs = codecs := by
  simp only [ofSettings, bind, Except.bind] at h
  grind

theorem ofSettings_local (codecs : Codecs) :
    let base : Url :=
      { scheme := "http".toList
        host := some (.ipv4 2130706433)
        tcpPort := some 9000
        path := .segments [[]] }
    ∃ client, ofSettings codecs { baseUrl := "http://127.0.0.1:9000" } = .ok client ∧
      client.base = base ∧
      ∀ server, client.Asks (.single ⟨"http", "127.0.0.1", 9000⟩ server) server := by
  intro base
  have hbase : Url.parse codecs.international "http://127.0.0.1:9000" = .ok base := by rfl
  have hdirect : Endpoint.ofUrl base = some ⟨"http", "127.0.0.1", 9000⟩ := by decide +kernel
  refine ⟨_, ofSettings_of_parse hbase rfl 100, rfl, ?_⟩
  intro server
  exact .straight (.inl rfl) hdirect rfl (if_pos rfl)

/-- A page whose URL can be sent is asked for once, and the fetch comes to what comes of the reply.
A URL that is no URI of the HTTP library, such as one that is too long, is sent to no server. -/
theorem fetchPage_classified {settings : Settings.Remote}
    (hclient : ofSettings codecs settings = .ok client) (hasks : client.Asks network server)
    (hfinal : IsFinal client.sender (client.requestUrl keyword page)
      (server (client.sender.request (client.requestUrl keyword page)))) :
    let url := client.requestUrl keyword page
    let fetch := client.fetchPage network keyword page
    (Sender.isSendable url = true →
      ∃ request, fetch.requests = [request] ∧ request.method = "GET" ∧
        client.Targets url request.target ∧
        ∀ result rejections, (fetch.result = result ∧ fetch.rejections = rejections) ↔
          ComesOf codecs (server request) result rejections) ∧
    (Sender.isSendable url = false →
      fetch = { result := .error .transport, requests := [] }) := by
  intro url fetch
  have hpath := (ofSettings_eq_ok hclient).2
  constructor
  · intro hsend
    obtain ⟨result, rejections, hcomes⟩ :=
      exists_comesOf client.sender.codecs (server (client.sender.request url))
    refine ⟨client.sender.request url, ?_, rfl, hasks.targets hpath keyword page, ?_⟩
    · exact congrArg Fetch.requests (hcomes.fetchPage_eq hasks hpath hsend hfinal)
    · rw [← codecs_of_ofSettings hclient]
      exact fun _ _ => fetchPage_iff_comesOf hasks hpath hsend hfinal
  · exact fetchPage_of_not_sendable hasks.isHttp hpath

/-- A failing status goes before the body, though this could be read as a page. -/
theorem fetchPage_classified_of_unavailable :
    let server : Server := fun _ => .answer 503 .none (Text.Utf8.encode "\x7b\x7d".toList) 0
    let network := Network.single ⟨"http", "127.0.0.1", 9000⟩ server
    ∃ client, ofSettings .none { baseUrl := "http://127.0.0.1:9000" } = .ok client ∧
      client.Asks network server ∧
      (∀ url request, IsFinal client.sender url (server request)) ∧
      Sender.isSendable (client.requestUrl "rust" 1) = true ∧
      (RemotePage.read "\x7b\x7d").isSome = true ∧
      (client.fetchPage network "rust" 1).result = .error (.status 503 "\x7b\x7d") ∧
      (client.fetchPage network "rust" 1).rejections = [⟨503, "\x7b\x7d"⟩] := by
  intro server network
  obtain ⟨client, hclient, hbase, hasks⟩ := ofSettings_local .none
  have hfinal (url : Url) (request : Request) : IsFinal client.sender url (server request) :=
    .answer (by decide) rfl
  have hsend : Sender.isSendable (client.requestUrl "rust" 1) = true := by
    rw [requestUrl, searchUrl, hbase]
    decide +kernel
  have htext : BodyText.read .none .none (Text.Utf8.encode "\x7b\x7d".toList) = "\x7b\x7d" := by
    decide +kernel
  have hbrings (request : Request) : Brings .none (server request) 503 "\x7b\x7d" := by
    rw [← htext]
    exact .whole (by decide) (.inl (by decide)) (reads_read ..)
  have hreply := hfinal (client.requestUrl "rust" 1)
    (client.sender.request (client.requestUrl "rust" 1))
  obtain ⟨request, -, -, -, hcomes⟩ :=
    (fetchPage_classified hclient (hasks server) hreply).1 hsend
  refine ⟨client, hclient, hasks server, hfinal, hsend, by decide +kernel, ?_⟩
  exact (hcomes _ _).mpr (.refusal (hbrings request) (.inr (by decide)))

/-! ## Keywords that are too long, and packed bodies -/

def packedObject : List UInt8 :=
  [31, 139, 8, 0, 0, 0, 0, 0, 2, 255, 171, 174, 5, 0, 67, 191, 166, 163, 2, 0, 0, 0]

/-- Codecs that can unpack the object and nothing else. -/
def packedCodecs : Codecs :=
  { Codecs.none with
    gunzip := fun bytes =>
      if packedObject.isPrefixOf bytes then some (Text.Utf8.encode "\x7b\x7d".toList)
      else Option.none }

def packedHeaders : Headers := { fields := [("Content-Encoding", "gzip")] }

/-- A keyword of 65536 letters is not asked for. A body that only says to be packed breaks off,
though nothing of it is missing, and one that is packed in full is a page, though it was to be
longer. -/
theorem overlong_and_packed :
    let serve (reply : Reply) : Network := .single ⟨"http", "127.0.0.1", 9000⟩ fun _ => reply
    let object := Text.Utf8.encode "\x7b\x7d".toList
    ∃ client, ofSettings packedCodecs { baseUrl := "http://127.0.0.1:9000" } = .ok client ∧
      (∀ reply, client.Asks (serve reply) fun _ => reply) ∧
      (∀ url headers body missing, IsFinal client.sender url (.answer 200 headers body missing)) ∧
      client.fetchPage (serve (.answer 200 .none object 0))
        (String.ofList (List.replicate 65536 'a')) 1 =
          { result := .error .transport, requests := [] } ∧
      (client.fetchPage (serve (.answer 200 packedHeaders object 0)) "rust" 1).result =
        .error .transport ∧
      (client.fetchPage (serve (.answer 200 packedHeaders packedObject 5)) "rust" 1).result =
        .ok { total := 0, records := [] } := by
  intro serve object
  obtain ⟨client, hclient, hbase, hasks⟩ := ofSettings_local packedCodecs
  have hpath := (ofSettings_eq_ok hclient).2
  have hhttp : client.base.IsHttp := .inl (by rw [hbase])
  have hcodecs := codecs_of_ofSettings hclient
  have hfinal (url : Url) (headers : Headers) (body : List UInt8) (missing : Nat) :
      IsFinal client.sender url (.answer 200 headers body missing) := .answer (by decide) rfl
  have hsend : Sender.isSendable (client.requestUrl "rust" 1) = true := by
    rw [requestUrl, searchUrl, hbase]
    decide +kernel
  have hpacks : Packs packedCodecs packedHeaders packedCodecs.gunzip := .gzip (by decide)
  refine ⟨client, hclient, fun reply => hasks _, hfinal, ?_, ?_, ?_⟩
  · have hletters := @String.toList_ofList (List.replicate 65536 'a')
    refine fetchPage_of_not_sendable hhttp hpath (not_sendable_of_long hhttp hpath ?_ ?_ 1)
    · rw [hletters]
      exact fun h => absurd (List.eq_of_mem_replicate h) (by decide)
    · rw [hletters, Url.keptText, List.filter_replicate_of_pos (by decide), List.length_replicate]
      decide
  · have hbreaks : Breaks packedCodecs (.answer 200 packedHeaders object 0) :=
      .damaged (by decide) hpacks (by decide) (by decide)
    rw [← hcodecs] at hbreaks
    rw [ComesOf.fetchPage_eq (hasks _) hpath hsend (hfinal ..) (.transport hbreaks)]
  · have hunpack : packedCodecs.gunzip packedObject = some object := by decide
    have htext : BodyText.read packedCodecs packedHeaders object = "\x7b\x7d" := by decide +kernel
    have hbrings : Brings packedCodecs (.answer 200 packedHeaders packedObject 5) 200 "\x7b\x7d" := by
      rw [← htext]
      exact .unpacked (by decide) hpacks (by decide) hunpack (reads_read ..)
    have hpage : HoldsPage "\x7b\x7d" { total := 0, records := [] } :=
      read_eq_some_iff_holdsPage.mp (by decide +kernel)
    rw [← hcodecs] at hbrings
    rw [ComesOf.fetchPage_eq (hasks _) hpath hsend (hfinal ..) (.page hbrings (by decide) hpage)]

end Fetch

end BookFinder.Catalog.HttpClient
