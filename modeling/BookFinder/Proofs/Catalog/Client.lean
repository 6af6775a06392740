import BookFinder.Proofs.Catalog.Fetching
import BookFinder.Proofs.Catalog.Payload
import BookFinder.Proofs.Url.Endpoint

/-! # The client of a server that conveys a catalog -/

namespace BookFinder

def Network.Endpoint.loopback (tcpPort : UInt16) : Endpoint :=
  { scheme := "http", host := "127.0.0.1", tcpPort := tcpPort.toNat }

namespace Catalog

open Network

namespace HttpClient

def target (client : HttpClient) (keyword : String) (page : UInt32) : String :=
  client.sender.target (client.requestUrl keyword page)

/-- The client asks a server of this machine, without a proxy. -/
structure Reaches (client : HttpClient) (tcpPort : UInt16) : Prop where
  direct : client.sender.proxy = none
  base : client.base.IsLoopback tcpPort

section Reaches

variable {client : HttpClient} {tcpPort : UInt16} (h : client.Reaches tcpPort)

include h

theorem Reaches.path : ∃ list, client.base.path = .segments list :=
  h.base.clean.path.imp fun _ hlist => hlist.1

theorem Reaches.asks (server : Server) :
    client.Asks (.single (.loopback tcpPort) server) server :=
  .straight h.base.isHttp h.base.endpoint h.direct (if_pos rfl)

theorem Reaches.isLoopback_searchUrl (keyword : String) (page : UInt32) :
    (client.searchUrl keyword page).IsLoopback tcpPort := h.base.extendPath _

theorem Reaches.requestUrl_eq (keyword : String) (page : UInt32) :
    client.requestUrl keyword page = client.searchUrl keyword page :=
  (h.isLoopback_searchUrl keyword page).withoutUserInfo

theorem Reaches.isSendable_iff (keyword : String) (page : UInt32) :
    Sender.isSendable (client.requestUrl keyword page) = true ↔
      (Text.Utf8.encode (client.searchUrl keyword page).render).length ≤
        Web.Target.maxLength := by
  rw [h.requestUrl_eq]
  exact (h.isLoopback_searchUrl keyword page).isSendable_iff

theorem Reaches.target_eq (keyword : String) (page : UInt32) :
    client.target keyword page = String.ofList ((client.searchUrl keyword page).path.render ++
      (client.searchUrl keyword page).renderQuery) := by
  rw [target, Sender.target, h.direct, pathAndQuery_requestUrl h.path, h.requestUrl_eq]

theorem Reaches.target_inj {keyword : String} {page other : UInt32}
    (heq : client.target keyword page = client.target keyword other) : page = other := by
  obtain ⟨pushed, hurl⟩ := searchUrl_eq_append h.path keyword
  rw [h.target_eq, h.target_eq, hurl, hurl, String.ofList_inj] at heq
  simp only [Url.Path.render, Url.renderSegments_appendSegment, Url.renderQuery] at heq
  rw [List.append_cancel_right_eq, List.append_cancel_left_eq, List.cons.injEq] at heq
  exact UInt32.toNat_inj.mp (Text.renderNat_inj heq.2)

end Reaches

end HttpClient

/-! ## Conveyed pages -/

/-- Fields under which a body is UTF-8 and comes as it is: no media type has parameters, unless it is
that of JSON with this character set, and nothing is said of a packed body. -/
structure NamesUtf8 (headers : Headers) : Prop where
  mediaType : ∀ mediaType ∈ headers.values "content-type",
    ';' ∉ mediaType.toList ∨ mediaType = "application/json; charset=utf-8"
  unpacked : headers.values "content-encoding" = []

/-- An answer conveys a page by its text, and a failure with a status by that status. -/
inductive Conveys : Except CatalogError RemotePage → Network.Reply → Prop
  | page (page : RemotePage) (quoted : Bool) {gap : List Char} {headers : Headers}
      (hgap : ∀ c ∈ gap, Json.isBlank c = true) (hheaders : NamesUtf8 headers) :
      Conveys (.ok page) (.answer 200 headers (Text.Utf8.encode (pageText gap quoted page)) 0)
  | refusal (code : Nat) (body : String) {headers : Headers} (hlow : 400 ≤ code)
      (hhigh : code ≤ 599) :
      Conveys (.error (.status code body)) (.answer code headers (Text.Utf8.encode body.toList) 0)

theorem parameters_of_no_semicolon {cs : List Char} (h : ';' ∉ cs)
    {parameters : List (List Char × List Char)}
    (hread : MediaType.parameters cs = some parameters) : parameters = [] := by
  rw [MediaType.parameters] at hread
  split at hread
  · rename_i rest hrest
    obtain ⟨-, hread⟩ := Option.ite_none_left_eq_some.mp hread
    split at hread
    · exact (Option.some.inj hread).symm
    · rename_i tail htail
      have hmem : ';' ∈ cs := by
        have hmore : ';' ∈ rest.dropWhile MediaType.isTokenChar := htail ▸ List.mem_cons_self
        have hdrop : ';' ∈ cs.dropWhile MediaType.isTokenChar :=
          hrest ▸ List.mem_cons_of_mem '/' ((List.dropWhile_sublist _).mem hmore)
        exact (List.dropWhile_sublist _).mem hdrop
      exact absurd hmem h
    · cases hread
  · cases hread

theorem NamesUtf8.ofLabel_eq {headers : Headers} (h : NamesUtf8 headers) (codecs : Codecs) :
    ((BodyText.label headers).bind (Decoder.ofLabel codecs)).getD Text.Utf8.decodeLenient =
      Text.Utf8.decodeLenient := by
  rw [BodyText.label]
  cases hvalues : headers.values "content-type" with
  | nil => rfl
  | cons mediaType others =>
      rcases h.mediaType mediaType (by simp [hvalues]) with hplain | rfl
      · have hlabel : BodyText.labelOf mediaType = none := by
          rw [BodyText.labelOf]
          split
          · cases hread : MediaType.parameters mediaType.toList with
            | none => rfl
            | some parameters =>
                rw [parameters_of_no_semicolon hplain hread]
                rfl
          · rfl
        rw [List.head?_cons, Option.bind_some, hlabel]
        rfl
      · have hlabel : BodyText.labelOf "application/json; charset=utf-8" =
            some "utf-8".toList := by
          decide +kernel
        rw [List.head?_cons, Option.bind_some, hlabel]
        rfl

theorem isUnmarked_pageText (gap : List Char) (quoted : Bool) (page : RemotePage) :
    IsUnmarked (Text.Utf8.encode (pageText gap quoted page)) := by
  rw [← byteOrderMark_eq_none_iff, pageText, Text.Utf8.encode, List.flatMap_cons]
  rfl

/-- A conveyed page comes to itself, and a conveyed failure to a failure. -/
theorem Conveys.comesOf {result : Except CatalogError RemotePage} {reply : Network.Reply}
    (h : Conveys result reply) (codecs : Codecs) :
    ∃ outcome rejections, HttpClient.ComesOf codecs reply outcome rejections ∧
      ∀ found, outcome = .ok found ↔ result = .ok found := by
  cases h with
  | @page found quoted gap headers hgap hheaders =>
      have htext := reads_read codecs headers (Text.Utf8.encode (pageText gap quoted found))
      rw [read_of_unmarked (isUnmarked_pageText gap quoted found), hheaders.ofLabel_eq,
        Text.Utf8.decodeLenient_encode] at htext
      have hplain : IsPlain headers (Text.Utf8.encode (pageText gap quoted found)) :=
        .inl (by simp [hheaders.unpacked])
      have hpage := HttpClient.read_eq_some_iff_holdsPage.mp
        (RemotePage.read_pageText hgap quoted found)
      exact ⟨_, _, .page (.whole (by decide) hplain htext) (by decide) hpage, fun _ => Iff.rfl⟩
  | @refusal code body headers hlow hhigh =>
      obtain ⟨outcome, rejections, hcomes⟩ := HttpClient.exists_comesOf codecs
        (.answer code headers (Text.Utf8.encode body.toList) 0)
      refine ⟨outcome, rejections, hcomes, ?_⟩
      cases hcomes with
      | transport | refusal | malformed => simp
      | page h hstatus =>
          have hcode := h.status_eq
          omega

theorem Conveys.isFinal {result : Except CatalogError RemotePage} {reply : Network.Reply}
    (h : Conveys result reply) (sender : Sender) (url : Url) : IsFinal sender url reply := by
  cases h with
  | page => exact .answer (by decide) rfl
  | refusal code body hlow hhigh =>
      have hstay : Status.isRedirect code = false := by
        simp [Status.isRedirect]
        omega
      exact .answer (by omega) (by simp [Sender.redirection, hstay])

section Fetch

variable {client : HttpClient} {tcpPort : UInt16} {server : Server} {keyword : String}
  {page : UInt32}

theorem HttpClient.fetchPage_of_conveys {result : Except CatalogError RemotePage}
    (hreaches : client.Reaches tcpPort)
    (hsend : Sender.isSendable (client.requestUrl keyword page) = true)
    (hconveys : Conveys result (server (client.sender.request (client.requestUrl keyword page)))) :
    (client.fetchPage (.single (.loopback tcpPort) server) keyword page).requests =
        [client.sender.request (client.requestUrl keyword page)] ∧
      ∀ found, (client.fetchPage (.single (.loopback tcpPort) server) keyword page).result =
          .ok found ↔ result = .ok found := by
  obtain ⟨outcome, rejections, hcomes, hfound⟩ := hconveys.comesOf client.sender.codecs
  rw [hcomes.fetchPage_eq (hreaches.asks server) hreaches.path hsend (hconveys.isFinal _ _)]
  exact ⟨rfl, hfound⟩

theorem HttpClient.targets_of_requests {network : Network} {calls : List Call}
    (h : ∀ call ∈ calls, (client.fetchPage network call.keyword call.page).requests =
      [client.sender.request (client.requestUrl call.keyword call.page)]) :
    (client.requests network calls).map (·.target) =
      calls.map fun call => client.target call.keyword call.page := by
  induction calls with
  | nil => rfl
  | cons call calls ih =>
      have hrest := ih (fun c hc => h c (by simp [hc]))
      rw [requests, List.flatMap_cons, h call (by simp), List.map_append, List.map_cons]
      exact congrArg (client.target call.keyword call.page :: ·) hrest

end Fetch

/-- The server conveys what the catalog has for a keyword, each page at its own target. -/
def HttpClient.ConveysAll (client : HttpClient) (server : Server) (catalog : Catalog)
    (keyword : String) : Prop :=
  ∀ (page : UInt32) (request : Network.Request), request.target = client.target keyword page →
    Conveys (catalog keyword page).result (server request)

section ConveysAll

variable {client : HttpClient} {tcpPort : UInt16} {server : Server} {catalog : Catalog}
  {keyword : String} {page : UInt32} {found : RemotePage}
  (hreaches : client.Reaches tcpPort) (hconveys : client.ConveysAll server catalog keyword)

include hreaches hconveys

theorem HttpClient.ok_of_conveysAll
    (h : (client.catalog (.single (.loopback tcpPort) server) keyword page).result = .ok found) :
    (catalog keyword page).result = .ok found := by
  cases hsend : Sender.isSendable (client.requestUrl keyword page) with
  | true => exact ((fetchPage_of_conveys hreaches hsend (hconveys page _ rfl)).2 found).mp h
  | false =>
      rw [HttpClient.catalog, fetchPage_of_not_sendable hreaches.base.isHttp hreaches.path hsend]
        at h
      simp at h

theorem HttpClient.conveysAll_ok
    (hsend : Sender.isSendable (client.requestUrl keyword page) = true)
    (h : (catalog keyword page).result = .ok found) :
    (client.catalog (.single (.loopback tcpPort) server) keyword page).result = .ok found :=
  ((fetchPage_of_conveys hreaches hsend (hconveys page _ rfl)).2 found).mpr h

end ConveysAll

/-! ## A server of all pages -/

/-- A request is answered by any line of the script that it meets, if all such lines agree. -/
theorem reply_of_mem_script {script : List ScriptedReply} {request : Network.Request}
    {line : ScriptedReply} (hmem : line ∈ script)
    (hline : line.target.all (· == request.target) = true)
    (hsame : ∀ other ∈ script, other.target.all (· == request.target) = true →
      other.reply = line.reply) :
    Server.ofScript script request = line.reply := by
  rw [Server.ofScript]
  cases hfind : script.find? fun line => line.target.all (· == request.target) with
  | none => exact absurd hline (List.find?_eq_none.mp hfind line hmem)
  | some found =>
      have hfound := List.find?_some hfind
      exact hsame found (List.mem_of_find?_eq_some hfind) hfound

@[irreducible]
def allPages : List UInt32 := (List.range UInt32.size).map UInt32.ofNat

theorem mem_allPages (page : UInt32) : page ∈ allPages := by
  have hrange : page.toNat ∈ List.range UInt32.size := List.mem_range.mpr page.toNat_lt_size
  have hpage : UInt32.ofNat page.toNat = page := UInt32.ofNat_toNat
  unfold allPages
  exact List.mem_map.mpr ⟨page.toNat, hrange, hpage⟩

def HttpClient.pageServer (client : HttpClient) (keyword : String)
    (reply : UInt32 → Network.Reply) : Server :=
  Server.ofScript (allPages.map fun page => ⟨some (client.target keyword page), reply page⟩)

theorem HttpClient.pageServer_apply {client : HttpClient} {tcpPort : UInt16}
    (hreaches : client.Reaches tcpPort) {keyword : String} (reply : UInt32 → Network.Reply)
    {page : UInt32} {request : Network.Request} (h : request.target = client.target keyword page) :
    client.pageServer keyword reply request = reply page := by
  rw [pageServer]
  refine reply_of_mem_script (List.mem_map_of_mem (mem_allPages page)) (by simp [h]) ?_
  intro other hother hanswers
  obtain ⟨n, -, rfl⟩ := List.mem_map.mp hother
  have htarget : client.target keyword n = client.target keyword page := by
    simpa [h] using hanswers
  exact congrArg reply (hreaches.target_inj htarget)

def plainReply : Except CatalogError RemotePage → Network.Reply
  | .ok page => .answer 200 .none (Text.Utf8.encode (pageText [] false page)) 0
  | .error (.status code body) => .answer code .none (Text.Utf8.encode body.toList) 0
  | .error _ => .dropped

/-- Every catalog that fails with error statuses alone is conveyed by a server. -/
theorem HttpClient.conveysAll_pageServer {client : HttpClient} {tcpPort : UInt16}
    (hreaches : client.Reaches tcpPort) {catalog : Catalog} {keyword : String}
    (hstatus : ∀ page error, (catalog keyword page).result = .error error →
      ∃ code body, error = .status code body ∧ 400 ≤ code ∧ code ≤ 599) :
    client.ConveysAll
      (client.pageServer keyword fun page => plainReply (catalog keyword page).result) catalog
      keyword := by
  intro page request htarget
  rw [pageServer_apply hreaches _ htarget]
  cases hresult : (catalog keyword page).result with
  | ok found => exact .page found false (by simp) ⟨by simp [Headers.values, Headers.none], rfl⟩
  | error error =>
      obtain ⟨code, body, rfl, hlow, hhigh⟩ := hstatus page error hresult
      exact .refusal code body hlow hhigh

end Catalog

end BookFinder
