import BookFinder.Catalog.Memory
import BookFinder.Proofs.Text.Percent
import BookFinder.Proofs.Web.Target
import BookFinder.Search.Request
import BookFinder.Web.Service

/-! # The two routes to a search

Every pair of arguments can be written into a query string, and into a path if the page is not
empty.
-/

namespace BookFinder.Web

open Catalog Text

/-! ## Arguments of a request -/

/-- The arguments that a request brings to a search, if it asks for one. -/
def Request.arguments (request : Request) : Option (Except ArgumentError Arguments) :=
  match Route.ofPath request.target.path with
  | some .books => some (Arguments.ofQuery (request.target.query.getD []))
  | some (.booksOf search page) => some (Arguments.ofPath search page)
  | some .health => none
  | none => none

/-- What a method gets of a reply: HEAD does without the body. -/
def Reply.forMethod (method : Method) (reply : Reply) : Reply :=
  if method.name = "HEAD" then { reply with body := "" } else reply

theorem respond_of_reading {request : Request} {route : Route}
    (hreads : request.method.name = "GET" ∨ request.method.name = "HEAD")
    (hroute : Route.ofPath request.target.path = some route)
    (find : String → String → Search.Run) :
    respond find request =
      ((route.reply find (request.target.query.getD [])).forMethod request.method).allowAnyOrigin := by
  rcases hreads with hget | hhead
  · simp [respond, Reply.forMethod, hget, hroute]
  · simp [respond, Reply.forMethod, hhead, hroute]

/-- What a request brings to a search is answered, be it arguments or what is wrong with them. -/
theorem respond_of_brought {request : Request} {brought : Except ArgumentError Arguments}
    (hreads : request.method.name = "GET" ∨ request.method.name = "HEAD")
    (h : request.arguments = some brought) (find : String → String → Search.Run) :
    respond find request =
      ((replyToSearch find brought).forMethod request.method).allowAnyOrigin := by
  rw [Request.arguments] at h
  cases hroute : Route.ofPath request.target.path with
  | none => simp [hroute] at h
  | some route =>
      rw [respond_of_reading hreads hroute]
      cases route with
      | books =>
          simp only [hroute, Option.some.injEq] at h
          simp only [Route.reply, h]
      | booksOf search page =>
          simp only [hroute, Option.some.injEq] at h
          simp only [Route.reply, h]
      | health => simp [hroute] at h

theorem respond_of_search {request : Request} {arguments : Arguments}
    (hreads : request.method.name = "GET" ∨ request.method.name = "HEAD")
    (h : request.arguments = some (.ok arguments)) (find : String → String → Search.Run) :
    respond find request =
      ((Reply.ofRun (find arguments.search arguments.page)).forMethod
        request.method).allowAnyOrigin :=
  respond_of_brought hreads h find

theorem respond_of_arguments {request : Request} {arguments : Arguments}
    (hget : request.method.name = "GET") (h : request.arguments = some (.ok arguments))
    (find : String → String → Search.Run) :
    respond find request = (Reply.ofRun (find arguments.search arguments.page)).allowAnyOrigin := by
  rw [respond_of_search (.inl hget) h, Reply.forMethod, hget]
  rfl

/-! ## Written arguments -/

/-- An argument with every byte escaped but those of ASCII letters and digits. -/
def escape (argument : String) : List Char := Percent.encode (!·.isAlphanum) argument.toList

theorem forall_mem_escape {P : Char → Prop} (hmark : P '%')
    (hplain : ∀ c : Char, c.isAlphanum = true → P c) (argument : String) :
    ∀ c ∈ escape argument, P c := by
  intro c hc
  have hdigits : ∀ n < 16, (upperHexDigit n).isAlphanum = true := by decide
  refine Percent.encode_forall hmark (fun n hn => hplain _ (hdigits n hn)) ?_ hc
  intro d _ hd
  exact hplain d (by simpa using hd)

def writtenArgument (argument : Argument) (value : String) : List Char :=
  argument.name.toList ++ '=' :: escape value

theorem forall_mem_writtenArgument {P : Char → Prop} (hmark : P '%') (hequals : P '=')
    (hplain : ∀ c : Char, c.isAlphanum = true → P c) (argument : Argument) (value : String) :
    ∀ c ∈ writtenArgument argument value, P c := by
  have hname : ∀ c ∈ argument.name.toList, c.isAlphanum = true :=
    List.all_eq_true.mp (by cases argument <;> decide)
  intro c hc
  rw [writtenArgument, List.mem_append, List.mem_cons] at hc
  rcases hc with hc | rfl | hc
  · exact hplain c (hname c hc)
  · exact hequals
  · exact forall_mem_escape hmark hplain value c hc

theorem not_mem_escape {c : Char} (hmark : c ≠ '%') (hplain : c.isAlphanum = false)
    (argument : String) : c ∉ escape argument := by
  intro hc
  refine forall_mem_escape (P := (· ≠ c)) (Ne.symm hmark) ?_ argument c hc rfl
  rintro d hd rfl
  simp [hd] at hplain

theorem toNat_of_isAlphanum {c : Char} (h : c.isAlphanum = true) :
    (48 ≤ c.toNat ∧ c.toNat ≤ 57) ∨ (65 ≤ c.toNat ∧ c.toNat ≤ 90) ∨
      (97 ≤ c.toNat ∧ c.toNat ≤ 122) := by
  have hkind : ((c.isUpper || c.isLower) || c.isDigit) = true := h
  rw [Bool.or_eq_true, Bool.or_eq_true] at hkind
  rcases hkind with (hupper | hlower) | hdigit
  · have hrange : 'A' ≤ c ∧ c ≤ 'Z' := of_decide_eq_true hupper
    exact .inr (.inl hrange)
  · have hrange : (decide ('a' ≤ c) && decide (c ≤ 'z')) = true := hlower
    rw [Bool.and_eq_true, decide_eq_true_eq, decide_eq_true_eq] at hrange
    exact .inr (.inr hrange)
  · exact .inl (Char.isDigit_iff_toNat.mp hdigit)

theorem isPathChar_of_isAlphanum {c : Char} (h : c.isAlphanum = true) :
    Target.isPathChar c = true := by
  have hrange := toNat_of_isAlphanum h
  simp only [Target.isPathChar, Bool.or_eq_true, Bool.and_eq_true, beq_iff_eq, decide_eq_true_eq]
  omega

theorem isQueryChar_of_isAlphanum {c : Char} (h : c.isAlphanum = true) :
    Target.isQueryChar c = true := by
  have hrange := toNat_of_isAlphanum h
  simp only [Target.isQueryChar, Bool.or_eq_true, Bool.and_eq_true, beq_iff_eq, decide_eq_true_eq]
  omega

theorem decodePair_writtenArgument (argument : Argument) (value : String) :
    FormUrlencoded.decodePair (writtenArgument argument value) =
      (argument.name.toList, value.toList) := by
  have hname : '=' ∉ argument.name.toList := by cases argument <;> decide
  obtain ⟨htake, hdrop⟩ := span_bne_append hname (escape value)
  have hkey : FormUrlencoded.decodeText argument.name.toList = argument.name.toList := by
    cases argument <;> decide
  rw [FormUrlencoded.decodePair, writtenArgument, htake, hdrop, hkey, List.drop_one,
    List.tail_cons, escape, FormUrlencoded.decodeText_encode (by decide) (by decide)]

def writtenQuery (search page : String) : List Char :=
  joinWith '&' [writtenArgument .search search, writtenArgument .page page]

theorem decode_writtenQuery (search page : String) :
    FormUrlencoded.decode (writtenQuery search page) =
      [(Argument.search.name.toList, search.toList), (Argument.page.name.toList, page.toList)] := by
  have hparts : ∀ part ∈ [writtenArgument .search search, writtenArgument .page page],
      '&' ∉ part := by
    intro part hpart hmem
    have hother (argument : Argument) (value : String) :
        ∀ c ∈ writtenArgument argument value, c ≠ '&' := by
      refine forall_mem_writtenArgument (by decide) (by decide) ?_ argument value
      rintro c hc rfl
      exact absurd hc (by decide)
    rw [List.mem_cons, List.mem_singleton] at hpart
    rcases hpart with rfl | rfl
    · exact hother _ _ '&' hmem rfl
    · exact hother _ _ '&' hmem rfl
  have hnonempty : [writtenArgument .search search, writtenArgument .page page].filter
      (!·.isEmpty) = [writtenArgument .search search, writtenArgument .page page] := by
    simp [writtenArgument]
  rw [FormUrlencoded.decode, writtenQuery, splitAt_joinWith (by simp) hparts, hnonempty]
  simp only [List.map_cons, List.map_nil, decodePair_writtenArgument]

theorem ofQuery_writtenQuery (search page : String) :
    Arguments.ofQuery (writtenQuery search page) = .ok { search, page } := by
  have hsearch : Argument.ofKey Argument.search.name.toList = some .search := by decide
  have hpage : Argument.ofKey Argument.page.name.toList = some .page := by decide
  rw [Arguments.ofQuery, decode_writtenQuery]
  simp [Arguments.ofPairs, hsearch, hpage]

theorem ofPath_escape (search page : String) :
    Arguments.ofPath (escape search) (escape page) = .ok { search, page } := by
  rw [Arguments.ofPath, escape, escape, Percent.decode?_encode (by decide),
    Percent.decode?_encode (by decide)]
  simp only [String.ofList_toList]

theorem escape_ne_nil {argument : String} (h : argument ≠ "") : escape argument ≠ [] := by
  intro hnil
  have hdecode : Percent.decode? (escape argument) = some argument.toList :=
    Percent.decode?_encode (by decide) argument.toList
  rw [hnil] at hdecode
  have hempty : argument.toList = [] := (Option.some.inj hdecode).symm
  exact h (String.toList_eq_nil_iff.mp hempty)

/-! ## Addresses -/

def booksSegment : List Char := ['b', 'o', 'o', 'k', 's']

theorem toList_books : "books".toList = booksSegment := by decide

def queryAddress (search page : String) : String :=
  String.ofList ('/' :: (booksSegment ++ '?' :: writtenQuery search page))

def pathAddress (search page : String) : String :=
  String.ofList ('/' :: (booksSegment ++ '/' :: (escape search ++ '/' :: escape page)))

theorem parse_of_method {name address : String} {target : Target}
    (hname : Method.parse name = some ⟨name⟩) (h : Target.parse address = some target) :
    Request.parse name address = some { method := ⟨name⟩, target } := by
  simp only [Request.parse, hname, h, Option.bind_eq_bind, Option.bind_some]

theorem Method.parse_get : Method.parse "GET" = some ⟨"GET"⟩ := by decide

theorem Method.parse_head : Method.parse "HEAD" = some ⟨"HEAD"⟩ := by decide

theorem parse_slash {cs : List Char}
    (hlength : (Utf8.encode (String.ofList ('/' :: cs)).toList).length ≤ Target.maxLength) :
    Target.parse (String.ofList ('/' :: cs)) = Target.ofPathAndQuery ('/' :: cs) := by
  rw [Target.parse, if_neg (Nat.not_lt.mpr hlength), String.toList_ofList]
  rfl

theorem forall_mem_writtenQuery {P : Char → Prop} (hmark : P '%') (hequals : P '=') (hand : P '&')
    (hplain : ∀ c : Char, c.isAlphanum = true → P c) (search page : String) :
    ∀ c ∈ writtenQuery search page, P c := by
  intro c hc
  simp only [writtenQuery, joinWith, List.mem_append, List.mem_cons] at hc
  rcases hc with hc | rfl | hc
  · exact forall_mem_writtenArgument hmark hequals hplain _ _ c hc
  · exact hand
  · exact forall_mem_writtenArgument hmark hequals hplain _ _ c hc

theorem isPathChar_booksSegment : ∀ c ∈ '/' :: booksSegment, Target.isPathChar c = true :=
  List.all_eq_true.mp (by decide)

theorem target_queryAddress {search page : String}
    (hlength : (Utf8.encode (queryAddress search page).toList).length ≤ Target.maxLength) :
    ∃ target, Target.parse (queryAddress search page) = some target ∧
      ∀ method, Request.arguments { method, target } = some (.ok { search, page }) := by
  have hquery : ∀ c ∈ writtenQuery search page, Target.isQueryChar c = true :=
    forall_mem_writtenQuery (by decide) (by decide) (by decide)
      (fun _ => isQueryChar_of_isAlphanum) search page
  have htarget : Target.parse (queryAddress search page) =
      some { path := '/' :: booksSegment, query := some (writtenQuery search page) } := by
    rw [queryAddress, parse_slash hlength]
    exact Target.ofPathAndQuery_query isPathChar_booksSegment (by simp) hquery
  have hroute : Route.ofPath ('/' :: booksSegment) = some .books := by
    rfl
  refine ⟨_, htarget, ?_⟩
  intro method
  simp only [Request.arguments, hroute, Option.getD_some, ofQuery_writtenQuery]

theorem target_pathAddress {search page : String} (hpage : page ≠ "")
    (hlength : (Utf8.encode (pathAddress search page).toList).length ≤ Target.maxLength) :
    ∃ target, Target.parse (pathAddress search page) = some target ∧
      ∀ method, Request.arguments { method, target } = some (.ok { search, page }) := by
  have hescaped : ∀ argument, ∀ c ∈ escape argument, Target.isPathChar c = true :=
    forall_mem_escape (by decide) (fun _ => isPathChar_of_isAlphanum)
  have hpath : ∀ c ∈ '/' :: (booksSegment ++ '/' :: (escape search ++ '/' :: escape page)),
      Target.isPathChar c = true := by
    intro c hc
    rw [← List.cons_append, List.mem_append] at hc
    rcases hc with hc | hc
    · exact isPathChar_booksSegment c hc
    · simp only [List.mem_cons, List.mem_append] at hc
      rcases hc with rfl | hc | rfl | hc
      · decide
      · exact hescaped search c hc
      · decide
      · exact hescaped page c hc
  have htarget : Target.parse (pathAddress search page) =
      some { path := '/' :: (booksSegment ++ '/' :: (escape search ++ '/' :: escape page)) } := by
    rw [pathAddress, parse_slash hlength]
    exact Target.ofPathAndQuery_path hpath (by simp)
  have hparts : ∀ part ∈ [[], booksSegment, escape search, escape page], '/' ∉ part := by
    have hslash : ∀ argument, '/' ∉ escape argument := not_mem_escape (by decide) (by decide)
    simp [hslash, booksSegment]
  have hsplit := splitAt_joinWith (by simp) hparts
  have hroute :
      Route.ofPath ('/' :: (booksSegment ++ '/' :: (escape search ++ '/' :: escape page))) =
        some (.booksOf (escape search) (escape page)) := by
    simp only [joinWith, List.nil_append] at hsplit
    rw [Route.ofPath, hsplit]
    simp [toList_books, escape_ne_nil hpage]
  refine ⟨_, htarget, ?_⟩
  intro method
  simp only [Request.arguments, hroute, ofPath_escape]

/-! ## Requests for a search -/

/-- An address whose target brings the arguments makes a GET request with them. -/
theorem parse_get_of_target {address search page : String}
    (h : ∃ target, Target.parse address = some target ∧
      ∀ method, Request.arguments { method, target } = some (.ok { search, page })) :
    ∃ request, Request.parse "GET" address = some request ∧ request.method.name = "GET" ∧
      request.arguments = some (.ok { search, page }) := by
  obtain ⟨target, htarget, harguments⟩ := h
  exact ⟨_, parse_of_method Method.parse_get htarget, rfl, harguments _⟩

theorem parse_queryAddress {search page : String}
    (hlength : (Utf8.encode (queryAddress search page).toList).length ≤ Target.maxLength) :
    ∃ request, Request.parse "GET" (queryAddress search page) = some request ∧
      request.method.name = "GET" ∧ request.arguments = some (.ok { search, page }) :=
  parse_get_of_target (target_queryAddress hlength)

theorem parse_pathAddress {search page : String} (hpage : page ≠ "")
    (hlength : (Utf8.encode (pathAddress search page).toList).length ≤ Target.maxLength) :
    ∃ request, Request.parse "GET" (pathAddress search page) = some request ∧
      request.method.name = "GET" ∧ request.arguments = some (.ok { search, page }) :=
  parse_get_of_target (target_pathAddress hpage hlength)

/-- What is replied to a GET and to a HEAD request at an address that brings the arguments. -/
theorem respond_of_target {address search page : String} (find : String → String → Search.Run)
    (h : ∃ target, Target.parse address = some target ∧
      ∀ method, Request.arguments { method, target } = some (.ok { search, page })) :
    let reply := (Reply.ofRun (find search page)).allowAnyOrigin
    (Request.parse "GET" address).map (respond find) = some reply ∧
      (Request.parse "HEAD" address).map (respond find) = some { reply with body := "" } := by
  intro reply
  obtain ⟨target, htarget, harguments⟩ := h
  rw [parse_of_method Method.parse_get htarget, parse_of_method Method.parse_head htarget,
    Option.map_some, Option.map_some]
  exact ⟨congrArg some (respond_of_search (.inl rfl) (harguments _) find),
    congrArg some (respond_of_search (.inr rfl) (harguments _) find)⟩

/-- A search has the same reply at both of its addresses, with the same headers, body and calls:
what the search for the arguments comes to. So it has for HEAD, with an empty body. -/
theorem routes_agree (catalog : Catalog) (limit : UInt32) {search page : String}
    (hpage : page ≠ "")
    (hpath : (Utf8.encode (pathAddress search page).toList).length ≤ Target.maxLength)
    (hquery : (Utf8.encode (queryAddress search page).toList).length ≤ Target.maxLength) :
    let find := Search.search catalog limit
    let reply := (Reply.ofRun (find search page)).allowAnyOrigin
    (Request.parse "GET" (pathAddress search page)).map (respond find) = some reply ∧
      (Request.parse "GET" (queryAddress search page)).map (respond find) = some reply ∧
      (Request.parse "HEAD" (pathAddress search page)).map (respond find) =
        some { reply with body := "" } ∧
      (Request.parse "HEAD" (queryAddress search page)).map (respond find) =
        some { reply with body := "" } := by
  intro find reply
  obtain ⟨hgetPath, hheadPath⟩ := respond_of_target find (target_pathAddress hpage hpath)
  obtain ⟨hgetQuery, hheadQuery⟩ := respond_of_target find (target_queryAddress hquery)
  exact ⟨hgetPath, hgetQuery, hheadPath, hheadQuery⟩

/-- The second page of twelve volumes less one, at either address. -/
theorem routes_agree_on_volumes :
    let find := Search.search
      (Memory.catalog { books := fun series => (List.range 12).map (volume series) }) 100
    let answer (address : String) := (Request.parse "GET" address).map (respond find)
    answer "/books/%E6%97%A5%E6%9C%AC%20%2D7/2" =
        answer "/books?search=%E6%97%A5%E6%9C%AC%20%2D7&page=2" ∧
      (answer "/books/%E6%97%A5%E6%9C%AC%20%2D7/2").map (fun reply => (reply.status, reply.calls)) =
        some (200, [⟨"日本 ", 1⟩, ⟨"日本 ", 2⟩]) := by
  intro find answer
  have hpath : pathAddress "日本 -7" "2" = "/books/%E6%97%A5%E6%9C%AC%20%2D7/2" := by
    decide +kernel
  have hquery : queryAddress "日本 -7" "2" = "/books?search=%E6%97%A5%E6%9C%AC%20%2D7&page=2" := by
    decide +kernel
  have hpathLength : (Utf8.encode (pathAddress "日本 -7" "2").toList).length ≤ Target.maxLength := by
    decide +kernel
  have hqueryLength :
      (Utf8.encode (queryAddress "日本 -7" "2").toList).length ≤ Target.maxLength := by
    decide +kernel
  obtain ⟨hgetPath, hgetQuery, -, -⟩ := routes_agree _ 100 (by decide) hpathLength hqueryLength
  rw [hpath] at hgetPath
  rw [hquery] at hgetQuery
  refine ⟨hgetPath.trans hgetQuery.symm, ?_⟩
  decide +kernel

end BookFinder.Web
