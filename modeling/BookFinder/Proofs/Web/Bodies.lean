import BookFinder.Proofs.Entries
import BookFinder.Proofs.Json.RoundTrip
import BookFinder.Proofs.Web.Effects

/-! # The bodies of replies to a search

A body is JSON, and whoever reads it finds what the search came to: the page with all its texts, or
the message of the error. -/

namespace BookFinder

/-! ## Pages of results -/

namespace Search

theorem BookSummary.ofJson_toJson (book : BookSummary) :
    BookSummary.ofJson book.toJson = some book := by
  simp [BookSummary.ofJson, BookSummary.toJson, requiredMember, Json.lookup, stringOfJson]

theorem BookSummary.natural_toJson (book : BookSummary) : book.toJson.Natural :=
  Json.natural_texts [("title", book.title), ("subtitle", book.subtitle), ("image", book.image)]

theorem booksOfJson_toJson (books : List BookSummary) :
    booksOfJson (.array (books.map BookSummary.toJson)) = some books :=
  mapM_map BookSummary.ofJson_toJson books

theorem pageNumberOfJson_ofNat (n : UInt32) : pageNumberOfJson (.ofNat n.toNat) = some n := by
  have hlt : n.toNat < UInt32.size := n.toNat_lt
  have hread : Text.readNat (String.ofList (Nat.toDigits 10 n.toNat)).toList = some n.toNat := by
    rw [String.toList_ofList]
    exact Text.readNat_renderNat n.toNat
  rw [Json.ofNat, pageNumberOfJson, hread, Option.bind_some, if_pos hlt, UInt32.ofNat_toNat]

theorem ResultPage.ofJson_toJson (page : ResultPage) :
    ResultPage.ofJson page.toJson = some page := by
  simp [ResultPage.ofJson, ResultPage.toJson, requiredMember, Json.lookup, pageNumberOfJson_ofNat,
    booksOfJson_toJson]

theorem ResultPage.natural_toJson (page : ResultPage) : page.toJson.Natural := by
  apply Json.Natural.object
  intro member hmember
  simp only [List.mem_cons, List.not_mem_nil, or_false] at hmember
  rcases hmember with rfl | rfl
  · exact .number _
  · apply Json.Natural.array
    intro item hitem
    obtain ⟨book, -, rfl⟩ := List.mem_map.mp hitem
    exact book.natural_toJson

theorem ResultPage.read_render (page : ResultPage) :
    ResultPage.read page.toJson.render = some page := by
  rw [ResultPage.read, Json.read_render page.natural_toJson, Option.bind_some,
    ResultPage.ofJson_toJson]

end Search

namespace Web

/-! ## Replies -/

theorem respond_of_get {request : Request} {arguments : Arguments}
    (hget : request.method.name = "GET") (hbrings : request.target.Brings arguments)
    (find : String → String → Search.Run) :
    respond find request =
      (Reply.ofRun (find arguments.search arguments.page)).allowAnyOrigin := by
  rw [respond_of_search (.inl hget) (arguments_eq_ok_iff.mpr hbrings), Reply.forMethod,
    if_neg (by simp [hget])]

/-- The body of a reply to GET says what the search came to. If it succeeds, the page of results is
read from the body as it was found, and writing that page again gives the body; if it fails, the body
is an object of nothing but the message of the error. -/
theorem body_reads_back (catalog : Catalog) (limit : UInt32) {request : Request}
    {arguments : Arguments} (hget : request.method.name = "GET")
    (hbrings : request.target.Brings arguments) :
    let find := Search.search catalog limit
    let outcome := (find arguments.search arguments.page).outcome
    let reply := respond find request
    (∀ found, outcome = .ok found → reply.status = 200 ∧
      Search.ResultPage.read reply.body = some found ∧ found.toJson.render = reply.body) ∧
    ∀ error, outcome = .error error →
      reply.status = (if error.isCallersFault then 400 else 502) ∧
        Json.read reply.body = some (.object [("error", .string error.message)]) := by
  intro find outcome reply
  have hreply : reply = (Reply.ofRun (find arguments.search arguments.page)).allowAnyOrigin :=
    respond_of_get hget hbrings find
  constructor
  · intro found hfound
    rw [hreply, ofRun_of_ok hfound]
    exact ⟨rfl, found.read_render, rfl⟩
  · intro error herror
    rw [hreply, ofRun_of_error herror]
    exact ⟨rfl, Json.read_render (Json.natural_texts [("error", error.message)])⟩

/-- A record whose title is all escapes, and a page that is refused for being that title. -/
theorem body_reads_back_of_escapes :
    let title := "\"\\\n"
    let catalog := Catalog.Memory.catalog { books := fun _ => [{ title }] }
    let reply := respond (Search.search catalog 100)
    ∃ found refused, Request.parse "GET" "/books/c/1" = some found ∧
      found.target.Brings { search := "c", page := "1" } ∧
      Request.parse "GET" "/books/c/%22%5C%0A" = some refused ∧
      refused.target.Brings { search := "c", page := title } ∧
      (reply found).status = 200 ∧ Search.ResultPage.read (reply found).body =
        some { totalPages := 1, books := [{ title, subtitle := "", image := "" }] } ∧
      (reply refused).status = 400 ∧ Json.read (reply refused).body =
        some (.object [("error", .string "invalid query: invalid page '\"\\\n'")]) := by
  intro title catalog reply
  have hfoundPath : pathAddress "c" "1" = "/books/c/1" := by decide +kernel
  have hrefusedPath : pathAddress "c" title = "/books/c/%22%5C%0A" := by decide +kernel
  obtain ⟨found, hfound, hget, hbrings⟩ :=
    @parse_pathAddress "c" "1" (by decide) (by decide +kernel)
  obtain ⟨refused, hrefused, hgetRefused, hbringsRefused⟩ :=
    @parse_pathAddress "c" title (by decide) (by decide +kernel)
  rw [hfoundPath] at hfound
  rw [hrefusedPath] at hrefused
  rw [arguments_eq_ok_iff] at hbrings hbringsRefused
  obtain ⟨hstatus, hbody, -⟩ := (body_reads_back catalog 100 hget hbrings).1
    { totalPages := 1, books := [{ title, subtitle := "", image := "" }] } (by decide +kernel)
  obtain ⟨hstatusRefused, hbodyRefused⟩ :=
    (body_reads_back catalog 100 hgetRefused hbringsRefused).2 (.invalidQuery (.invalidPage title))
      (by decide +kernel)
  exact ⟨found, refused, hfound, hbrings, hrefused, hbringsRefused, hstatus, hbody, hstatusRefused,
    hbodyRefused⟩

end Web

end BookFinder
