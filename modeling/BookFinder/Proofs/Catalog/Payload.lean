import BookFinder.Proofs.Catalog.Totals

/-! # Payloads carry their records and totals -/

namespace BookFinder.Catalog

/-! ## Records -/

theorem Record.ofJson_toJson (record : Record) : Record.ofJson record.toJson = some record := by
  simp [Record.ofJson, Record.toJson, stringMember, Json.lookup]

theorem Record.natural_toJson (record : Record) : record.toJson.Natural :=
  Json.natural_texts [("title", record.title), ("subtitle", record.subtitle),
    ("image", record.image), ("isbn", record.isbn), ("price", record.price), ("url", record.url)]

theorem recordsOfJson_toJson (records : List Record) :
    recordsOfJson (.array (records.map Record.toJson)) = some records :=
  mapM_map Record.ofJson_toJson records

/-! ## Totals -/

def totalJson (quoted : Bool) (total : UInt64) : Json :=
  if quoted then .string (String.ofList (Text.renderNat total.toNat)) else .ofNat total.toNat

theorem writesTotal_totalJson (quoted : Bool) (total : UInt64) :
    WritesTotal total (totalJson quoted total) := by
  cases quoted with
  | false => exact .number
  | true =>
      have hnone : ∀ c ∈ ([] : List Char), Text.isBlank c = true := by simp
      simpa [totalJson] using WritesTotal.text 0 hnone (.inl rfl) hnone

theorem countOfJson_totalJson (quoted : Bool) (total : UInt64) :
    countOfJson (totalJson quoted total) = some total :=
  countOfJson_eq_some_iff.mpr (writesTotal_totalJson quoted total).isCount

theorem natural_totalJson (quoted : Bool) (total : UInt64) : (totalJson quoted total).Natural := by
  cases quoted with
  | false => exact .number _
  | true => exact .string _

/-! ## Pages -/

/-- A page as an object of its total and its books. -/
def pageJson (quoted : Bool) (page : RemotePage) : Json :=
  .object [("total", totalJson quoted page.total),
    ("books", .array (page.records.map Record.toJson))]

theorem RemotePage.ofJson_pageJson (quoted : Bool) (page : RemotePage) :
    RemotePage.ofJson (pageJson quoted page) = some page := by
  simp [RemotePage.ofJson, pageJson, memberOr, Json.lookup, countOfJson_totalJson,
    recordsOfJson_toJson]

/-- The text of a page: each record is compact, and the gap may stand after the commas and colons
around them. -/
def pageText (gap : List Char) (quoted : Bool) (page : RemotePage) : List Char :=
  '\x7b' :: (Json.separated gap
    [Json.memberText gap "total" (totalJson quoted page.total).renderChars,
      Json.memberText gap "books"
        ('[' :: (Json.separated gap (page.records.map (·.toJson.renderChars)) ++ [']']))] ++
    ['\x7d'])

theorem RemotePage.read_pageText {gap : List Char} (hgap : ∀ c ∈ gap, Json.isBlank c = true)
    (quoted : Bool) (page : RemotePage) :
    RemotePage.read (String.ofList (pageText gap quoted page)) = some page := by
  have hbooks : Json.Writes
      ('[' :: (Json.separated gap (page.records.map (·.toJson.renderChars)) ++ [']']))
      (.array (page.records.map Record.toJson)) := by
    have hwritten : ∀ item ∈ page.records.map fun r => (r.toJson.renderChars, r.toJson),
        Json.Writes item.1 item.2 := by
      intro item hitem
      obtain ⟨record, -, rfl⟩ := List.mem_map.mp hitem
      exact Json.writes_renderChars record.natural_toJson
    simpa only [List.map_map, Function.comp_def] using Json.writes_array hgap hwritten
  have hpage : Json.Writes (pageText gap quoted page) (pageJson quoted page) := by
    refine Json.writes_object hgap [("total", _, _), ("books", _, _)] ?_
    intro member hmember
    simp only [List.mem_cons, List.not_mem_nil, or_false] at hmember
    rcases hmember with rfl | rfl
    · exact Json.writes_renderChars (natural_totalJson quoted page.total)
    · exact hbooks
  rw [RemotePage.read, Json.read_of_writes hpage, Option.bind_some, RemotePage.ofJson_pageJson]

end BookFinder.Catalog
