import BookFinder.Catalog.Payload
import BookFinder.Proofs.Entries
import BookFinder.Proofs.Json.Grammar

/-! # The shapes of a payload

Which JSON values stand for a count, a record and a page. A payload is taken exactly if it is the
text of a value that stands for a page, and that page comes out of it. -/

namespace BookFinder.Catalog

/-! ## Counts -/

/-- A count is a number of digits alone, or a text: a blank one means 0, any other holds digits
after an optional plus sign, with white space around them. -/
inductive IsCount : Json → UInt64 → Prop
  | number {literal : String} {n : UInt64} (h : Text.IsDigits literal.toList)
      (hvalue : Nat.ofDigitChars 10 literal.toList 0 = n.toNat) : IsCount (.number literal) n
  | blank {s : String} (h : ∀ c ∈ s.toList, Text.isBlank c = true) : IsCount (.string s) 0
  | text {s : String} {before sign digits after : List Char} {n : UInt64}
      (hs : s.toList = before ++ (sign ++ digits) ++ after)
      (hbefore : ∀ c ∈ before, Text.isBlank c = true) (hsign : sign = [] ∨ sign = ['+'])
      (h : Text.IsDigits digits) (hvalue : Nat.ofDigitChars 10 digits 0 = n.toNat)
      (hafter : ∀ c ∈ after, Text.isBlank c = true) : IsCount (.string s) n

/-- A reader of small numbers, each kept in 64 bits. -/
theorem map_ofNat_eq_some_iff {read : Option Nat} {Stands : Nat → Prop} {n : UInt64}
    (h : ∀ m, read = some m ↔ m < UInt64.size ∧ Stands m) :
    read.map UInt64.ofNat = some n ↔ Stands n.toNat := by
  rw [Option.map_eq_some_iff]
  constructor
  · rintro ⟨m, hm, rfl⟩
    obtain ⟨hlt, hstands⟩ := (h m).mp hm
    rwa [UInt64.toNat_ofNat_of_lt' hlt]
  · intro hstands
    exact ⟨n.toNat, (h n.toNat).mpr ⟨n.toNat_lt_size, hstands⟩, UInt64.ofNat_toNat⟩

theorem readDigitsBelow_map_eq_some_iff {cs : List Char} {n : UInt64} :
    (Text.readDigitsBelow UInt64.size cs).map UInt64.ofNat = some n ↔
      Text.IsDigits cs ∧ Nat.ofDigitChars 10 cs 0 = n.toNat :=
  map_ofNat_eq_some_iff fun _ => Text.readDigitsBelow_eq_some_iff (by decide)

theorem readBelow_map_eq_some_iff {cs : List Char} {n : UInt64} :
    (Text.readBelow UInt64.size cs).map UInt64.ofNat = some n ↔
      ∃ sign digits, cs = sign ++ digits ∧ (sign = [] ∨ sign = ['+']) ∧ Text.IsDigits digits ∧
        Nat.ofDigitChars 10 digits 0 = n.toNat :=
  map_ofNat_eq_some_iff fun _ => Text.readBelow_eq_some_iff (by decide)

theorem countOfJson_eq_some_iff {json : Json} {n : UInt64} :
    countOfJson json = some n ↔ IsCount json n := by
  constructor
  · intro h
    rw [countOfJson.eq_def] at h
    split at h
    · obtain ⟨hdigits, hvalue⟩ := readDigitsBelow_map_eq_some_iff.mp h
      exact .number hdigits hvalue
    · rename_i s
      simp only at h
      split at h
      · rename_i hempty
        obtain rfl := Option.some.inj h
        exact .blank (Text.trim_eq_nil_iff.mp (List.isEmpty_iff.mp hempty))
      · obtain ⟨before, after, hs, hbefore, hafter⟩ := Text.exists_trim s.toList
        obtain ⟨sign, digits, htrim, hsign, hdigits, hvalue⟩ := readBelow_map_eq_some_iff.mp h
        rw [htrim] at hs
        exact .text hs hbefore hsign hdigits hvalue hafter
    · cases h
  · intro h
    cases h with
    | number h hvalue => exact readDigitsBelow_map_eq_some_iff.mpr ⟨h, hvalue⟩
    | blank h =>
        rw [countOfJson, Text.trim_eq_nil_iff.mpr h]
        rfl
    | text hs hbefore hsign h hvalue hafter =>
        rw [countOfJson, hs, Text.trim_signed hbefore hsign h hafter, if_neg (by simp [h.1])]
        exact readBelow_map_eq_some_iff.mpr ⟨_, _, rfl, hsign, h, hvalue⟩

/-! ## Members -/

/-- What a lookup finds decides what the members give. -/
theorem gives_iff_lookup {α : Type} {names : List String} {Stands : Json → α → Prop}
    {default value : α} {members : List (String × Json)} :
    Gives names Stands default members value ↔ match Json.lookup names members with
      | .absent => value = default
      | .present item => Stands item value
      | .repeated => False := by
  have hfilter : members.filter (·.1 ∈ names) = members.filter (names.contains ·.1) := by
    simp
  rw [gives_iff_filter, hfilter, Json.lookup]
  cases members.filter (names.contains ·.1) with
  | nil => rfl
  | cons first found => cases found <;> rfl

theorem memberOr_eq_some_iff {α : Type} {read : Json → Option α} {Stands : Json → α → Prop}
    (hread : ∀ json value, read json = some value ↔ Stands json value) {default value : α}
    {name : String} {members : List (String × Json)} :
    memberOr default read name members = some value ↔
      Gives [name] Stands default members value := by
  rw [gives_iff_lookup, memberOr]
  cases Json.lookup [name] members with
  | absent => exact ⟨fun h => (Option.some.inj h).symm, fun h => h ▸ rfl⟩
  | present item => exact hread item value
  | repeated => simp

/-! ## Records -/

def IsText (json : Json) (s : String) : Prop := json = .string s

theorem stringMember_eq_some_iff {names : List String} {members : List (String × Json)}
    {s : String} : stringMember names members = some s ↔ Gives names IsText "" members s := by
  rw [gives_iff_lookup, stringMember]
  cases Json.lookup names members with
  | absent => exact ⟨fun h => (Option.some.inj h).symm, fun h => h ▸ rfl⟩
  | present item => cases item <;> simp [IsText]
  | repeated => simp

def Record.ofTexts (texts : List String) : Record :=
  { title := texts.getD 0 ""
    subtitle := texts.getD 1 ""
    image := texts.getD 2 ""
    isbn := texts.getD 3 ""
    price := texts.getD 4 ""
    url := texts.getD 5 "" }

/-- A record is an object of texts, or an array of at most six texts in their order. -/
inductive IsRecord : Json → Record → Prop
  | object {members : List (String × Json)} {record : Record}
      (title : Gives ["title"] IsText "" members record.title)
      (subtitle : Gives ["subtitle"] IsText "" members record.subtitle)
      (image : Gives ["image"] IsText "" members record.image)
      (isbn : Gives ["isbn", "isbn13"] IsText "" members record.isbn)
      (price : Gives ["price"] IsText "" members record.price)
      (url : Gives ["url"] IsText "" members record.url) : IsRecord (.object members) record
  | array {items : List Json} {texts : List String} (h : List.Forall₂ IsText items texts)
      (hlength : texts.length ≤ 6) :
      IsRecord (.array items) (Record.ofTexts texts)

theorem stringItems_eq_some_iff {items : List Json} {texts : List String} :
    stringItems items = some texts ↔ List.Forall₂ IsText items texts := by
  induction items generalizing texts with
  | nil =>
      rw [stringItems, List.forall₂_nil_left_iff]
      exact ⟨fun h => (Option.some.inj h).symm, fun h => h ▸ rfl⟩
  | cons item items ih =>
      rw [List.forall₂_cons_left_iff]
      cases item with
      | string s =>
          simp only [stringItems, Option.map_eq_some_iff, ih, IsText, Json.string.injEq]
          constructor
          · rintro ⟨rest, hrest, rfl⟩
            exact ⟨s, rest, rfl, hrest, rfl⟩
          · rintro ⟨_, rest, rfl, hrest, rfl⟩
            exact ⟨rest, hrest, rfl⟩
      | _ => simp [stringItems, IsText]

theorem ofItems_eq_some_iff {texts : List String} {record : Record} :
    Record.ofItems texts = some record ↔ texts.length ≤ 6 ∧ Record.ofTexts texts = record := by
  rcases texts with _ | ⟨_, _ | ⟨_, _ | ⟨_, _ | ⟨_, _ | ⟨_, _ | ⟨_, _ | _⟩⟩⟩⟩⟩⟩ <;>
    simp [Record.ofItems, Record.ofTexts]

theorem Record.ofJson_eq_some_iff {json : Json} {record : Record} :
    Record.ofJson json = some record ↔ IsRecord json record := by
  constructor
  · intro h
    rw [Record.ofJson.eq_def] at h
    split at h
    · simp only [Option.bind_eq_bind, Option.bind_eq_some_iff, stringMember_eq_some_iff,
        Option.some.injEq] at h
      obtain ⟨title, htitle, subtitle, hsubtitle, image, himage, isbn, hisbn, price, hprice, url,
        hurl, rfl⟩ := h
      exact .object htitle hsubtitle himage hisbn hprice hurl
    · obtain ⟨texts, hitems, hrecord⟩ := Option.bind_eq_some_iff.mp h
      obtain ⟨hlength, rfl⟩ := ofItems_eq_some_iff.mp hrecord
      exact .array (stringItems_eq_some_iff.mp hitems) hlength
    · cases h
  · intro h
    cases h with
    | object htitle hsubtitle himage hisbn hprice hurl =>
        simp only [Record.ofJson, stringMember_eq_some_iff.mpr htitle,
          stringMember_eq_some_iff.mpr hsubtitle, stringMember_eq_some_iff.mpr himage,
          stringMember_eq_some_iff.mpr hisbn, stringMember_eq_some_iff.mpr hprice,
          stringMember_eq_some_iff.mpr hurl, Option.bind_eq_bind, Option.bind_some]
    | array h hlength =>
        rw [Record.ofJson, stringItems_eq_some_iff.mpr h, Option.bind_some]
        exact ofItems_eq_some_iff.mpr ⟨hlength, rfl⟩

/-! ## Pages -/

inductive IsRecords : Json → List Record → Prop
  | intro {items : List Json} {records : List Record} (h : List.Forall₂ IsRecord items records) :
      IsRecords (.array items) records

/-- A page is an object with a total and books, or an array of the two, whose end may be missing. -/
inductive IsPage : Json → RemotePage → Prop
  | object {members : List (String × Json)} {page : RemotePage}
      (total : Gives ["total"] IsCount 0 members page.total)
      (books : Gives ["books"] IsRecords [] members page.records) : IsPage (.object members) page
  | nothing : IsPage (.array []) { total := 0, records := [] }
  | total {total : Json} {n : UInt64} (h : IsCount total n) :
      IsPage (.array [total]) { total := n, records := [] }
  | both {total books : Json} {page : RemotePage} (h : IsCount total page.total)
      (hbooks : IsRecords books page.records) : IsPage (.array [total, books]) page

theorem recordsOfJson_eq_some_iff {json : Json} {records : List Record} :
    recordsOfJson json = some records ↔ IsRecords json records := by
  constructor
  · intro h
    rw [recordsOfJson.eq_def] at h
    split at h
    · refine .intro ?_
      simpa only [mapM_eq_some_iff, Record.ofJson_eq_some_iff] using h
    · cases h
  · rintro ⟨h⟩
    simpa only [recordsOfJson, mapM_eq_some_iff, Record.ofJson_eq_some_iff] using h

theorem RemotePage.ofJson_eq_some_iff {json : Json} {page : RemotePage} :
    RemotePage.ofJson json = some page ↔ IsPage json page := by
  constructor
  · intro h
    rw [RemotePage.ofJson.eq_def] at h
    split at h
    · simp only [Option.bind_eq_bind, Option.bind_eq_some_iff,
        memberOr_eq_some_iff @countOfJson_eq_some_iff,
        memberOr_eq_some_iff @recordsOfJson_eq_some_iff, Option.some.injEq] at h
      obtain ⟨total, htotal, records, hbooks, rfl⟩ := h
      exact .object htotal hbooks
    · obtain rfl := Option.some.inj h
      exact .nothing
    · simp only [Option.bind_eq_bind, Option.bind_eq_some_iff, countOfJson_eq_some_iff,
        Option.some.injEq] at h
      obtain ⟨total, htotal, rfl⟩ := h
      exact .total htotal
    · simp only [Option.bind_eq_bind, Option.bind_eq_some_iff, countOfJson_eq_some_iff,
        recordsOfJson_eq_some_iff, Option.some.injEq] at h
      obtain ⟨total, htotal, records, hbooks, rfl⟩ := h
      exact .both htotal hbooks
    · cases h
  · intro h
    cases h with
    | object htotal hbooks =>
        simp only [RemotePage.ofJson, (memberOr_eq_some_iff @countOfJson_eq_some_iff).mpr htotal,
          (memberOr_eq_some_iff @recordsOfJson_eq_some_iff).mpr hbooks, Option.bind_eq_bind,
          Option.bind_some]
    | nothing => rfl
    | total h =>
        simp only [RemotePage.ofJson, countOfJson_eq_some_iff.mpr h, Option.bind_eq_bind,
          Option.bind_some]
    | both h hbooks =>
        simp only [RemotePage.ofJson, countOfJson_eq_some_iff.mpr h,
          recordsOfJson_eq_some_iff.mpr hbooks, Option.bind_eq_bind, Option.bind_some]

/-- A payload is taken exactly if it is the text of one value that stands for a page, and that page
comes out of it. -/
theorem RemotePage.read_iff_isPage (text : String) (page : RemotePage) :
    RemotePage.read text = some page ↔
      ∃ json, Json.WritesElement text.toList json ∧ IsPage json page := by
  simp only [RemotePage.read, Option.bind_eq_some_iff, Json.read_eq_some_iff,
    RemotePage.ofJson_eq_some_iff]

/-- A page and its first record as arrays, and a second record with a member of no meaning. -/
example : RemotePage.read
    "[\" +012 \", [[\"Java\", \"\"], \x7b\"isbn13\": \"978\", \"pages\": [1e3]\x7d]]" =
      some { total := 12, records := [{ title := "Java" }, { isbn := "978" }] } := by
  decide +kernel

end BookFinder.Catalog
