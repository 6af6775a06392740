import BookFinder.Proofs.Catalog.Shapes
import BookFinder.Proofs.Json.RoundTrip

/-! # Totals in payloads

A payload that is right but for its total is taken exactly if a count stands there. Nothing else is
read as 0: a total that is no count takes the whole page with it. -/

namespace BookFinder.Catalog

/-- The value has a total, and is otherwise a page with these records. -/
inductive HoldsTotal : Json → Json → List Record → Prop
  | object {front rest : List (String × Json)} {total : Json} {records : List Record}
      (honce : ∀ member ∈ front ++ rest, member.1 ≠ "total")
      (hbooks : Gives ["books"] IsRecords [] (front ++ rest) records) :
      HoldsTotal (.object (front ++ ("total", total) :: rest)) total records
  | alone {total : Json} : HoldsTotal (.array [total]) total []
  | both {total books : Json} {records : List Record} (hbooks : IsRecords books records) :
      HoldsTotal (.array [total, books]) total records

/-- The two ways to write a total: as a number, or as a text of its digits, with zeros and a plus
sign in front of them and white space around. -/
inductive WritesTotal (n : UInt64) : Json → Prop
  | number : WritesTotal n (.ofNat n.toNat)
  | text {before sign after : List Char} (zeros : Nat)
      (hbefore : ∀ c ∈ before, Text.isBlank c = true) (hsign : sign = [] ∨ sign = ['+'])
      (hafter : ∀ c ∈ after, Text.isBlank c = true) :
      WritesTotal n (.string (String.ofList
        (before ++ (sign ++ (List.replicate zeros '0' ++ Text.renderNat n.toNat)) ++ after)))

theorem WritesTotal.isCount {n : UInt64} {total : Json} (h : WritesTotal n total) :
    IsCount total n := by
  cases h with
  | number =>
      have hwritten : (String.ofList (Nat.toDigits 10 n.toNat)).toList = Text.renderNat n.toNat :=
        String.toList_ofList
      obtain ⟨hdigits, hvalue⟩ := Text.readNat_eq_some_iff.mp (Text.readNat_renderNat n.toNat)
      rw [← hwritten] at hdigits hvalue
      exact .number hdigits hvalue
  | text zeros hbefore hsign hafter =>
      obtain ⟨hdigits, hvalue⟩ := Text.zeros_renderNat zeros n.toNat
      exact .text String.toList_ofList hbefore hsign hdigits hvalue hafter

theorem lookup_of_once {name : String} {front rest : List (String × Json)} {value : Json}
    (h : ∀ member ∈ front ++ rest, member.1 ≠ name) :
    Json.lookup [name] (front ++ (name, value) :: rest) = .present value := by
  have hnone (members : List (String × Json)) (hmembers : ∀ member ∈ members, member.1 ≠ name) :
      members.filter ([name].contains ·.1) = [] := by
    rw [List.filter_eq_nil_iff]
    intro member hmember
    simpa using hmembers member hmember
  have hfront := hnone front fun member hmember => h member (List.mem_append_left rest hmember)
  have hrest := hnone rest fun member hmember => h member (List.mem_append_right front hmember)
  rw [Json.lookup, List.filter_append, hfront, List.filter_cons_of_pos (by simp), hrest]
  rfl

theorem HoldsTotal.ofJson_eq {json total : Json} {records : List Record}
    (h : HoldsTotal json total records) :
    RemotePage.ofJson json = (countOfJson total).map fun n => { total := n, records } := by
  cases h with
  | @object front rest total records honce hbooks =>
      have htotal : memberOr 0 countOfJson "total" (front ++ ("total", total) :: rest) =
          countOfJson total := by
        rw [memberOr, lookup_of_once honce]
      have hrecords : memberOr [] recordsOfJson "books" (front ++ ("total", total) :: rest) =
          some records := by
        rw [memberOr_eq_some_iff @recordsOfJson_eq_some_iff, gives_skip (by decide)]
        exact hbooks
      simp only [RemotePage.ofJson, htotal, hrecords, Option.bind_eq_bind, Option.bind_some]
      cases countOfJson total <;> rfl
  | alone =>
      rw [RemotePage.ofJson]
      cases countOfJson total <;> rfl
  | both hbooks =>
      simp only [RemotePage.ofJson, recordsOfJson_eq_some_iff.mpr hbooks, Option.bind_eq_bind,
        Option.bind_some]
      cases countOfJson total <;> rfl

theorem read_of_holdsTotal {text : String} {json total : Json} {records : List Record}
    (htext : Json.WritesElement text.toList json) (h : HoldsTotal json total records) :
    RemotePage.read text = (countOfJson total).map fun n => { total := n, records } := by
  rw [RemotePage.read, Json.read_eq_some_iff.mpr htext, Option.bind_some, h.ofJson_eq]

/-- A payload that is right but for its total is taken exactly if a count stands there, with that
count for its total; if none does, nothing is taken of it. Each total is read from either way to
write it. -/
theorem RemotePage.total_exact {text : String} {json total : Json} {records : List Record}
    (htext : Json.WritesElement text.toList json) (h : HoldsTotal json total records) :
    (∀ page, RemotePage.read text = some page ↔
      page.records = records ∧ IsCount total page.total) ∧
    (RemotePage.read text = none ↔ ∀ n, ¬ IsCount total n) ∧
    ∀ n, WritesTotal n total → RemotePage.read text = some { total := n, records } := by
  rw [read_of_holdsTotal htext h]
  refine ⟨?_, ?_, ?_⟩
  · intro page
    rw [Option.map_eq_some_iff]
    constructor
    · rintro ⟨n, hn, rfl⟩
      exact ⟨rfl, countOfJson_eq_some_iff.mp hn⟩
    · rintro ⟨rfl, hcount⟩
      exact ⟨page.total, countOfJson_eq_some_iff.mpr hcount, rfl⟩
  · rw [Option.map_eq_none_iff, Option.eq_none_iff_forall_ne_some]
    simp only [ne_eq, countOfJson_eq_some_iff]
  · intro n hn
    rw [countOfJson_eq_some_iff.mpr hn.isCount, Option.map_some]

/-- A total among other members, as a text with zeros and white space. -/
theorem RemotePage.total_exact_of_padded_text :
    RemotePage.read "\x7b\"page\":2,\"total\":\" +0012\\n\",\"books\":[[\"Java\"]]\x7d" =
      some { total := 12, records := [{ title := "Java" }] } := by
  let front : List (String × Json) := [("page", .ofNat 2)]
  let rest : List (String × Json) := [("books", .array [.array [.string "Java"]])]
  let payload : Json := .object (front ++ ("total", .string " +0012\n") :: rest)
  have hnatural : payload.Natural := by
    refine .object ?_
    simp only [front, rest, List.singleton_append, List.forall_mem_cons, List.not_mem_nil]
    refine ⟨.number 2, .string _, .array ?_, by simp⟩
    intro item hitem
    obtain rfl := List.mem_singleton.mp hitem
    exact .array fun text htext => List.mem_singleton.mp htext ▸ .string _
  have htext : Json.WritesElement payload.render.toList payload := by
    rw [Json.render, String.toList_ofList]
    exact (Json.writes_renderChars hnatural).element
  have hrender : payload.render =
      "\x7b\"page\":2,\"total\":\" +0012\\n\",\"books\":[[\"Java\"]]\x7d" := by
    decide +kernel
  have hbooks : Gives ["books"] IsRecords [] (front ++ rest) [{ title := "Java" }] := by
    rw [← memberOr_eq_some_iff @recordsOfJson_eq_some_iff]
    decide +kernel
  have hblank (c : Char) (h : Text.isBlank c = true) : ∀ d ∈ [c], Text.isBlank d = true := by
    simpa using h
  have htotal : WritesTotal 12 (.string " +0012\n") :=
    .text 2 (hblank ' ' rfl) (.inr rfl) (hblank '\n' rfl)
  rw [hrender] at htext
  exact (total_exact htext (.object (by simp [front, rest]) hbooks)).2.2 12 htotal

end BookFinder.Catalog
