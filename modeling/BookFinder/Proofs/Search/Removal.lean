import BookFinder.Catalog.Memory
import BookFinder.Proofs.Query.Display
import BookFinder.Proofs.Search.Calls
import BookFinder.Proofs.Search.Validation
import BookFinder.Proofs.Text.Sigma

/-! # What an exclusion removes

The unwanted term decides which records are left, and nothing else: not what is asked, and not
whether the search succeeds. It is compared in lowercase, so that the case it is written in does not
matter; but a record can hold it as it is written and yet be left, if a sigma has one form in the
record and another in the term. -/

namespace BookFinder

namespace Query

/-- Lowercasing brings in no punctuation, so that a part stays one. -/
theorem IsPart.lowercased {text : String} (h : IsPart text) : IsPart (Text.lowercased text) := by
  refine ⟨?_, ?_, ?_⟩
  · intro hempty
    have hlower : Text.lower text.toList = [] := by
      rw [← Text.toList_lowercased, hempty]
      rfl
    exact h.ne_empty (String.toList_eq_nil_iff.mp (Text.lower_eq_nil_iff.mp hlower))
  · intro c hc hdisallowed
    rw [Text.toList_lowercased] at hc
    obtain ⟨⟨-, hascii⟩, hletter, -⟩ := (mem_disallowedCharacters_iff c).mp hdisallowed
    rw [Char.isAlphanum, Bool.or_eq_false_iff] at hletter
    exact h.allowed c (Text.mem_of_mem_lower hc (by omega) hletter.1) hdisallowed
  · intro op hop
    rw [Text.toList_lowercased] at hop
    refine h.no_operator op (Text.mem_of_mem_lower hop ?_ ?_)
    · cases op <;> decide
    · cases op <;> decide

end Query

namespace Search

open Catalog Query

/-! ## What the unwanted term decides -/

theorem excluding_calls_eq (catalog : Catalog) (wanted : String) (page limit : UInt32)
    (unwanted other : String) :
    (Run.excluding catalog wanted unwanted page limit).calls =
      (Run.excluding catalog wanted other page limit).calls :=
  excluding_calls_congr (SameCourse.refl (catalog wanted)) limit other unwanted page page

theorem excluding_outcome_cases (catalog : Catalog) (wanted : String) (page limit : UInt32) :
    (∃ error, ∀ unwanted,
      (Run.excluding catalog wanted unwanted page limit).outcome = .error error) ∨
    ∀ unwanted, (Run.excluding catalog wanted unwanted page limit).outcome =
      .ok (paginate (survivors (catalog wanted) unwanted) page) := by
  by_cases hcomplete : Complete (catalog wanted) limit
  · exact .inr (fun unwanted => excluding_of_complete hcomplete unwanted page)
  · obtain ⟨error, hfailed⟩ := excluding_of_not_complete hcomplete
    exact .inl ⟨.unavailable error, fun unwanted => hfailed unwanted page⟩

theorem survivors_sublist {term other : String}
    (h : ∀ record, Mentions record other → Mentions record term) (ask : UInt32 → Answer) :
    (survivors ask term).Sublist (survivors ask other) := by
  rw [survivors, survivors]
  split
  · apply List.monotone_filter_right
    intro record hleft
    rw [decide_eq_true_eq] at hleft ⊢
    exact mt (h record) hleft
  · exact List.Sublist.refl []

theorem not_mentions_of_mem_survivors {ask : UInt32 → Answer} {unwanted : String} {record : Record}
    (h : record ∈ survivors ask unwanted) : ¬ Mentions record unwanted := by
  rw [survivors] at h
  split at h
  · simpa using (List.mem_filter.mp h).2
  · cases h

/-! ## Case -/

theorem mentions_lowercased_iff (record : Record) (term : String) :
    Mentions record (Text.lowercased term) ↔ Mentions record term := by
  rw [Mentions, Mentions, Text.toList_lowercased, Text.lower_lower]

theorem survivors_lowercased (ask : UInt32 → Answer) (unwanted : String) :
    survivors ask (Text.lowercased unwanted) = survivors ask unwanted := by
  rw [survivors, survivors]
  split
  · simp only [mentions_lowercased_iff]
  · rfl

theorem excluding_outcome_lowercased (catalog : Catalog) (wanted unwanted : String)
    (page limit : UInt32) :
    (Run.excluding catalog wanted (Text.lowercased unwanted) page limit).outcome =
      (Run.excluding catalog wanted unwanted page limit).outcome := by
  rcases excluding_outcome_cases catalog wanted page limit with ⟨error, hfailed⟩ | hfound
  · rw [hfailed, hfailed]
  · rw [hfound, hfound, survivors_lowercased]

/-- A keyword that excludes a term can be written with that term in lowercase, and the search for it
comes out the same and asks for the same. -/
theorem search_unwanted_lowercased {raw wanted unwanted : String}
    (h : Expression.parse raw = .ok (.excluding wanted unwanted)) (catalog : Catalog)
    (limit : UInt32) (page : String) :
    let written := wanted ++ "-" ++ Text.lowercased unwanted
    Expression.parse written = .ok (.excluding wanted (Text.lowercased unwanted)) ∧
      (search catalog limit written page).outcome = (search catalog limit raw page).outcome ∧
      (search catalog limit written page).calls = (search catalog limit raw page).calls := by
  intro written
  obtain ⟨hwanted, hunwanted, -⟩ := parts_of_parse h
  have hwritten : Expression.parse written = .ok (.excluding wanted (Text.lowercased unwanted)) :=
    parse_of_parts hwanted hunwanted.lowercased
  refine ⟨hwritten, ?_⟩
  by_cases hblank : IsBlank page
  · rw [search_of_incomplete catalog limit (.inr hblank),
      search_of_incomplete catalog limit (.inr hblank)]
    exact ⟨rfl, rfl⟩
  cases hpage : parsePage page with
  | error cause =>
      have hnumber : ∀ number, parsePage page ≠ .ok number := by simp [hpage]
      rw [search_of_invalidPage catalog limit (not_isBlank_of_parse hwritten) hblank hnumber,
        search_of_invalidPage catalog limit (not_isBlank_of_parse h) hblank hnumber]
      exact ⟨rfl, rfl⟩
  | ok number =>
      rw [search_of_accepted catalog limit hpage hwritten, search_of_accepted catalog limit hpage h]
      exact ⟨excluding_outcome_lowercased catalog wanted unwanted number limit,
        excluding_calls_eq catalog wanted number limit (Text.lowercased unwanted) unwanted⟩

/-- The last letter of `ΟΔΟΣ` is a final sigma in lowercase, and the one letter of `İ` becomes
two. -/
theorem search_unwanted_lowercased_of_capitals :
    let catalog := Memory.catalog
      { books := fun _ => [{ title := "Η ΟΔΟΣ İ" }, { title := "Η ΟΔΟΣ" }] }
    Text.lowercased "ΟΔΟΣ İ" = "οδος i̇" ∧
      Expression.parse "java-ΟΔΟΣ İ" = .ok (.excluding "java" "ΟΔΟΣ İ") ∧
      Expression.parse "java-οδος i̇" = .ok (.excluding "java" "οδος i̇") ∧
      (search catalog defaultLimit "java-οδος i̇" "1").outcome =
        (search catalog defaultLimit "java-ΟΔΟΣ İ" "1").outcome := by
  intro catalog
  have hparse : Expression.parse "java-ΟΔΟΣ İ" = .ok (.excluding "java" "ΟΔΟΣ İ") := by
    decide +kernel
  have hform : Text.lowercased "ΟΔΟΣ İ" = "οδος i̇" := by decide +kernel
  obtain ⟨hwritten, houtcome, -⟩ := search_unwanted_lowercased hparse catalog defaultLimit "1"
  rw [hform] at hwritten houtcome
  exact ⟨hform, hparse, hwritten, houtcome⟩

/-! ## Longer terms -/

theorem Mentions.of_infix {record : Record} {short long : String}
    (hsettled : Text.Settled short.toList) (hin : short.toList <:+: long.toList)
    (h : Mentions record long) : Mentions record short := by
  have hlower := Text.lower_infix_lower hsettled hin
  exact h.imp hlower.trans hlower.trans

theorem totalPages_paginate_mono {few many : List Record} (h : few.length ≤ many.length)
    (page : UInt32) : (paginate few page).totalPages ≤ (paginate many page).totalPages := by
  rw [paginate_eq, paginate_eq, UInt32.le_iff_toNat_le, toNat_pageCount, toNat_pageCount]
  omega

/-- Excluding a longer text removes no more: what is left after excluding a text without capital
sigma is a part of what is left after excluding a text that it stands in. The two searches ask for
the same, and both fail by the same error or both succeed, the second with no fewer pages. -/
theorem excluding_longer_removes_no_more {short long : String} (hsigma : 'Σ' ∉ short.toList)
    (hin : short.toList <:+: long.toList) (catalog : Catalog) (wanted : String)
    (page limit : UInt32) :
    let left := survivors (catalog wanted)
    let run (unwanted : String) := Run.excluding catalog wanted unwanted page limit
    (left short).Sublist (left long) ∧ (run short).calls = (run long).calls ∧
      ((∃ error, (run short).outcome = .error error ∧ (run long).outcome = .error error) ∨
        (run short).outcome = .ok (paginate (left short) page) ∧
          (run long).outcome = .ok (paginate (left long) page) ∧
          (paginate (left short) page).totalPages ≤ (paginate (left long) page).totalPages) := by
  intro left run
  have hsettled : Text.Settled short.toList := Text.settledAfter_of_not_mem hsigma
  have hpart : (left short).Sublist (left long) :=
    survivors_sublist (fun _ => Mentions.of_infix hsettled hin) (catalog wanted)
  refine ⟨hpart, excluding_calls_eq catalog wanted page limit short long, ?_⟩
  rcases excluding_outcome_cases catalog wanted page limit with ⟨error, hfailed⟩ | hfound
  · exact .inl ⟨error, hfailed short, hfailed long⟩
  · exact .inr ⟨hfound short, hfound long, totalPages_paginate_mono hpart.length_le page⟩

/-- Without `java` neither of two books is left, without `javascript` one of them is. -/
theorem excluding_longer_removes_no_more_of_java :
    let java : Record := { title := "Java in Action" }
    let script : Record := { title := "JavaScript" }
    let catalog := Memory.catalog { books := fun _ => [java, script] }
    let left := survivors (catalog "code")
    'Σ' ∉ "java".toList ∧ "java".toList <:+: "javascript".toList ∧
      left "java" = [] ∧ left "javascript" = [java] ∧ (left "java").Sublist (left "javascript") ∧
      (Run.excluding catalog "code" "java" 1 defaultLimit).calls =
        (Run.excluding catalog "code" "javascript" 1 defaultLimit).calls := by
  intro java script catalog left
  have hsigma : 'Σ' ∉ "java".toList := by decide
  have hin : "java".toList <:+: "javascript".toList := by decide
  obtain ⟨hpart, hcalls, -⟩ :=
    excluding_longer_removes_no_more hsigma hin catalog "code" 1 defaultLimit
  exact ⟨hsigma, hin, by decide +kernel, by decide +kernel, hpart, hcalls⟩

/-! ## Terms held as they are written -/

/-- The title or the subtitle holds the term as it is written. -/
def Holds (record : Record) (term : String) : Prop :=
  term.toList <:+: record.title.toList ∨ term.toList <:+: record.subtitle.toList

instance (record : Record) (term : String) : Decidable (Holds record term) :=
  inferInstanceAs (Decidable (_ ∨ _))

/-- The terms that are mentioned wherever they are held are those that settle their sigmas. -/
theorem forall_mentions_iff {term : String} :
    (∀ record, Holds record term → Mentions record term) ↔ Text.Settled term.toList := by
  constructor
  · intro hmentioned
    apply Text.forall_lower_infix_iff.mp
    intro text hin
    have htext : (String.ofList text).toList = text := String.toList_ofList
    have hholds : Holds { title := String.ofList text } term := by
      rw [Holds, htext]
      exact .inl hin
    have hrecord := hmentioned _ hholds
    rw [Mentions, htext] at hrecord
    rcases hrecord with htitle | hsubtitle
    · exact htitle
    · have hempty : Text.lower term.toList = [] := List.infix_nil.mp hsubtitle
      rw [hempty]
      exact List.nil_infix
  · intro hsettled record hholds
    exact hholds.imp (Text.lower_infix_lower hsettled) (Text.lower_infix_lower hsettled)

def oneBook (record : Record) : Catalog := fun _ _ =>
  { result := .ok { total := 1, records := [record] } }

theorem pageCount_one : pageCount 1 = 1 := by decide

theorem excluding_oneBook {record : Record} {unwanted : String} (h : ¬ Mentions record unwanted)
    (wanted : String) {limit : UInt32} (hlimit : 1 ≤ limit) :
    (Run.excluding (oneBook record) wanted unwanted 1 limit).outcome =
      .ok (.ofRecords 1 [record]) := by
  let head : RemotePage := { total := 1, records := [record] }
  have hcount : head.pageCount = 1 := pageCount_one
  have hfirst : (oneBook record wanted 1).result = .ok head := rfl
  have hcomplete : Complete (oneBook record wanted) limit :=
    ⟨head, hfirst, hcount.symm ▸ hlimit, fun _ _ _ => ⟨head, rfl⟩⟩
  have hall : recordsThrough (oneBook record wanted) 1 = [record] := rfl
  have hleft : survivors (oneBook record wanted) unwanted = [record] := by
    rw [survivors_of_ok unwanted hfirst, withoutMentions_eq, hcount, hall]
    exact List.filter_cons_of_pos (decide_eq_true h)
  rw [excluding_of_complete hcomplete, hleft, paginate_eq, List.length_singleton, pageCount_one]
  rfl

/-- A term is mentioned by all records that hold it as it is written if and only if it settles the
form of each of its sigmas, as a term without capital sigma does. Then no record that is left holds
it; otherwise some book holds it and is found all the same. -/
theorem holding_removed_iff_settled (unwanted : String) :
    ('Σ' ∉ unwanted.toList → Text.Settled unwanted.toList) ∧
    ((∀ record, Holds record unwanted → record.mentions (Text.lower unwanted.toList) = true) ↔
      Text.Settled unwanted.toList) ∧
    (Text.Settled unwanted.toList → ∀ catalog wanted page limit found,
      (Run.excluding catalog wanted unwanted page limit).outcome = .ok found →
        found = paginate (survivors (catalog wanted) unwanted) page ∧
          ∀ record ∈ survivors (catalog wanted) unwanted, ¬ Holds record unwanted) ∧
    (¬ Text.Settled unwanted.toList → ∃ record, Holds record unwanted ∧
      ∀ wanted limit, 1 ≤ limit →
        (Run.excluding (oneBook record) wanted unwanted 1 limit).outcome =
          .ok (.ofRecords 1 [record])) := by
  refine ⟨Text.settledAfter_of_not_mem, ?_, ?_, ?_⟩
  · simp only [mentions_iff]
    exact forall_mentions_iff
  · intro hsettled catalog wanted page limit found hfound
    refine ⟨(excluding_eq_ok_iff.mp hfound).2, ?_⟩
    intro record hrecord hholds
    exact not_mentions_of_mem_survivors hrecord (forall_mentions_iff.mpr hsettled record hholds)
  · intro hopen
    obtain ⟨record, hrecord⟩ := not_forall.mp (mt forall_mentions_iff.mp hopen)
    obtain ⟨hholds, hkept⟩ := Classical.not_imp.mp hrecord
    exact ⟨record, hholds, fun wanted _ => excluding_oneBook hkept wanted⟩

/-- The sigma at the end of `ΟΔΟΣ` is at the end of a word, but in `ΟΔΟΣΗΜΑΝΣΗ` it is not. -/
theorem held_term_found :
    let record : Record := { title := "ΟΔΟΣΗΜΑΝΣΗ" }
    let catalog := Memory.catalog { books := fun _ => [record] }
    Holds record "ΟΔΟΣ" ∧ record.mentions (Text.lower "ΟΔΟΣ".toList) = false ∧
      record ∈ survivors (catalog "java") "ΟΔΟΣ" ∧
      (search catalog defaultLimit "java-ΟΔΟΣ" "1").outcome = .ok (.ofRecords 1 [record]) := by
  decide +kernel

end Search

end BookFinder
