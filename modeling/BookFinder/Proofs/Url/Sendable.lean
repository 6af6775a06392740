import BookFinder.Network.Exchange
import BookFinder.Proofs.Url.Segments
import BookFinder.Proofs.Web.Target

/-! # URLs that can be sent

A URL that has been read holds nothing in its path and query that could not stand in a request, and
stays so when its path is extended. If its host can be sent, all that counts is its length. -/

namespace BookFinder

namespace Url

def IsHttp (url : Url) : Prop := url.scheme = "http".toList ∨ url.scheme = "https".toList

theorem IsHttp.isSpecial {url : Url} (h : url.IsHttp) : url.isSpecial = true := by
  rcases h with h | h
  · rw [Url.isSpecial, h]
    decide
  · rw [Url.isSpecial, h]
    decide

theorem isWeb_iff {url : Url} : url.isWeb = true ↔ url.IsHttp := by
  simp [isWeb, isSecure, IsHttp]

theorem isSecure_of_http {url : Url} (h : url.scheme = "http".toList) : url.isSecure = false := by
  rw [isSecure, h]
  decide

theorem isSecure_of_https {url : Url} (h : url.scheme = "https".toList) : url.isSecure = true := by
  rw [isSecure, h]
  decide

/-! ## Clean segments -/

open Web.Target (isPathChar isQueryChar)

theorem isPathChar_of_escapedInPath {c : Char} (h : escapedInPath c = false) :
    isPathChar c = true := by
  have hascii : ∀ n < 0x7F, escapedInPath (Char.ofNat n) = false →
      isPathChar (Char.ofNat n) = true := by
    decide
  have hlt : c.toNat < 0x7F := by
    simp [escapedInPath, escapedInFragment, isControl] at h
    omega
  have hchar := hascii c.toNat hlt
  rw [Char.ofNat_toNat] at hchar
  exact hchar h

theorem isQueryChar_of_escapedInQuery {special : Bool} {c : Char}
    (h : escapedInQuery special c = false) : isQueryChar c = true := by
  have hascii : ∀ n < 0x7F, escapedInQuery false (Char.ofNat n) = false →
      isQueryChar (Char.ofNat n) = true := by
    decide
  obtain ⟨hother, -⟩ := Bool.or_eq_false_iff.mp h
  have hlt : c.toNat < 0x7F := by
    simp [isControl] at hother
    omega
  have hchar := hascii c.toNat hlt
  rw [Char.ofNat_toNat] at hchar
  exact hchar (by rw [escapedInQuery, hother]; rfl)

/-- Segments in the characters of a path. -/
def CleanSegments (segments : List (List Char)) : Prop :=
  ∀ segment ∈ segments, ∀ c ∈ segment, isPathChar c = true

theorem isPathChar_of_mem_encode {escaped : Char → Bool} {cs : List Char}
    (h : ∀ c, escaped c = false → escapedInPath c = false) :
    ∀ c ∈ Text.Percent.encode escaped cs, isPathChar c = true := by
  intro c hc
  exact Text.Percent.encode_forall (P := fun d => isPathChar d = true) (by decide) (by decide)
    (fun d _ hd => isPathChar_of_escapedInPath (h d hd)) hc

section CleanSegments

variable {segments rest : List (List Char)} {file special : Bool}

theorem cleanSegments_nil : CleanSegments [] := by simp [CleanSegments]

theorem CleanSegments.cons {segment : List Char} (hsegment : ∀ c ∈ segment, isPathChar c = true)
    (h : CleanSegments segments) : CleanSegments (segment :: segments) :=
  List.forall_mem_cons.mpr ⟨hsegment, h⟩

theorem CleanSegments.reverse (h : CleanSegments segments) : CleanSegments segments.reverse :=
  fun segment hsegment => h segment (List.mem_reverse.mp hsegment)

theorem CleanSegments.append (h : CleanSegments segments) (hrest : CleanSegments rest) :
    CleanSegments (segments ++ rest) := by
  intro segment hsegment
  exact (List.mem_append.mp hsegment).elim (h segment) (hrest segment)

theorem CleanSegments.sublist (h : CleanSegments segments) (hsub : rest.Sublist segments) :
    CleanSegments rest :=
  fun segment hsegment => h segment (hsub.subset hsegment)

theorem CleanSegments.takeBack (h : CleanSegments segments) :
    CleanSegments (takeBack file segments) := by
  rw [Url.takeBack.eq_def]
  split
  · split
    · exact h
    · exact cleanSegments_nil
  · exact h.sublist (List.drop_sublist 1 _)

theorem CleanSegments.addPlain {segment : List Char}
    (hsegment : ∀ c ∈ segment, isPathChar c = true) (h : CleanSegments segments) :
    CleanSegments (addPlain file segments segment) := by
  rw [Url.addPlain]
  split
  · refine cleanSegments_nil.cons ?_
    intro c hc
    rcases List.mem_append.mp hc with hc | hc
    · exact hsegment c (List.mem_of_mem_take hc)
    · rw [List.mem_singleton.mp hc]
      decide
  · exact h.cons hsegment

theorem CleanSegments.resolveDots (h : CleanSegments segments) (hrest : CleanSegments rest) :
    CleanSegments (resolveDots file segments rest) := by
  have hempty : ∀ c ∈ ([] : List Char), isPathChar c = true := by simp
  fun_induction Url.resolveDots file segments rest with
  | case1 => exact h.reverse
  | case2 => exact (h.takeBack.cons hempty).reverse
  | case3 => exact (h.cons hempty).reverse
  | case4 => exact (h.addPlain (List.forall_mem_cons.mp hrest).1).reverse
  | case5 done segment rest _ _ ih => exact ih h.takeBack (List.forall_mem_cons.mp hrest).2
  | case6 done segment rest _ _ _ ih => exact ih h (List.forall_mem_cons.mp hrest).2
  | case7 done segment rest _ _ _ ih =>
      obtain ⟨hsegment, hothers⟩ := List.forall_mem_cons.mp hrest
      exact ih (h.addPlain hsegment) hothers

theorem CleanSegments.pushText (h : CleanSegments segments) (text : List Char) :
    CleanSegments (pushText special file segments text) := by
  have hsegment : ∀ c ∈ escapeSegment special text, isPathChar c = true := by
    refine isPathChar_of_mem_encode ?_
    intro c hc
    simp only [escapedInSegment, Bool.or_eq_false_iff] at hc
    exact hc.1.1.1
  have hone : CleanSegments [escapeSegment special text] := cleanSegments_nil.cons hsegment
  rw [Url.pushText]
  split
  · exact h
  simp only
  split
  · exact h.reverse.resolveDots hone
  · rw [appendSegment]
    split
    · exact hone
    · exact h.append hone

theorem CleanSegments.foldl_pushText (texts : List (List Char)) (h : CleanSegments segments) :
    CleanSegments (texts.foldl (Url.pushText special file) segments) := by
  induction texts generalizing segments with
  | nil => exact h
  | cons text texts ih => exact ih (h.pushText text)

end CleanSegments

/-! ## Clean URLs -/

/-- The path and the query can stand in a request as they are. -/
structure IsClean (url : Url) : Prop where
  path : ∃ list, url.path = .segments list ∧ CleanSegments list
  query : ∀ query ∈ url.query, ∀ c ∈ query, isQueryChar c = true

theorem IsClean.extendPath {url : Url} (h : url.IsClean) (texts : List (List Char)) :
    (url.extendPath texts).IsClean := by
  obtain ⟨⟨list, hpath, hlist⟩, hquery⟩ := h
  have hopen : CleanSegments (dropEmptyLast list) := by
    rw [dropEmptyLast]
    split
    · exact hlist.sublist (List.dropLast_sublist list)
    · exact hlist
  rw [Url.extendPath, hpath]
  exact ⟨⟨_, rfl, hopen.foldl_pushText texts⟩, hquery⟩

theorem cleanSegments_readSegments (special file : Bool) (cs : List Char) :
    CleanSegments (readSegments special file cs) := by
  refine cleanSegments_nil.resolveDots ?_
  intro segment hsegment
  obtain ⟨part, -, rfl⟩ := List.mem_map.mp hsegment
  exact isPathChar_of_mem_encode fun _ h => h

theorem clean_readPathAfterHost (special file : Bool) (cs : List Char) :
    ∃ list, readPathAfterHost special file cs = .segments list ∧ CleanSegments list := by
  cases cs with
  | nil =>
      refine ⟨_, rfl, ?_⟩
      cases special <;> simp [CleanSegments]
  | cons c rest => exact ⟨_, rfl, cleanSegments_readSegments special file _⟩

theorem isQueryChar_of_readTail {special : Bool} {cs query : List Char}
    (h : (readTail special cs).query = some query) : ∀ c ∈ query, isQueryChar c = true := by
  obtain ⟨text, -, rfl⟩ := Option.map_eq_some_iff.mp h
  intro c hc
  exact Text.Percent.encode_forall (P := fun d => isQueryChar d = true) (by decide) (by decide)
    (fun d _ hd => isQueryChar_of_escapedInQuery hd) hc

end Url

/-! ## Targets -/

namespace Web.Target

theorem splitScheme_append {scheme : List Char} (h : ∀ c ∈ scheme, isSchemeChar c = true)
    (rest : List Char) : splitScheme (scheme ++ ':' :: '/' :: '/' :: rest) = some (scheme, rest) := by
  have hends : ∀ c ∈ (':' :: '/' :: '/' :: rest).head?, isSchemeChar c = false := by
    rintro c ⟨⟩
    decide
  simp only [splitScheme, (Text.span_append h hends).1, List.drop_left]

/-- Of an absolute target all of whose parts are well written only the length counts. -/
theorem isSome_parse_iff {scheme name tail : List Char}
    (hscheme : ∀ c ∈ scheme, isSchemeChar c = true) (hfirst : scheme ≠ [])
    (hlength : scheme.length ≤ maxSchemeLength) (hname : isHost name = true) (hne : name ≠ [])
    (hends : ∀ c ∈ name, endsHost c = false) (htail : (ofPathAndQuery tail).isSome = true)
    (hhead : ∀ c ∈ tail.head?, endsHost c = true) :
    let cs := scheme ++ ':' :: '/' :: '/' :: (name ++ tail)
    (parse (String.ofList cs)).isSome = true ↔ (Text.Utf8.encode cs).length ≤ maxLength := by
  intro cs
  have hinside : ∀ c ∈ name, (!endsHost c) = true := fun c hc => by simp [hends c hc]
  have houtside : ∀ c ∈ tail.head?, (!endsHost c) = false := fun c hc => by simp [hhead c hc]
  have htake := (Text.span_append hinside houtside).1
  have hrest : (maxSchemeLength < scheme.length || name.isEmpty || !isHost name) = false := by
    simp [Nat.not_lt.mpr hlength, hne, hname]
  obtain ⟨first, more, rfl⟩ := List.exists_cons_of_ne_nil hfirst
  have hchar := hscheme first List.mem_cons_self
  rw [parse, String.toList_ofList]
  by_cases hlong : maxLength < (Text.Utf8.encode cs).length
  · rw [if_pos hlong]
    simp [hlong]
  rw [if_neg hlong]
  refine iff_of_true ?_ (Nat.not_lt.mp hlong)
  simp only [cs, splitScheme_append hscheme, htake, hrest, List.drop_left]
  split
  · rename_i heq
    simp at heq
  · rename_i heq
    simp at heq
  · rename_i heq
    obtain rfl := (List.cons.inj heq).1
    exact absurd hchar (by decide)
  · exact htail

end Web.Target

namespace Url

theorem CleanSegments.render {segments : List (List Char)} (h : CleanSegments segments) :
    ∀ c ∈ (Path.segments segments).render, Web.Target.isPathChar c = true := by
  intro c hc
  obtain ⟨segment, hsegment, hc⟩ := List.mem_flatMap.mp hc
  rcases List.mem_cons.mp hc with rfl | hc
  · decide
  · exact h segment hsegment c hc

theorem renderQuery_eq (url : Url) : url.renderQuery = url.query.elim [] ('?' :: ·) := by
  rw [renderQuery]
  cases url.query <;> rfl

theorem renderFragment_eq (url : Url) : url.renderFragment = url.fragment.elim [] ('#' :: ·) := by
  rw [renderFragment]
  cases url.fragment <;> rfl

/-- What comes after the host of a clean URL can be read as a path and a query. -/
theorem IsClean.tail {url : Url} (h : url.IsClean) :
    let tail := url.path.render ++ url.renderQuery ++ url.renderFragment
    (Web.Target.ofPathAndQuery tail).isSome = true ∧
      ∀ c ∈ tail.head?, Web.Target.endsHost c = true := by
  obtain ⟨⟨list, hpath, hlist⟩, hquery⟩ := h
  rw [hpath, renderQuery_eq, renderFragment_eq]
  constructor
  · rw [Web.Target.ofPathAndQuery_eq hlist.render hquery]
    rfl
  · cases list with
    | cons segment rest =>
        rintro c ⟨⟩
        decide
    | nil =>
        cases url.query with
        | some query =>
            rintro c ⟨⟩
            decide
        | none =>
            cases url.fragment with
            | some fragment =>
                rintro c ⟨⟩
                decide
            | none => nofun

end Url

namespace Network.Sender

open Web.Target

def authority (url : Url) (host : Url.Host) : List Char :=
  url.renderUserInfo ++ host.render ++ url.renderTcpPort

/-- If the host can be sent, a URL can be sent exactly if it is short enough. -/
theorem isSendable_iff {url : Url} {host : Url.Host} (hhttp : url.IsHttp)
    (hclean : url.IsClean) (hhost : url.host = some host)
    (hname : isHost (authority url host) = true) (hne : authority url host ≠ [])
    (hends : ∀ c ∈ authority url host, endsHost c = false) :
    isSendable url = true ↔ (Text.Utf8.encode url.render).length ≤ maxLength := by
  have hscheme : url.scheme.all isSchemeChar = true ∧ url.scheme ≠ [] ∧
      url.scheme.length ≤ maxSchemeLength := by
    rcases hhttp with h | h <;> rw [h] <;> decide
  let tail := url.path.render ++ url.renderQuery ++ url.renderFragment
  have hrender : url.render = url.scheme ++ ':' :: '/' :: '/' :: (authority url host ++ tail) := by
    rw [Url.render, Url.renderAuthority, hhost]
    simp [authority, tail]
  obtain ⟨htail, hhead⟩ := hclean.tail
  rw [isSendable, hrender]
  exact isSome_parse_iff (List.all_eq_true.mp hscheme.1) hscheme.2.1 hscheme.2.2 hname hne hends
    htail hhead

end Network.Sender

end BookFinder
