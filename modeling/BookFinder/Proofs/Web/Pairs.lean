import BookFinder.Proofs.Text.FormUrlencoded
import BookFinder.Proofs.Web.Effects
import Mathlib.Data.List.Induction

/-! # Arguments among other pairs

A query may hold any pairs of a key and a value. Those of the two arguments are picked out of them,
wherever they stand; the first argument that comes a second time is refused. -/

namespace BookFinder.Web

open Catalog Text

/-! ## Pairs of a query -/

def occurrences (argument : Argument) (pairs : List (String × String)) : Nat :=
  pairs.countP (·.1 = argument.name)

/-- The value of an argument; one that is missing is empty. -/
def valueOf (argument : Argument) (pairs : List (String × String)) : String :=
  (pairs.lookup argument.name).getD ""

def argumentPairs (pairs : List (String × String)) : List (String × String) :=
  pairs.filter fun pair => pair.1 = Argument.search.name ∨ pair.1 = Argument.page.name

/-- The argument is the first of which there is a second occurrence. -/
def RepeatedFirst (argument : Argument) (pairs : List (String × String)) : Prop :=
  ∃ before value after, pairs = before ++ (argument.name, value) :: after ∧
    occurrences argument before = 1 ∧ ∀ other, occurrences other before ≤ 1

def spelled (pairs : List (String × String)) : List (List Char × List Char) :=
  pairs.map fun pair => (pair.1.toList, pair.2.toList)

theorem exists_repeatedFirst {argument : Argument} {pairs : List (String × String)}
    (h : 1 < occurrences argument pairs) : ∃ first, RepeatedFirst first pairs := by
  induction pairs using List.reverseRecOn generalizing argument with
  | nil => simp [occurrences] at h
  | append_singleton before pair ih =>
      obtain ⟨key, value⟩ := pair
      by_cases hmore : ∃ other, 1 < occurrences other before
      · obtain ⟨other, hother⟩ := hmore
        obtain ⟨first, front, text, back, rfl, hcounts⟩ := ih hother
        exact ⟨first, front, text, back ++ [(key, value)], by simp, hcounts⟩
      · have hfew : ∀ other, occurrences other before ≤ 1 := by simpa using hmore
        have hcount : occurrences argument (before ++ [(key, value)]) =
            occurrences argument before + if key = argument.name then 1 else 0 := by
          simp [occurrences, List.countP_cons]
        have hkey : key = argument.name := by
          by_contra hne
          rw [hcount, if_neg hne] at h
          exact absurd h (Nat.not_lt.mpr (hfew argument))
        rw [hcount, if_pos hkey] at h
        have hone : occurrences argument before = 1 := by
          have := hfew argument
          omega
        exact ⟨argument, before, value, [], by rw [hkey], hone, hfew⟩

/-! ## Arguments that occur once -/

/-- Of a key that occurs once at most, the value is found in whatever order the pairs are. -/
theorem lookup_eq_some_iff_of_once {κ α : Type} [DecidableEq κ] {key : κ} {pairs : List (κ × α)}
    (h : pairs.countP (·.1 = key) ≤ 1) {value : α} :
    pairs.lookup key = some value ↔ (key, value) ∈ pairs := by
  induction pairs with
  | nil => simp
  | cons pair pairs ih =>
      obtain ⟨other, text⟩ := pair
      rw [List.lookup_cons, List.mem_cons]
      by_cases hkey : key = other
      · subst hkey
        have hnone : ∀ rest, (key, rest) ∉ pairs := by
          rw [List.countP_cons_of_pos (by simp)] at h
          have hzero : pairs.countP (·.1 = key) = 0 := by omega
          intro rest hrest
          simpa using List.countP_eq_zero.mp hzero _ hrest
        simp [hnone, eq_comm]
      · rw [List.countP_cons_of_neg (by simpa using Ne.symm hkey)] at h
        have hbeq : (key == other) = false := by simpa using hkey
        rw [hbeq]
        simp [ih h, hkey]

theorem givesArgument_valueOf {argument : Argument} {pairs : List (String × String)}
    (h : occurrences argument pairs ≤ 1) :
    GivesArgument (spelled pairs) argument (valueOf argument pairs) := by
  have hname {key : String} : key.toList ∈ [argument.name.toList] ↔ key = argument.name := by
    rw [List.mem_singleton, String.toList_inj]
  refine ⟨?_, ?_, ?_⟩
  · rw [spelled, List.countP_map]
    refine (Nat.le_of_eq (List.countP_congr ?_)).trans h
    intro pair _
    simp [String.toList_inj]
  · intro key text hmem hkey
    obtain ⟨⟨name, value⟩, hpair, heq⟩ := List.mem_map.mp hmem
    obtain ⟨rfl, rfl⟩ := Prod.mk.inj heq
    obtain rfl := hname.mp hkey
    rw [valueOf, (lookup_eq_some_iff_of_once h).mpr hpair, Option.getD_some]
  · intro hnone
    have hmissing : pairs.lookup argument.name = none := by
      rw [Option.eq_none_iff_forall_ne_some]
      intro value hvalue
      have hpair := (lookup_eq_some_iff_of_once h).mp hvalue
      exact hnone _ (List.mem_map_of_mem hpair) (hname.mpr rfl)
    rw [valueOf, hmissing, Option.getD_none]

/-- What the arguments are is decided by their own pairs, in whatever order these stand. -/
theorem occurrences_argumentPairs (argument : Argument) (pairs : List (String × String)) :
    occurrences argument (argumentPairs pairs) = occurrences argument pairs := by
  rw [occurrences, argumentPairs, List.countP_filter, occurrences]
  apply List.countP_congr
  intro pair _
  cases argument <;> simp +contextual

theorem mem_argumentPairs {argument : Argument} {value : String} {pairs : List (String × String)} :
    (argument.name, value) ∈ argumentPairs pairs ↔ (argument.name, value) ∈ pairs := by
  rw [argumentPairs, List.mem_filter]
  cases argument <;> simp

section Same

variable {pairs others : List (String × String)}
  (h : (argumentPairs others).Perm (argumentPairs pairs))

include h

theorem occurrences_congr (argument : Argument) :
    occurrences argument others = occurrences argument pairs := by
  rw [← occurrences_argumentPairs, ← occurrences_argumentPairs argument pairs]
  exact h.countP_eq _

theorem valueOf_congr {argument : Argument} (honce : occurrences argument pairs ≤ 1) :
    valueOf argument others = valueOf argument pairs := by
  have hother : occurrences argument others ≤ 1 := (occurrences_congr h argument).trans_le honce
  have hlookup : others.lookup argument.name = pairs.lookup argument.name := by
    ext value
    rw [lookup_eq_some_iff_of_once hother,
      lookup_eq_some_iff_of_once honce, ← mem_argumentPairs, h.mem_iff, mem_argumentPairs]
  rw [valueOf, hlookup, valueOf]

end Same

/-! ## Arguments that occur again -/

def foundOf (search page : Option (List Char)) : Argument → Option (List Char)
  | .search => search
  | .page => page

theorem name_inj {argument other : Argument} (h : argument.name = other.name) :
    argument = other := by
  revert h
  cases argument <;> cases other <;> decide

theorem occurrences_cons (argument : Argument) (key value : String)
    (pairs : List (String × String)) :
    occurrences argument ((key, value) :: pairs) =
      occurrences argument pairs + if key = argument.name then 1 else 0 := by
  simp [occurrences, List.countP_cons]

section Reading

variable {search page : Option (List Char)} {argument : Argument} {value : List Char}
  {pairs : List (List Char × List Char)}

theorem ofPairs_cons_of_found (h : foundOf search page argument ≠ none) :
    Arguments.ofPairs search page ((argument.name.toList, value) :: pairs) =
      .error (.repeated argument) := by
  have hkey : Argument.ofKey argument.name.toList = some argument := ofKey_eq_some_iff.mpr rfl
  rw [Arguments.ofPairs, hkey]
  cases argument with
  | search => exact if_pos (Option.isSome_iff_ne_none.mpr h)
  | page => exact if_pos (Option.isSome_iff_ne_none.mpr h)

theorem ofPairs_cons_of_missing (h : foundOf search page argument = none) :
    ∃ search' page', Arguments.ofPairs search page ((argument.name.toList, value) :: pairs) =
        Arguments.ofPairs search' page' pairs ∧
      ∀ other, foundOf search' page' other =
        if other = argument then some value else foundOf search page other := by
  have hkey : Argument.ofKey argument.name.toList = some argument := ofKey_eq_some_iff.mpr rfl
  rw [Arguments.ofPairs, hkey]
  cases argument with
  | search =>
      obtain rfl : search = none := h
      exact ⟨some value, page, rfl, fun other => by cases other <;> simp [foundOf]⟩
  | page =>
      obtain rfl : page = none := h
      exact ⟨search, some value, rfl, fun other => by cases other <;> simp [foundOf]⟩

theorem ofPairs_cons_of_other {key : List Char} (h : ∀ argument : Argument,
    key ≠ argument.name.toList) :
    Arguments.ofPairs search page ((key, value) :: pairs) =
      Arguments.ofPairs search page pairs := by
  have hkey : Argument.ofKey key = none := by
    rw [Option.eq_none_iff_forall_ne_some]
    exact fun argument hsome => h argument (ofKey_eq_some_iff.mp hsome)
  rw [Arguments.ofPairs, hkey]

/-- The pairs are read up to the first argument that has been found already. -/
theorem ofPairs_of_repeated {before : List (String × String)}
    (hfew : ∀ other, occurrences other before + (foundOf search page other).toList.length ≤ 1)
    (hone : occurrences argument before + (foundOf search page argument).toList.length = 1) :
    Arguments.ofPairs search page (spelled before ++ (argument.name.toList, value) :: pairs) =
      .error (.repeated argument) := by
  induction before generalizing search page with
  | nil =>
      refine ofPairs_cons_of_found ?_
      intro hnone
      simp [occurrences, hnone] at hone
  | cons pair before ih =>
      obtain ⟨key, text⟩ := pair
      rw [spelled, List.map_cons, List.cons_append]
      by_cases hkey : ∃ found : Argument, key = found.name
      · obtain ⟨found, rfl⟩ := hkey
        have hcount (other : Argument) : occurrences other ((found.name, text) :: before) =
            occurrences other before + if other = found then 1 else 0 := by
          rw [occurrences_cons]
          congr 1
          by_cases hother : other = found
          · rw [if_pos (congrArg Argument.name hother.symm), if_pos hother]
          · rw [if_neg (fun heq => hother (name_inj heq.symm)), if_neg hother]
        have hmissing : foundOf search page found = none := by
          have hroom := hfew found
          rw [hcount, if_pos rfl] at hroom
          rw [← Option.toList_eq_nil_iff, ← List.length_eq_zero_iff]
          omega
        obtain ⟨search', page', hread, hfound⟩ := ofPairs_cons_of_missing hmissing
        -- what moves from the pairs that are left to what has been found is counted all the same
        have hsum (other : Argument) :
            occurrences other before + (foundOf search' page' other).toList.length =
              occurrences other ((found.name, text) :: before) +
                (foundOf search page other).toList.length := by
          rw [hcount, hfound]
          by_cases hother : other = found
          · subst hother
            simp [hmissing]
          · simp [hother]
        rw [hread]
        exact ih (fun other => (hsum other).trans_le (hfew other)) ((hsum argument).trans hone)
      · have hcount (other : Argument) : occurrences other ((key, text) :: before) =
            occurrences other before := by
          rw [occurrences_cons, if_neg (fun heq => hkey ⟨other, heq⟩), Nat.add_zero]
        simp only [hcount] at hfew hone
        rw [ofPairs_cons_of_other]
        · exact ih hfew hone
        · intro other heq
          exact hkey ⟨other, String.toList_inj.mp heq⟩

end Reading

theorem RepeatedFirst.ofPairs_eq {argument : Argument} {pairs : List (String × String)}
    (h : RepeatedFirst argument pairs) :
    Arguments.ofPairs none none (spelled pairs) = .error (.repeated argument) := by
  obtain ⟨before, value, after, rfl, hone, hfew⟩ := h
  have hspelled : spelled (before ++ (argument.name, value) :: after) =
      spelled before ++ (argument.name.toList, value.toList) :: spelled after := by
    simp [spelled]
  have hnone (other : Argument) : foundOf none none other = none := by
    cases other <;> rfl
  rw [hspelled]
  exact ofPairs_of_repeated (fun other => by simpa [hnone] using hfew other)
    (by simpa [hnone] using hone)

theorem ofPairs_of_once {pairs : List (String × String)}
    (h : ∀ argument, occurrences argument pairs ≤ 1) :
    Arguments.ofPairs none none (spelled pairs) =
      .ok { search := valueOf .search pairs, page := valueOf .page pairs } :=
  ofPairs_eq_ok_iff.mpr ⟨givesArgument_valueOf (h .search), givesArgument_valueOf (h .page)⟩

/-! ## Requests -/

def pairsAddress (pairs : List (String × String)) : String :=
  String.ofList ('/' :: (booksSegment ++ '?' :: FormUrlencoded.encode (spelled pairs)))

theorem isQueryChar_of_isKept {c : Char} (h : FormUrlencoded.isKept c = true) :
    Target.isQueryChar c = true := by
  simp only [FormUrlencoded.isKept, Bool.or_eq_true, beq_iff_eq] at h
  rcases h with (((h | rfl) | rfl) | rfl) | rfl
  · exact isQueryChar_of_isAlphanum h
  all_goals decide

/-- The address is one, if it is short enough, and brings what is read of its pairs. -/
theorem respond_pairsAddress (find : String → String → Search.Run)
    {pairs : List (String × String)}
    (hlength : (Utf8.encode (pairsAddress pairs).toList).length ≤ Target.maxLength) :
    (Request.parse "GET" (pairsAddress pairs)).map (respond find) =
      some (replyToSearch find (Arguments.ofPairs none none (spelled pairs))).allowAnyOrigin := by
  have hquery : ∀ c ∈ FormUrlencoded.encode (spelled pairs), Target.isQueryChar c = true :=
    fun c hc => FormUrlencoded.encode_forall (fun _ => isQueryChar_of_isKept) (by decide)
      (by decide) (by decide) (by decide) hc
  have htarget : Target.parse (pairsAddress pairs) = some
      { path := '/' :: booksSegment, query := some (FormUrlencoded.encode (spelled pairs)) } := by
    rw [pairsAddress, parse_slash hlength]
    exact Target.ofPathAndQuery_query isPathChar_booksSegment (by simp) hquery
  have hroute : Route.ofPath ('/' :: booksSegment) = some .books := by
    rfl
  rw [parse_of_method Method.parse_get htarget, Option.map_some,
    respond_of_reading (.inl rfl) hroute]
  simp [Route.reply, Arguments.ofQuery, FormUrlencoded.decode_encode, Reply.forMethod]

/-- Of the pairs of a query only those of the two arguments count, and their order does not. If
neither of the arguments occurs more than once, the reply is what the search for their values comes
to, a missing one being empty. If one does, the reply names the first that does so, and nothing is
searched for. -/
theorem query_read_by_keys (catalog : Catalog) (limit : UInt32) {pairs : List (String × String)}
    (hlength : (Utf8.encode (pairsAddress pairs).toList).length ≤ Target.maxLength) :
    let find := Search.search catalog limit
    let answer (pairs : List (String × String)) :=
      (Request.parse "GET" (pairsAddress pairs)).map (respond find)
    ((∀ argument, occurrences argument pairs ≤ 1) →
      answer pairs =
        some (Reply.ofRun (find (valueOf .search pairs) (valueOf .page pairs))).allowAnyOrigin ∧
      ∀ others, (Utf8.encode (pairsAddress others).toList).length ≤ Target.maxLength →
        (argumentPairs others).Perm (argumentPairs pairs) → answer others = answer pairs) ∧
    ((∃ argument, 1 < occurrences argument pairs) → ∃ first, RepeatedFirst first pairs) ∧
    ∀ first, RepeatedFirst first pairs → ∃ reply, answer pairs = some reply ∧
      reply.status = 400 ∧
      reply.body = "Failed to deserialize query string: duplicate field \x60" ++ first.name ++
        "\x60" ∧
      reply.calls = [] := by
  intro find answer
  have hanswer {others : List (String × String)}
      (hother : (Utf8.encode (pairsAddress others).toList).length ≤ Target.maxLength)
      (honce : ∀ argument, occurrences argument others ≤ 1) :
      answer others = some
        (Reply.ofRun (find (valueOf .search others) (valueOf .page others))).allowAnyOrigin := by
    rw [show answer others = _ from respond_pairsAddress find hother, ofPairs_of_once honce,
      replyToSearch]
  refine ⟨?_, ?_, ?_⟩
  · intro honce
    refine ⟨hanswer hlength honce, ?_⟩
    intro others hother hsame
    have hotherOnce (argument : Argument) : occurrences argument others ≤ 1 :=
      (occurrences_congr hsame argument).trans_le (honce argument)
    rw [hanswer hother hotherOnce, hanswer hlength honce, valueOf_congr hsame (honce .search),
      valueOf_congr hsame (honce .page)]
  · rintro ⟨argument, hmore⟩
    exact exists_repeatedFirst hmore
  · intro first hfirst
    refine ⟨_, respond_pairsAddress find hlength, ?_⟩
    rw [hfirst.ofPairs_eq]
    exact ⟨rfl, rfl, rfl⟩

/-- The second page of twelve volumes less one, with other pairs around its arguments and without
them; and two arguments that both come twice, the page first. -/
theorem query_read_by_keys_of_volumes :
    let find := Search.search
      (Memory.catalog { books := fun series => (List.range 12).map (volume series) }) 100
    let answer (pairs : List (String × String)) :=
      (Request.parse "GET" (pairsAddress pairs)).map (respond find)
    let mixed := [("a&b", "=%"), ("page", "2"), ("search", "日本 -7"), ("a&b", "")]
    let twice := [("page", "1"), ("search", "日本"), ("page", "2"), ("search", "")]
    pairsAddress mixed = "/books?a%26b=%3D%25&page=2&search=%E6%97%A5%E6%9C%AC+-7&a%26b=" ∧
      answer mixed = answer [("search", "日本 -7"), ("page", "2")] ∧
      (answer mixed).map (fun reply => (reply.status, reply.calls)) =
        some (200, [⟨"日本 ", 1⟩, ⟨"日本 ", 2⟩]) ∧
      RepeatedFirst .page twice ∧ (answer twice).map (·.status) = some 400 := by
  intro find answer mixed twice
  have hmixed : (Utf8.encode (pairsAddress mixed).toList).length ≤ Target.maxLength := by
    decide +kernel
  have hplain : (Utf8.encode (pairsAddress [("search", "日本 -7"), ("page", "2")]).toList).length ≤
      Target.maxLength := by
    decide +kernel
  have htwice : (Utf8.encode (pairsAddress twice).toList).length ≤ Target.maxLength := by
    decide +kernel
  have honce : ∀ argument, occurrences argument mixed ≤ 1 := by
    intro argument
    cases argument <;> decide
  have hrepeated : RepeatedFirst .page twice := by
    refine ⟨[("page", "1"), ("search", "日本")], "2", [("search", "")], rfl, rfl, ?_⟩
    intro other
    cases other <;> decide
  obtain ⟨hanswer, hsame⟩ := (query_read_by_keys _ 100 hmixed).1 honce
  obtain ⟨reply, hreply, hstatus, -, -⟩ :=
    (query_read_by_keys _ 100 htwice).2.2 .page hrepeated
  refine ⟨by decide +kernel, (hsame _ hplain (by decide)).symm, ?_, hrepeated, ?_⟩
  · rw [show answer mixed = _ from hanswer]
    decide +kernel
  · rw [show answer twice = _ from hreply, Option.map_some, hstatus]

end BookFinder.Web
