import BookFinder.Proofs.Json.Literal

/-! # The grammar of JSON texts

Which texts write which values, with white space wherever it may stand. The reader takes a text
exactly if it writes a value, and gives that value. -/

namespace BookFinder.Json

/-! ## White space -/

def IsGap (cs : List Char) : Prop := ∀ c ∈ cs, isBlank c = true

theorem IsGap.skipBlank_append {gap : List Char} (h : IsGap gap) (cs : List Char) :
    skipBlank (gap ++ cs) = skipBlank cs :=
  List.dropWhile_append_of_pos h

theorem IsGap.append {before after : List Char} (hbefore : IsGap before) (hafter : IsGap after) :
    IsGap (before ++ after) :=
  fun c hc => (List.mem_append.mp hc).elim (hbefore c) (hafter c)

theorem skipBlank_cons {c : Char} (h : isBlank c = false) (cs : List Char) :
    skipBlank (c :: cs) = c :: cs := by
  rw [skipBlank, List.dropWhile_cons_of_neg]
  simp [h]

theorem IsGap.skipBlank_append_cons {gap : List Char} (h : IsGap gap) {c : Char}
    (hc : isBlank c = false) (cs : List Char) : skipBlank (gap ++ c :: cs) = c :: cs := by
  rw [h.skipBlank_append, skipBlank_cons hc]

theorem exists_gap {cs rest : List Char} (h : skipBlank cs = rest) :
    ∃ gap, IsGap gap ∧ cs = gap ++ rest := by
  refine ⟨cs.takeWhile isBlank, fun _ hc => List.mem_takeWhile_imp hc, ?_⟩
  rw [← h, skipBlank, List.takeWhile_append_dropWhile]

theorem skipBlank_skipBlank (cs : List Char) : skipBlank (skipBlank cs) = skipBlank cs := by
  obtain ⟨gap, hgap, hcs⟩ := exists_gap (Eq.refl (skipBlank cs))
  have hskip := hgap.skipBlank_append (skipBlank cs)
  rw [← hcs] at hskip
  exact hskip.symm

theorem readValue_skipBlank (fuel : Nat) (cs : List Char) :
    readValue fuel (skipBlank cs) = readValue fuel cs := by
  cases fuel with
  | zero => rfl
  | succ fuel => simp only [readValue, skipBlank_skipBlank]

theorem readItems_skipBlank (fuel : Nat) (cs : List Char) :
    readItems fuel (skipBlank cs) = readItems fuel cs := by
  cases fuel with
  | zero => rfl
  | succ fuel => simp only [readItems, readValue_skipBlank]

theorem readMembers_skipBlank (fuel : Nat) (cs : List Char) :
    readMembers fuel (skipBlank cs) = readMembers fuel cs := by
  cases fuel with
  | zero => rfl
  | succ fuel => simp only [readMembers, skipBlank_skipBlank]

/-! ## Values -/

/-- The name of a member, with white space around it. -/
inductive WritesName : List Char → Option String → Prop
  | intro {before text after : List Char} {name : Option String} (hbefore : IsGap before)
      (h : WritesLiteral text name) (hafter : IsGap after) :
      WritesName (before ++ text ++ after) name

mutual

/-- The texts of a value, without white space around them. -/
inductive Writes : List Char → Json → Prop
  | null : Writes ['n', 'u', 'l', 'l'] null
  | yes : Writes ['t', 'r', 'u', 'e'] (bool true)
  | no : Writes ['f', 'a', 'l', 's', 'e'] (bool false)
  | number {literal : List Char} (h : IsNumber literal) :
      Writes literal (number (String.ofList literal))
  | literal {text : List Char} {s : Option String} (h : WritesLiteral text s) :
      Writes text (ofText s)
  | noItems {gap : List Char} (h : IsGap gap) : Writes ('[' :: (gap ++ [']'])) (array [])
  | array {text : List Char} {items : List Json} (h : WritesItems text items) :
      Writes ('[' :: (text ++ [']'])) (array items)
  | noMembers {gap : List Char} (h : IsGap gap) :
      Writes ('\x7b' :: (gap ++ ['\x7d'])) (object [])
  | members {text : List Char} {members : List (Option String × Json)}
      (h : WritesMembers text members) :
      Writes ('\x7b' :: (text ++ ['\x7d'])) (ofMembers members)

/-- The texts of a value, with white space around them. -/
inductive WritesElement : List Char → Json → Prop
  | intro {before text after : List Char} {value : Json} (hbefore : IsGap before)
      (h : Writes text value) (hafter : IsGap after) :
      WritesElement (before ++ text ++ after) value

inductive WritesItems : List Char → List Json → Prop
  | last {text : List Char} {item : Json} (h : WritesElement text item) : WritesItems text [item]
  | more {text rest : List Char} {item : Json} {items : List Json} (h : WritesElement text item)
      (hrest : WritesItems rest items) : WritesItems (text ++ ',' :: rest) (item :: items)

inductive WritesMembers : List Char → List (Option String × Json) → Prop
  | last {head text : List Char} {name : Option String} {value : Json} (hname : WritesName head name)
      (h : WritesElement text value) : WritesMembers (head ++ ':' :: text) [(name, value)]
  | more {head text rest : List Char} {name : Option String} {value : Json}
      {members : List (Option String × Json)} (hname : WritesName head name)
      (h : WritesElement text value) (hrest : WritesMembers rest members) :
      WritesMembers (head ++ ':' :: (text ++ ',' :: rest)) ((name, value) :: members)

end

/-! ## What is written is read -/

theorem WritesName.skipBlank_eq {text : List Char} {name : Option String} (h : WritesName text name)
    (cs : List Char) : ∃ more, skipBlank (text ++ cs) = '"' :: more := by
  obtain ⟨hbefore, h, -⟩ := h
  obtain ⟨more, rfl⟩ := h.cons
  rw [List.append_assoc, List.append_assoc, List.cons_append,
    hbefore.skipBlank_append_cons (by decide)]
  exact ⟨_, rfl⟩

theorem endsNumber_cons {c : Char} (hdigit : c.isDigit = false)
    (hmark : c ≠ '.' ∧ c ≠ 'e' ∧ c ≠ 'E') (cs : List Char) : EndsNumber (c :: cs) := by
  intro d hd
  obtain rfl := Option.some.inj hd
  exact ⟨hdigit, hmark⟩

theorem IsGap.endsNumber_append {gap cs : List Char} (hgap : IsGap gap) (h : EndsNumber cs) :
    EndsNumber (gap ++ cs) := by
  cases gap with
  | nil => exact h
  | cons c gap =>
      have hblank : isBlank c = true := hgap c (by simp)
      simp only [isBlank, Bool.or_eq_true, beq_iff_eq] at hblank
      rcases hblank with ((rfl | rfl) | rfl) | rfl <;>
        exact endsNumber_cons (by decide) (by decide) _

/-- A text that is read as a value from the head of whatever it stands in, and that could not be
taken for the end of an array. -/
structure Reads (text : List Char) (value : Json) : Prop where
  head : ∃ c cs, text = c :: cs ∧ isBlank c = false ∧ c ≠ ']'
  value : ∀ (fuel : Nat) (cs : List Char), text.length ≤ fuel → EndsNumber cs →
    readValue fuel (text ++ cs) = some (value, cs)

/-- Likewise with white space around the value, some of which may be left after it. -/
structure ReadsElement (text : List Char) (value : Json) : Prop where
  head (cs : List Char) : ∃ c more, skipBlank (text ++ cs) = c :: more ∧ c ≠ ']'
  element : ∀ (fuel : Nat) (cs : List Char), text.length ≤ fuel → EndsNumber cs →
    ∃ gap, IsGap gap ∧ readValue fuel (text ++ cs) = some (value, gap ++ cs)

structure ReadsItems (text : List Char) (items : List Json) : Prop where
  head (cs : List Char) : ∃ c more, skipBlank (text ++ cs) = c :: more ∧ c ≠ ']'
  items : ∀ (fuel : Nat) (cs : List Char), text.length < fuel →
    readItems fuel (text ++ ']' :: cs) = some (items, cs)

structure ReadsMembers (text : List Char) (members : List (Option String × Json)) : Prop where
  head (cs : List Char) : ∃ more, skipBlank (text ++ cs) = '"' :: more
  members : ∀ (fuel : Nat) (cs : List Char), text.length < fuel →
    readMembers fuel (text ++ '\x7d' :: cs) = some (members, cs)

/-- The first character of a text leaves the reader with fuel. -/
theorem reads_cons {c : Char} {text : List Char} {value : Json} (hblank : isBlank c = false)
    (hclose : c ≠ ']')
    (h : ∀ (fuel : Nat) (cs : List Char), text.length ≤ fuel → EndsNumber cs →
      readValue (fuel + 1) (c :: (text ++ cs)) = some (value, cs)) :
    Reads (c :: text) value := by
  refine ⟨⟨c, text, rfl, hblank, hclose⟩, ?_⟩
  intro fuel cs hfuel hends
  rw [List.length_cons] at hfuel
  obtain ⟨fuel, rfl⟩ := Nat.exists_eq_succ_of_ne_zero (Nat.ne_zero_of_lt hfuel)
  exact h fuel cs (Nat.succ_le_succ_iff.mp hfuel) hends

theorem reads_number {literal : List Char} (h : IsNumber literal) :
    Reads literal (number (String.ofList literal)) := by
  obtain ⟨c, cs, rfl, hc⟩ := h.cons
  have hother {d : Char} (hdash : d ≠ '-') (hdigit : d.isDigit = false) : c ≠ d := by
    rintro rfl
    exact hc.elim hdash (by simp [hdigit])
  have hblank : isBlank c = false := by
    simp [isBlank, hother]
  apply reads_cons hblank (hother (by decide) (by decide))
  intro fuel rest _ hends
  have hread := h.readNumber_eq hends
  rw [List.cons_append] at hread
  rw [readValue, skipBlank_cons hblank]
  split
  case h_7 =>
    rw [hread]
    rfl
  all_goals
    rename_i heq
    exact absurd (List.cons.inj heq).1 (hother (by decide) (by decide))

theorem reads_literal {text : List Char} {s : Option String} (h : WritesLiteral text s) :
    Reads text (ofText s) := by
  obtain ⟨more, rfl⟩ := h.cons
  apply reads_cons (by decide) (by decide)
  intro fuel cs _ _
  simp only [readValue, skipBlank_cons (show isBlank '"' = false by decide), h.readLiteral_eq,
    Option.map_some]

theorem reads_noItems {gap : List Char} (h : IsGap gap) :
    Reads ('[' :: (gap ++ [']'])) (array []) := by
  apply reads_cons (by decide) (by decide)
  intro fuel cs _ _
  rw [List.append_assoc, List.singleton_append]
  simp only [readValue, skipBlank_cons (show isBlank '[' = false by decide),
    h.skipBlank_append_cons (show isBlank ']' = false by decide)]

theorem reads_array {text : List Char} {items : List Json} (h : ReadsItems text items) :
    Reads ('[' :: (text ++ [']'])) (array items) := by
  apply reads_cons (by decide) (by decide)
  intro fuel cs hfuel _
  rw [List.length_append, List.length_singleton] at hfuel
  have hitems := h.items fuel cs (by omega)
  rw [← readItems_skipBlank] at hitems
  obtain ⟨c, more, hskip, hclose⟩ := h.head (']' :: cs)
  rw [hskip] at hitems
  rw [List.append_assoc, List.singleton_append]
  simp only [readValue, skipBlank_cons (show isBlank '[' = false by decide), hskip]
  split
  · rename_i heq
    exact absurd (List.cons.inj heq).1 hclose
  · rw [hitems]
    rfl

theorem reads_noMembers {gap : List Char} (h : IsGap gap) :
    Reads ('\x7b' :: (gap ++ ['\x7d'])) (object []) := by
  apply reads_cons (by decide) (by decide)
  intro fuel cs _ _
  rw [List.append_assoc, List.singleton_append]
  simp only [readValue, skipBlank_cons (show isBlank '\x7b' = false by decide),
    h.skipBlank_append_cons (show isBlank '\x7d' = false by decide)]

theorem reads_members {text : List Char} {members : List (Option String × Json)}
    (h : ReadsMembers text members) : Reads ('\x7b' :: (text ++ ['\x7d'])) (ofMembers members) := by
  apply reads_cons (by decide) (by decide)
  intro fuel cs hfuel _
  rw [List.length_append, List.length_singleton] at hfuel
  have hmembers := h.members fuel cs (by omega)
  rw [← readMembers_skipBlank] at hmembers
  obtain ⟨more, hskip⟩ := h.head ('\x7d' :: cs)
  rw [hskip] at hmembers
  rw [List.append_assoc, List.singleton_append]
  simp only [readValue, skipBlank_cons (show isBlank '\x7b' = false by decide), hskip]
  exact congrArg (Option.map fun read => (ofMembers read.1, read.2)) hmembers

theorem Reads.element {before text after : List Char} {value : Json} (h : Reads text value)
    (hbefore : IsGap before) (hafter : IsGap after) :
    ReadsElement (before ++ text ++ after) value := by
  constructor
  · intro cs
    obtain ⟨c, more, rfl, hblank, hclose⟩ := h.head
    rw [List.append_assoc, List.append_assoc, List.cons_append,
      hbefore.skipBlank_append_cons hblank]
    exact ⟨c, _, rfl, hclose⟩
  · intro fuel cs hfuel hends
    simp only [List.length_append] at hfuel
    refine ⟨after, hafter, ?_⟩
    rw [List.append_assoc, List.append_assoc, ← readValue_skipBlank, hbefore.skipBlank_append,
      readValue_skipBlank]
    exact h.value fuel _ (by omega) (hafter.endsNumber_append hends)

section Member

variable {head cs after rest : List Char} {name : Option String} {value : Json} {fuel : Nat}
  (hname : WritesName head name) (hvalue : readValue fuel cs = some (value, after))

include hname hvalue

theorem readMembers_last (hskip : skipBlank after = '\x7d' :: rest) :
    readMembers (fuel + 1) (head ++ ':' :: cs) = some ([(name, value)], rest) := by
  obtain ⟨hbefore, hstring, hafter⟩ := hname
  obtain ⟨more, rfl⟩ := hstring.cons
  rw [List.append_assoc, List.append_assoc, List.cons_append]
  simp only [readMembers, hbefore.skipBlank_append_cons (show isBlank '"' = false by decide),
    hstring.readLiteral_eq, Option.bind_eq_bind, Option.bind_some,
    hafter.skipBlank_append_cons (show isBlank ':' = false by decide), hvalue, hskip]

theorem readMembers_more {more : List Char} {members : List (Option String × Json)}
    (hskip : skipBlank after = ',' :: more) (hrest : readMembers fuel more = some (members, rest)) :
    readMembers (fuel + 1) (head ++ ':' :: cs) = some ((name, value) :: members, rest) := by
  obtain ⟨hbefore, hstring, hafter⟩ := hname
  obtain ⟨more, rfl⟩ := hstring.cons
  rw [List.append_assoc, List.append_assoc, List.cons_append]
  simp only [readMembers, hbefore.skipBlank_append_cons (show isBlank '"' = false by decide),
    hstring.readLiteral_eq, Option.bind_eq_bind, Option.bind_some,
    hafter.skipBlank_append_cons (show isBlank ':' = false by decide), hvalue, hskip, hrest]

end Member

section Steps

variable {text rest : List Char} {value : Json} (h : ReadsElement text value)

include h

theorem readsItems_last : ReadsItems text [value] := by
  refine ⟨h.head, ?_⟩
  intro fuel cs hfuel
  obtain ⟨fuel, rfl⟩ := Nat.exists_eq_succ_of_ne_zero (Nat.ne_zero_of_lt hfuel)
  obtain ⟨gap, hgap, hread⟩ := h.element fuel (']' :: cs) (by omega)
    (endsNumber_cons (by decide) (by decide) cs)
  simp only [readItems, hread, Option.bind_eq_bind, Option.bind_some,
    hgap.skipBlank_append_cons (show isBlank ']' = false by decide)]

theorem readsItems_more {items : List Json} (hrest : ReadsItems rest items) :
    ReadsItems (text ++ ',' :: rest) (value :: items) := by
  refine ⟨fun cs => by rw [List.append_assoc]; exact h.head _, ?_⟩
  intro fuel cs hfuel
  obtain ⟨fuel, rfl⟩ := Nat.exists_eq_succ_of_ne_zero (Nat.ne_zero_of_lt hfuel)
  rw [List.length_append, List.length_cons] at hfuel
  obtain ⟨gap, hgap, hread⟩ := h.element fuel (',' :: (rest ++ ']' :: cs)) (by omega)
    (endsNumber_cons (by decide) (by decide) _)
  rw [List.append_assoc, List.cons_append]
  simp only [readItems, hread, Option.bind_eq_bind, Option.bind_some,
    hgap.skipBlank_append_cons (show isBlank ',' = false by decide),
    hrest.items fuel cs (by omega)]

variable {head : List Char} {name : Option String} (hname : WritesName head name)

include hname

theorem readsMembers_last : ReadsMembers (head ++ ':' :: text) [(name, value)] := by
  refine ⟨fun cs => by rw [List.append_assoc]; exact hname.skipBlank_eq _, ?_⟩
  intro fuel cs hfuel
  obtain ⟨fuel, rfl⟩ := Nat.exists_eq_succ_of_ne_zero (Nat.ne_zero_of_lt hfuel)
  rw [List.length_append, List.length_cons] at hfuel
  obtain ⟨gap, hgap, hread⟩ := h.element fuel ('\x7d' :: cs) (by omega)
    (endsNumber_cons (by decide) (by decide) cs)
  rw [List.append_assoc, List.cons_append]
  exact readMembers_last hname hread (hgap.skipBlank_append_cons (by decide) cs)

theorem readsMembers_more {members : List (Option String × Json)} (hrest : ReadsMembers rest members) :
    ReadsMembers (head ++ ':' :: (text ++ ',' :: rest)) ((name, value) :: members) := by
  refine ⟨fun cs => by rw [List.append_assoc]; exact hname.skipBlank_eq _, ?_⟩
  intro fuel cs hfuel
  obtain ⟨fuel, rfl⟩ := Nat.exists_eq_succ_of_ne_zero (Nat.ne_zero_of_lt hfuel)
  simp only [List.length_append, List.length_cons] at hfuel
  obtain ⟨gap, hgap, hread⟩ := h.element fuel (',' :: (rest ++ '\x7d' :: cs)) (by omega)
    (endsNumber_cons (by decide) (by decide) _)
  rw [List.append_assoc, List.cons_append, List.append_assoc, List.cons_append]
  exact readMembers_more hname hread (hgap.skipBlank_append_cons (by decide) _)
    (hrest.members fuel cs (by omega))

end Steps

mutual

theorem Writes.reads {text : List Char} {value : Json} (h : Writes text value) :
    Reads text value :=
  match h with
  | .null => reads_cons (by decide) (by decide) fun _ _ _ _ => rfl
  | .yes => reads_cons (by decide) (by decide) fun _ _ _ _ => rfl
  | .no => reads_cons (by decide) (by decide) fun _ _ _ _ => rfl
  | .number h => reads_number h
  | .literal h => reads_literal h
  | .noItems h => reads_noItems h
  | .array h => reads_array h.reads
  | .noMembers h => reads_noMembers h
  | .members h => reads_members h.reads

theorem WritesElement.reads {text : List Char} {value : Json} (h : WritesElement text value) :
    ReadsElement text value :=
  match h with
  | .intro hbefore h hafter => h.reads.element hbefore hafter

theorem WritesItems.reads {text : List Char} {items : List Json} (h : WritesItems text items) :
    ReadsItems text items :=
  match h with
  | .last h => readsItems_last h.reads
  | .more h hrest => readsItems_more h.reads hrest.reads

theorem WritesMembers.reads {text : List Char} {members : List (Option String × Json)}
    (h : WritesMembers text members) : ReadsMembers text members :=
  match h with
  | .last hname h => readsMembers_last h.reads hname
  | .more hname h hrest => readsMembers_more h.reads hname hrest.reads

end

/-! ## What is read is written -/

/-- Whatever the readers take with some fuel is in the grammar. -/
structure Sound (fuel : Nat) : Prop where
  value {cs rest : List Char} {value : Json} : readValue fuel cs = some (value, rest) →
    ∃ gap text, cs = gap ++ (text ++ rest) ∧ IsGap gap ∧ Writes text value
  items {cs rest : List Char} {items : List Json} : readItems fuel cs = some (items, rest) →
    ∃ text, cs = text ++ ']' :: rest ∧ WritesItems text items
  members {cs rest : List Char} {members : List (Option String × Json)} :
    readMembers fuel cs = some (members, rest) →
    ∃ text, cs = text ++ '\x7d' :: rest ∧ WritesMembers text members

theorem writes_of_readWord {word : String} {written value : Json} {cs rest : List Char}
    (h : readWord word written cs = some (value, rest)) :
    cs = word.toList ++ rest ∧ value = written := by
  rw [readWord] at h
  split at h
  · rename_i hprefix
    obtain ⟨rfl, rfl⟩ := Prod.mk.inj (Option.some.inj h)
    obtain ⟨more, rfl⟩ := List.isPrefixOf_iff_prefix.mp hprefix
    rw [← String.length_toList, List.drop_left]
    exact ⟨rfl, rfl⟩
  · cases h

theorem number_of_readNumber {cs rest : List Char} {value : Json}
    (h : (readNumber cs).map (fun (literal, rest) => (number (String.ofList literal), rest)) =
      some (value, rest)) : ∃ text, cs = text ++ rest ∧ Writes text value := by
  obtain ⟨⟨literal, rest'⟩, hread, heq⟩ := Option.map_eq_some_iff.mp h
  obtain ⟨rfl, rfl⟩ := Prod.mk.inj heq
  obtain ⟨rfl, hnumber⟩ := isNumber_of_readNumber hread
  exact ⟨literal, rfl, .number hnumber⟩

section Step

variable {fuel : Nat} (sound : Sound fuel) {cs rest : List Char}

include sound

theorem sound_value {value : Json} (h : readValue (fuel + 1) cs = some (value, rest)) :
    ∃ gap text, cs = gap ++ (text ++ rest) ∧ IsGap gap ∧ Writes text value := by
  rw [readValue] at h
  obtain ⟨gap, hgap, hcs⟩ := exists_gap (Eq.refl (skipBlank cs))
  generalize skipBlank cs = head at h hcs
  subst hcs
  refine ⟨gap, ?_⟩
  -- one case for each character that a value may begin with, a number last
  split at h
  · split at h
    · rename_i hskip
      obtain ⟨inner, hinner, rfl⟩ := exists_gap hskip
      obtain ⟨rfl, rfl⟩ := Prod.mk.inj (Option.some.inj h)
      exact ⟨_, by simp, hgap, .noMembers hinner⟩
    · rw [readMembers_skipBlank] at h
      obtain ⟨⟨members, rest'⟩, hread, heq⟩ := Option.map_eq_some_iff.mp h
      obtain ⟨rfl, rfl⟩ := Prod.mk.inj heq
      obtain ⟨text, rfl, htext⟩ := sound.members hread
      exact ⟨_, by simp, hgap, .members htext⟩
  · split at h
    · rename_i hskip
      obtain ⟨inner, hinner, rfl⟩ := exists_gap hskip
      obtain ⟨rfl, rfl⟩ := Prod.mk.inj (Option.some.inj h)
      exact ⟨_, by simp, hgap, .noItems hinner⟩
    · rw [readItems_skipBlank] at h
      obtain ⟨⟨items, rest'⟩, hread, heq⟩ := Option.map_eq_some_iff.mp h
      obtain ⟨rfl, rfl⟩ := Prod.mk.inj heq
      obtain ⟨text, rfl, htext⟩ := sound.items hread
      exact ⟨_, by simp, hgap, .array htext⟩
  · obtain ⟨⟨s, rest'⟩, hread, heq⟩ := Option.map_eq_some_iff.mp h
    obtain ⟨rfl, rfl⟩ := Prod.mk.inj heq
    obtain ⟨text, rfl, htext⟩ := writesLiteral_of_readLiteral hread
    exact ⟨'"' :: text, rfl, hgap, .literal htext⟩
  · obtain ⟨hword, rfl⟩ := writes_of_readWord h
    exact ⟨_, by rw [hword]; rfl, hgap, .yes⟩
  · obtain ⟨hword, rfl⟩ := writes_of_readWord h
    exact ⟨_, by rw [hword]; rfl, hgap, .no⟩
  · obtain ⟨hword, rfl⟩ := writes_of_readWord h
    exact ⟨_, by rw [hword]; rfl, hgap, .null⟩
  · obtain ⟨text, hcs, htext⟩ := number_of_readNumber h
    exact ⟨text, by rw [hcs], hgap, htext⟩

theorem sound_items {items : List Json} (h : readItems (fuel + 1) cs = some (items, rest)) :
    ∃ text, cs = text ++ ']' :: rest ∧ WritesItems text items := by
  rw [readItems] at h
  obtain ⟨⟨item, more⟩, hitem, hmore⟩ := Option.bind_eq_some_iff.mp h
  obtain ⟨before, text, rfl, hbefore, htext⟩ := sound.value hitem
  simp only at hmore
  split at hmore
  · rename_i hskip
    obtain ⟨after, hafter, rfl⟩ := exists_gap hskip
    obtain ⟨⟨others, rest'⟩, hothers, heq⟩ := Option.bind_eq_some_iff.mp hmore
    obtain ⟨rfl, rfl⟩ := Prod.mk.inj (Option.some.inj heq)
    obtain ⟨textRest, rfl, htextRest⟩ := sound.items hothers
    exact ⟨_, by simp, .more (.intro hbefore htext hafter) htextRest⟩
  · rename_i hskip
    obtain ⟨after, hafter, rfl⟩ := exists_gap hskip
    obtain ⟨rfl, rfl⟩ := Prod.mk.inj (Option.some.inj hmore)
    exact ⟨_, by simp, .last (.intro hbefore htext hafter)⟩
  · cases hmore

theorem sound_members {members : List (Option String × Json)}
    (h : readMembers (fuel + 1) cs = some (members, rest)) :
    ∃ text, cs = text ++ '\x7d' :: rest ∧ WritesMembers text members := by
  rw [readMembers] at h
  split at h
  · rename_i hskip
    obtain ⟨before, hbefore, rfl⟩ := exists_gap hskip
    obtain ⟨⟨name, afterName⟩, hread, hname⟩ := Option.bind_eq_some_iff.mp h
    obtain ⟨quoted, rfl, hquoted⟩ := writesLiteral_of_readLiteral hread
    simp only at hname
    split at hname
    · rename_i hskip
      obtain ⟨after, hafter, rfl⟩ := exists_gap hskip
      obtain ⟨⟨value, more⟩, hvalue, hmore⟩ := Option.bind_eq_some_iff.mp hname
      obtain ⟨gap, text, rfl, hgap, htext⟩ := sound.value hvalue
      simp only at hmore
      split at hmore
      · rename_i hskip
        obtain ⟨end', hend, rfl⟩ := exists_gap hskip
        obtain ⟨⟨others, rest'⟩, hothers, heq⟩ := Option.bind_eq_some_iff.mp hmore
        obtain ⟨rfl, rfl⟩ := Prod.mk.inj (Option.some.inj heq)
        obtain ⟨textRest, rfl, htextRest⟩ := sound.members hothers
        exact ⟨_, by simp,
          .more (.intro hbefore hquoted hafter) (.intro hgap htext hend) htextRest⟩
      · rename_i hskip
        obtain ⟨end', hend, rfl⟩ := exists_gap hskip
        obtain ⟨rfl, rfl⟩ := Prod.mk.inj (Option.some.inj hmore)
        exact ⟨_, by simp, .last (.intro hbefore hquoted hafter) (.intro hgap htext hend)⟩
      · cases hmore
    · cases hname
  · cases h

end Step

theorem sound (fuel : Nat) : Sound fuel := by
  induction fuel with
  | zero => exact ⟨nofun, nofun, nofun⟩
  | succ fuel ih => exact ⟨sound_value ih, sound_items ih, sound_members ih⟩

/-- Every text that writes a value is read as it, and no other text is read. -/
theorem read_eq_some_iff {text : String} {value : Json} :
    read text = some value ↔ WritesElement text.toList value := by
  rw [read, readChars]
  constructor
  · intro h
    split at h
    · rename_i hread
      split at h
      · rename_i hrest
        obtain rfl := Option.some.inj h
        obtain ⟨gap, text, htext, hgap, hwrites⟩ := (sound _).value hread
        obtain ⟨after, hafter, hrest⟩ := exists_gap (List.isEmpty_iff.mp hrest)
        rw [htext, hrest, List.append_nil, ← List.append_assoc]
        exact .intro hgap hwrites hafter
      · cases h
    · cases h
  · intro h
    have hends : EndsNumber [] := by
      simp [EndsNumber]
    obtain ⟨gap, hgap, hread⟩ := h.reads.element (text.toList.length + 1) [] (Nat.le_succ _) hends
    rw [List.append_nil] at hread
    have hskip : skipBlank (gap ++ []) = [] := hgap.skipBlank_append []
    rw [hread]
    simp only [hskip]
    rfl

end BookFinder.Json
