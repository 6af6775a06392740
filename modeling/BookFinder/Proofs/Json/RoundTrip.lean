import BookFinder.Json.Printer
import BookFinder.Proofs.Json.Grammar
import Mathlib.Data.List.Basic

/-! # JSON reads what it writes

What the printer writes is in the grammar, blanks after the separators of arrays and objects
included, so that the reader gives back the value. -/

namespace BookFinder.Json

/-! ## Literals -/

theorem hex4_control {c : Char} (h : c.toNat < 0x20) :
    Hex4 ['0', '0', Text.lowerHexDigit (c.toNat / 16), Text.lowerHexDigit (c.toNat % 16)]
      c.toNat := by
  have hhigh := Text.hexValue_lowerHexDigit (n := c.toNat / 16) (by omega)
  have hlow := Text.hexValue_lowerHexDigit (n := c.toNat % 16) (by omega)
  have hvalue : ((0 * 16 + 0) * 16 + c.toNat / 16) * 16 + c.toNat % 16 = c.toNat := by omega
  have hdigits := Hex4.intro (show Text.hexValue '0' = some 0 by decide)
    (show Text.hexValue '0' = some 0 by decide) hhigh hlow
  rwa [hvalue] at hdigits

theorem spells_escapeChar (c : Char) : Spells (escapeChar c) c := by
  rw [escapeChar]
  split
  · rename_i hquote
    exact .letter (by rw [hquote]; decide)
  split
  · rename_i hslash
    exact .letter (by rw [hslash]; decide)
  split
  · exact .plain ‹_› ‹_› ‹_›
  split
  · rename_i hnewline
    exact .letter (by rw [hnewline]; decide)
  split
  · rename_i hreturn
    exact .letter (by rw [hreturn]; decide)
  split
  · rename_i htab
    exact .letter (by rw [htab]; decide)
  split
  · rename_i hback
    obtain rfl : c = '\x08' := Char.toNat_inj.mp hback
    exact .letter (by decide)
  split
  · rename_i hfeed
    obtain rfl : c = '\x0c' := Char.toNat_inj.mp hfeed
    exact .letter (by decide)
  · have hspells := Spells.unit (hex4_control (c := c) (by omega)) (.inl (by omega))
    rwa [Char.ofNat_toNat] at hspells

theorem writesString_quote (s : String) : WritesString (quote s.toList) s := by
  have hall (cs : List Char) : SpellsAll (cs.flatMap escapeChar) cs := by
    induction cs with
    | nil => exact .nil
    | cons c cs ih => exact .cons (spells_escapeChar c) ih
  have hstring := WritesString.intro (hall s.toList)
  rwa [String.ofList_toList] at hstring

theorem head?_renderNat {n : Nat} (h : n ≠ 0) : (Text.renderNat n).head? ≠ some '0' := by
  induction n using Nat.strongRecOn with
  | ind n ih =>
      rw [Text.renderNat]
      rcases Nat.lt_or_ge n 10 with hlt | hge
      · rw [Nat.toDigits_of_lt_base hlt]
        have hdigits : ∀ m : Fin 10, m.val ≠ 0 → [Nat.digitChar m].head? ≠ some '0' := by decide
        exact hdigits ⟨n, hlt⟩ h
      · rw [Nat.toDigits_of_base_le (by decide) hge,
          List.head?_append_of_ne_nil _ Nat.toDigits_ne_nil]
        exact ih (n / 10) (by omega) (by omega)

theorem isNumber_renderNat (n : Nat) : IsNumber (Text.renderNat n) := by
  have hwhole : IsWhole (Text.renderNat n) := by
    by_cases hzero : n = 0
    · rw [hzero]
      exact .zero
    · exact .digits ⟨Text.renderNat_ne_nil n, fun _ => Text.isDigit_of_mem_renderNat⟩
        (head?_renderNat hzero)
  have hunsigned := IsUnsigned.intro hwhole .none .none
  rw [List.append_nil, List.append_nil] at hunsigned
  exact .unsigned hunsigned

/-! ## Separators -/

/-- Texts with commas between them, and a gap after each comma. -/
def separated (gap : List Char) : List (List Char) → List Char
  | [] => []
  | [text] => text
  | text :: texts => text ++ ',' :: (gap ++ separated gap texts)

def memberText (gap : List Char) (name : String) (text : List Char) : List Char :=
  quote name.toList ++ ':' :: (gap ++ text)

theorem isGap_nil : IsGap [] := by
  intro c hc
  cases hc

theorem Writes.element {text : List Char} {value : Json} (h : Writes text value) :
    WritesElement text value := by
  have helement := WritesElement.intro isGap_nil h isGap_nil
  rwa [List.nil_append, List.append_nil] at helement

/-- Members whose names are all texts make an object. -/
theorem ofMembers_named {α : Type} (name : α → String) (value : α → Json) (members : List α) :
    ofMembers (members.map fun m => (some (name m), value m)) =
      object (members.map fun m => (name m, value m)) := by
  have hnames : (members.map fun m => (some (name m), value m)).mapM
      (fun member => member.1.map (·, member.2)) = some (members.map fun m => (name m, value m)) := by
    induction members with
    | nil => rfl
    | cons m members ih => simp only [List.map_cons, List.mapM_cons, ih]; rfl
  rw [ofMembers, hnames]

section Gap

variable {gap : List Char} (hgap : IsGap gap)

include hgap

theorem WritesElement.after_gap {text : List Char} {value : Json} (h : WritesElement text value) :
    WritesElement (gap ++ text) value := by
  obtain ⟨hbefore, h, hafter⟩ := h
  rw [← List.append_assoc, ← List.append_assoc]
  exact .intro (hgap.append hbefore) h hafter

theorem WritesItems.after_gap {text : List Char} {items : List Json} (h : WritesItems text items) :
    WritesItems (gap ++ text) items := by
  cases h with
  | last h => exact .last (h.after_gap hgap)
  | more h hrest =>
      rw [← List.append_assoc]
      exact .more (h.after_gap hgap) hrest

theorem WritesName.after_gap {text : List Char} {name : Option String} (h : WritesName text name) :
    WritesName (gap ++ text) name := by
  obtain ⟨hbefore, h, hafter⟩ := h
  rw [← List.append_assoc, ← List.append_assoc]
  exact .intro (hgap.append hbefore) h hafter

theorem WritesMembers.after_gap {text : List Char} {members : List (Option String × Json)}
    (h : WritesMembers text members) : WritesMembers (gap ++ text) members := by
  cases h with
  | last hname h =>
      rw [← List.append_assoc]
      exact .last (hname.after_gap hgap) h
  | more hname h hrest =>
      rw [← List.append_assoc]
      exact .more (hname.after_gap hgap) h hrest

theorem writesItems_separated {written : List (List Char × Json)} (hne : written ≠ [])
    (h : ∀ item ∈ written, Writes item.1 item.2) :
    WritesItems (separated gap (written.map Prod.fst)) (written.map Prod.snd) := by
  induction written with
  | nil => exact absurd rfl hne
  | cons item written ih =>
      have hitem := h item (by simp)
      cases written with
      | nil => exact .last hitem.element
      | cons next written =>
          have hrest := ih (by simp) (fun p hp => h p (by simp [hp]))
          exact .more hitem.element (hrest.after_gap hgap)

theorem writesMembers_separated {written : List (String × List Char × Json)} (hne : written ≠ [])
    (h : ∀ member ∈ written, Writes member.2.1 member.2.2) :
    WritesMembers (separated gap (written.map fun m => memberText gap m.1 m.2.1))
      (written.map fun m => (some m.1, m.2.2)) := by
  have hname (name : String) : WritesName (quote name.toList) (some name) := by
    have hquote := WritesName.intro isGap_nil (.text (writesString_quote name)) isGap_nil
    rwa [List.nil_append, List.append_nil] at hquote
  induction written with
  | nil => exact absurd rfl hne
  | cons member written ih =>
      have hmember := (h member (by simp)).element.after_gap hgap
      cases written with
      | nil => exact .last (hname member.1) hmember
      | cons next written =>
          have hrest := ih (by simp) (fun p hp => h p (by simp [hp]))
          have hmembers := WritesMembers.more (hname member.1) hmember (hrest.after_gap hgap)
          simpa only [List.map_cons, separated, memberText, List.append_assoc, List.cons_append]
            using hmembers

/-- The texts of items make the text of an array, gaps included. -/
theorem writes_array {written : List (List Char × Json)}
    (h : ∀ item ∈ written, Writes item.1 item.2) :
    Writes ('[' :: (separated gap (written.map Prod.fst) ++ [']']))
      (.array (written.map Prod.snd)) := by
  cases written with
  | nil => exact .noItems isGap_nil
  | cons item written => exact .array (writesItems_separated hgap (by simp) h)

theorem writes_object (written : List (String × List Char × Json))
    (h : ∀ member ∈ written, Writes member.2.1 member.2.2) :
    Writes ('\x7b' :: (separated gap (written.map fun m => memberText gap m.1 m.2.1) ++ ['\x7d']))
      (.object (written.map fun m => (m.1, m.2.2))) := by
  cases written with
  | nil => exact .noMembers isGap_nil
  | cons member written =>
      have hmembers := Writes.members (writesMembers_separated hgap (by simp) h)
      rwa [ofMembers_named] at hmembers

end Gap

/-! ## Compact text -/

/-- Values all of whose numbers are natural numbers. -/
inductive Natural : Json → Prop
  | null : Natural null
  | bool (b : Bool) : Natural (bool b)
  | number (n : Nat) : Natural (ofNat n)
  | string (s : String) : Natural (string s)
  | array {items : List Json} (h : ∀ item ∈ items, Natural item) : Natural (array items)
  | object {members : List (String × Json)} (h : ∀ member ∈ members, Natural member.2) :
      Natural (object members)

theorem natural_texts (fields : List (String × String)) :
    Natural (object (fields.map fun field => (field.1, string field.2))) := by
  apply Natural.object
  intro member hmember
  obtain ⟨field, -, rfl⟩ := List.mem_map.mp hmember
  exact .string field.2

theorem renderItems_eq (items : List Json) :
    renderItems items = separated [] (items.map renderChars) := by
  induction items with
  | nil => rfl
  | cons item items ih =>
      cases items with
      | nil => rfl
      | cons next items =>
          rw [renderItems, ih]
          · rfl
          · simp

theorem renderMembers_eq (members : List (String × Json)) :
    renderMembers members =
      separated [] (members.map fun m => memberText [] m.1 (renderChars m.2)) := by
  induction members with
  | nil => rfl
  | cons member members ih =>
      obtain ⟨name, value⟩ := member
      cases members with
      | nil => rfl
      | cons next members =>
          rw [renderMembers, ih]
          · simp [separated, memberText]
          · simp

/-- The compact text of a value writes it. -/
theorem writes_renderChars {value : Json} (h : Natural value) :
    Writes (renderChars value) value := by
  induction h with
  | null => exact .null
  | bool b =>
      cases b with
      | true => exact .yes
      | false => exact .no
  | number n =>
      have hrender : renderChars (ofNat n) = Text.renderNat n := String.toList_ofList
      rw [hrender]
      exact .number (isNumber_renderNat n)
  | string s => exact .literal (.text (writesString_quote s))
  | @array items h ih =>
      have hitems : ∀ item ∈ items.map fun item => (renderChars item, item),
          Writes item.1 item.2 := by
        intro item hitem
        obtain ⟨value, hvalue, rfl⟩ := List.mem_map.mp hitem
        exact ih value hvalue
      have hwrites := writes_array isGap_nil hitems
      simp only [List.map_map, Function.comp_def, List.map_id'] at hwrites
      rw [renderChars, renderItems_eq]
      exact hwrites
  | @object members h ih =>
      have hmembers : ∀ member ∈ members.map fun m => (m.1, renderChars m.2, m.2),
          Writes member.2.1 member.2.2 := by
        intro member hmember
        obtain ⟨m, hm, rfl⟩ := List.mem_map.mp hmember
        exact ih m hm
      have hwrites := writes_object isGap_nil _ hmembers
      simp only [List.map_map, Function.comp_def, List.map_id'] at hwrites
      rw [renderChars, renderMembers_eq]
      exact hwrites

theorem read_of_writes {text : List Char} {value : Json} (h : Writes text value) :
    read (String.ofList text) = some value := by
  rw [read_eq_some_iff, String.toList_ofList]
  exact h.element

theorem read_render {value : Json} (h : Natural value) : read (render value) = some value :=
  read_of_writes (writes_renderChars h)

end BookFinder.Json
