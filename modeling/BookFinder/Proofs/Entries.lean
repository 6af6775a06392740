import Mathlib.Data.List.Forall2

/-! # Lists that are read entry by entry

A list of values is read by reading each of them. Of a list of named entries a reader takes those
that it knows by their names: one at most for each thing that it looks for, and a default where there
is none. -/

namespace BookFinder

theorem mapM_eq_some_iff {α β : Type} {read : α → Option β} {items : List α} {values : List β} :
    items.mapM read = some values ↔ List.Forall₂ (fun item value => read item = some value)
      items values := by
  induction items generalizing values with
  | nil =>
      rw [List.mapM_nil, List.forall₂_nil_left_iff]
      exact ⟨fun h => (Option.some.inj h).symm, fun h => h ▸ rfl⟩
  | cons item items ih =>
      rw [List.mapM_cons, List.forall₂_cons_left_iff]
      simp only [Option.bind_eq_bind, Option.bind_eq_some_iff, ih]
      constructor
      · rintro ⟨value, hvalue, rest, hrest, hvalues⟩
        exact ⟨value, rest, hvalue, hrest, (Option.some.inj hvalues).symm⟩
      · rintro ⟨value, rest, hvalue, hrest, rfl⟩
        exact ⟨value, hvalue, rest, hrest, rfl⟩

theorem mapM_map {α β : Type} {read : β → Option α} {write : α → β}
    (h : ∀ value, read (write value) = some value) (values : List α) :
    (values.map write).mapM read = some values := by
  rw [mapM_eq_some_iff, List.forall₂_map_left_iff, List.forall₂_same]
  exact fun value _ => h value

/-! ## Named entries -/

section Named

variable {κ β α : Type} [DecidableEq κ]

/-- The entries give `value` for what goes by `names`: at most one of them has such a name, and its
item stands for the value; without one it is the default. -/
structure Gives (names : List κ) (Stands : β → α → Prop) (default : α) (entries : List (κ × β))
    (value : α) : Prop where
  once : entries.countP (·.1 ∈ names) ≤ 1
  given (name : κ) (item : β) : (name, item) ∈ entries → name ∈ names → Stands item value
  missing : (∀ entry ∈ entries, entry.1 ∉ names) → value = default

variable {names : List κ} {Stands : β → α → Prop} {default value : α} {entries : List (κ × β)}

theorem gives_filter :
    Gives names Stands default (entries.filter (·.1 ∈ names)) value ↔
      Gives names Stands default entries value := by
  have hcount : (entries.filter (·.1 ∈ names)).countP (·.1 ∈ names) =
      entries.countP (·.1 ∈ names) := by
    rw [List.countP_filter]
    simp
  constructor
  · intro h
    refine ⟨hcount ▸ h.once, ?_, ?_⟩
    · intro name item hmem hname
      exact h.given name item (List.mem_filter.mpr ⟨hmem, decide_eq_true hname⟩) hname
    · intro hnone
      exact h.missing fun entry hentry => hnone entry (List.mem_of_mem_filter hentry)
  · intro h
    refine ⟨hcount ▸ h.once, ?_, ?_⟩
    · intro name item hmem
      exact h.given name item (List.mem_of_mem_filter hmem)
    · intro hnone
      refine h.missing ?_
      intro entry hentry hname
      exact hnone entry (List.mem_filter.mpr ⟨hentry, decide_eq_true hname⟩) hname

theorem gives_nil : Gives names Stands default [] value ↔ value = default := by
  refine ⟨fun h => h.missing (by simp), ?_⟩
  rintro rfl
  exact ⟨by simp, by simp, fun _ => rfl⟩

theorem gives_singleton {name : κ} (h : name ∈ names) (item : β) :
    Gives names Stands default [(name, item)] value ↔ Stands item value := by
  refine ⟨fun hgives => hgives.given name item (by simp) h, ?_⟩
  intro hstands
  refine ⟨List.countP_le_length, ?_, ?_⟩
  · intro other item' hmem _
    obtain ⟨-, rfl⟩ := Prod.mk.inj (List.mem_singleton.mp hmem)
    exact hstands
  · intro hnone
    exact absurd h (hnone (name, item) (by simp))

theorem not_gives_of_two {first second : κ} (hfirst : first ∈ names) (hsecond : second ∈ names)
    (item other : β) (entries : List (κ × β)) :
    ¬ Gives names Stands default ((first, item) :: (second, other) :: entries) value := by
  intro h
  have honce := h.once
  rw [List.countP_cons_of_pos (by simpa using hfirst),
    List.countP_cons_of_pos (by simpa using hsecond)] at honce
  omega

/-- The entries that have one of the names say what is given: with none of them it is the default,
and two are too many. -/
theorem gives_iff_filter :
    Gives names Stands default entries value ↔ match entries.filter (·.1 ∈ names) with
      | [] => value = default
      | [(_, item)] => Stands item value
      | _ => False := by
  have hnamed : ∀ entry ∈ entries.filter (·.1 ∈ names), entry.1 ∈ names := by
    intro entry hentry
    exact of_decide_eq_true (List.mem_filter.mp hentry).2
  rw [← gives_filter]
  cases hfound : entries.filter (·.1 ∈ names) with
  | nil => exact gives_nil
  | cons first found =>
      rw [hfound] at hnamed
      cases found with
      | nil => exact gives_singleton (hnamed first (by simp)) first.2
      | cons second found =>
          refine iff_of_false ?_ id
          exact not_gives_of_two (hnamed first (by simp)) (hnamed second (by simp)) first.2
            second.2 found

theorem gives_skip {name : κ} (h : name ∉ names) (item : β) (front rest : List (κ × β)) :
    Gives names Stands default (front ++ (name, item) :: rest) value ↔
      Gives names Stands default (front ++ rest) value := by
  rw [← gives_filter, List.filter_append, List.filter_cons_of_neg (by simpa using h),
    ← List.filter_append, gives_filter]

end Named

end BookFinder
