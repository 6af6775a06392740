/-! # Cutting a text into parts -/

namespace BookFinder.Text

/-- Cuts a text at every character that `separates`; the parts are one more than these. -/
def splitAt (separates : Char → Bool) : List Char → List (List Char)
  | [] => [[]]
  | c :: cs =>
    if separates c then [] :: splitAt separates cs
    else match splitAt separates cs with
      | [] => [[c]]
      | part :: parts => (c :: part) :: parts

def joinWith (separator : Char) : List (List Char) → List Char
  | [] => []
  | [part] => part
  | part :: parts => part ++ separator :: joinWith separator parts

/-- A run of characters ends where the next one does not go on with it. -/
theorem span_append {goesOn : Char → Bool} {run rest : List Char}
    (hrun : ∀ c ∈ run, goesOn c = true) (hends : ∀ c ∈ rest.head?, goesOn c = false) :
    (run ++ rest).takeWhile goesOn = run ∧ (run ++ rest).dropWhile goesOn = rest := by
  rw [List.takeWhile_append_of_pos hrun, List.dropWhile_append_of_pos hrun]
  cases rest with
  | nil => simp
  | cons c rest =>
    have hc := hends c rfl
    simp [hc]

theorem forall_mem_bne {d : Char} {cs : List Char} (h : d ∉ cs) : ∀ c ∈ cs, (c != d) = true := by
  intro c hc
  rw [bne_iff_ne]
  rintro rfl
  exact h hc

theorem span_bne_append {separator : Char} {front : List Char} (h : separator ∉ front)
    (rest : List Char) :
    (front ++ separator :: rest).takeWhile (· != separator) = front ∧
      (front ++ separator :: rest).dropWhile (· != separator) = separator :: rest :=
  span_append (forall_mem_bne h) (by simp)

theorem splitAt_ne_nil (separates : Char → Bool) (cs : List Char) : splitAt separates cs ≠ [] := by
  cases cs with
  | nil => simp [splitAt]
  | cons c cs =>
    rw [splitAt]
    split
    · simp
    · split <;> simp

theorem splitAt_append {separates : Char → Bool} {front : List Char}
    (h : ∀ c ∈ front, separates c = false) (cs : List Char) :
    splitAt separates (front ++ cs) = (splitAt separates cs).modifyHead (front ++ ·) := by
  obtain ⟨part, parts, hcs⟩ := List.exists_cons_of_ne_nil (splitAt_ne_nil separates cs)
  induction front with
  | nil => simp [hcs]
  | cons c front ih =>
    have hc : separates c = false := h c List.mem_cons_self
    have hrest := ih fun d hd => h d (List.mem_cons_of_mem c hd)
    rw [List.cons_append, splitAt, hrest, hcs]
    simp [hc]

theorem splitAt_eq_singleton {separates : Char → Bool} {cs : List Char}
    (h : ∀ c ∈ cs, separates c = false) : splitAt separates cs = [cs] := by
  have hwhole := splitAt_append h []
  rwa [List.append_nil, splitAt, List.modifyHead_cons, List.append_nil] at hwhole

/-- What stands on either side of a separator is cut on its own. -/
theorem splitAt_append_cons {separates : Char → Bool} {c : Char} (h : separates c = true)
    (front rest : List Char) :
    splitAt separates (front ++ c :: rest) = splitAt separates front ++ splitAt separates rest := by
  induction front with
  | nil => simp [splitAt, h]
  | cons d front ih =>
    rw [List.cons_append, splitAt, splitAt, ih]
    split
    · rfl
    · obtain ⟨part, parts, hfront⟩ := List.exists_cons_of_ne_nil (splitAt_ne_nil separates front)
      rw [hfront]
      rfl

/-- Parts without a separator are what their joined text is cut into. -/
theorem splitAt_joinWith {separator : Char} {parts : List (List Char)} (hne : parts ≠ [])
    (h : ∀ part ∈ parts, separator ∉ part) :
    splitAt (· == separator) (joinWith separator parts) = parts := by
  have hinside : ∀ part ∈ parts, ∀ c ∈ part, (c == separator) = false := by
    intro part hpart c hc
    rw [beq_eq_false_iff_ne]
    rintro rfl
    exact h part hpart hc
  induction parts with
  | nil => exact absurd rfl hne
  | cons part parts ih =>
    have hpart := hinside part List.mem_cons_self
    cases parts with
    | nil => rw [joinWith, splitAt_eq_singleton hpart]
    | cons next parts =>
      have hrest := ih (by simp) (fun p hp => h p (List.mem_cons_of_mem part hp))
        (fun p hp => hinside p (List.mem_cons_of_mem part hp))
      rw [joinWith, splitAt_append hpart, splitAt, hrest]
      · simp
      · simp

theorem joinWith_cons (separator : Char) (part : List Char) {parts : List (List Char)}
    (h : parts ≠ []) :
    joinWith separator (part :: parts) = part ++ separator :: joinWith separator parts := by
  cases parts with
  | nil => exact absurd rfl h
  | cons next parts => rfl

theorem joinWith_splitAt (separator : Char) (cs : List Char) :
    joinWith separator (splitAt (· == separator) cs) = cs := by
  induction cs with
  | nil => rfl
  | cons c cs ih =>
    rw [splitAt]
    split
    · rename_i hc
      rw [joinWith_cons separator [] (splitAt_ne_nil _ cs), ih, List.nil_append, beq_iff_eq.mp hc]
    · obtain ⟨part, parts, hcs⟩ := List.exists_cons_of_ne_nil (splitAt_ne_nil (· == separator) cs)
      rw [hcs] at ih ⊢
      cases parts with
      | nil => exact congrArg (c :: ·) ih
      | cons next parts => exact congrArg (c :: ·) ih

theorem not_mem_of_mem_splitAt {separator : Char} {cs part : List Char}
    (h : part ∈ splitAt (· == separator) cs) : separator ∉ part := by
  induction cs generalizing part with
  | nil => simp_all [splitAt]
  | cons c cs ih =>
    rw [splitAt] at h
    split at h
    · rcases List.mem_cons.mp h with rfl | h
      · exact List.not_mem_nil
      · exact ih h
    · rename_i hc
      obtain ⟨first, parts, hcs⟩ := List.exists_cons_of_ne_nil (splitAt_ne_nil (· == separator) cs)
      rw [hcs] at h ih
      rcases List.mem_cons.mp h with rfl | h
      · intro hmem
        rcases List.mem_cons.mp hmem with rfl | hmem
        · exact hc (beq_self_eq_true separator)
        · exact ih List.mem_cons_self hmem
      · exact ih (List.mem_cons_of_mem first h)

/-- A text is cut into the parts without a separator that make it up. -/
theorem splitAt_eq_iff {separator : Char} {cs : List Char} {parts : List (List Char)}
    (hne : parts ≠ []) :
    splitAt (· == separator) cs = parts ↔
      joinWith separator parts = cs ∧ ∀ part ∈ parts, separator ∉ part := by
  constructor
  · rintro rfl
    exact ⟨joinWith_splitAt separator cs, fun part => not_mem_of_mem_splitAt⟩
  · rintro ⟨rfl, h⟩
    exact splitAt_joinWith hne h

end BookFinder.Text
