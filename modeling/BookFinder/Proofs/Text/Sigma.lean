import BookFinder.Proofs.Text.Lowercase
import Mathlib.Data.List.Infix

/-! # Sigmas at the end of a word

What a text becomes in lowercase does not depend on what stands around it, but for the capital
sigma, whose form is decided on both sides of it. A text that settles the form of each of its sigmas
by itself becomes the same wherever it stands, and no other text does. -/

namespace BookFinder.Text

/-! ## A text inside another -/

def lowerBetween (before after : List Char) : List Char → List Char
  | [] => []
  | c :: cs =>
    (if c = 'Σ' then [lowerSigma before (cs ++ after)] else lowerChar c) ++
      lowerBetween (c :: before) after cs

theorem lowerAfter_append (before cs after : List Char) :
    lowerAfter before (cs ++ after) =
      lowerBetween before after cs ++ lowerAfter (cs.reverse ++ before) after := by
  induction cs generalizing before with
  | nil => rfl
  | cons c cs ih =>
      rw [List.cons_append, lowerAfter, ih, lowerBetween, List.append_assoc, List.reverse_cons,
        List.append_assoc, List.singleton_append]

theorem lowerBetween_nil (before cs : List Char) :
    lowerBetween before [] cs = lowerAfter before cs := by
  have happend := lowerAfter_append before cs []
  rw [List.append_nil, lowerAfter, List.append_nil] at happend
  exact happend.symm

theorem length_lowerBetween (before after cs : List Char) :
    (lowerBetween before after cs).length = (lower cs).length := by
  suffices hany : ∀ other, (lowerBetween before after cs).length = (lowerAfter other cs).length from
    hany []
  induction cs generalizing before with
  | nil => exact fun _ => rfl
  | cons c cs ih =>
      intro other
      rw [lowerBetween, lowerAfter, List.length_append, List.length_append, ih _ (c :: other)]
      split <;> rfl

/-- The form of a sigma between `before`, given backwards, and `after` cannot be changed by what
stands further off: if these are all case-ignorable on one side, the other side decides alone. -/
structure SigmaSettled (before after : List Char) : Prop where
  cased_after : (∀ c ∈ before, isCaseIgnorable c = true) → startsCased after = true
  not_cased_before : (∀ c ∈ after, isCaseIgnorable c = true) → startsCased before = false

instance (before after : List Char) : Decidable (SigmaSettled before after) :=
  decidable_of_iff
    ((before.all isCaseIgnorable = true → startsCased after = true) ∧
      (after.all isCaseIgnorable = true → startsCased before = false))
    (by
      rw [List.all_eq_true, List.all_eq_true]
      exact ⟨fun h => ⟨h.1, h.2⟩, fun h => ⟨h.1, h.2⟩⟩)

/-- A text after `before`, given backwards, settles each of its sigmas. -/
def SettledAfter (before : List Char) : List Char → Prop
  | [] => True
  | c :: cs => (c = 'Σ' → SigmaSettled before cs) ∧ SettledAfter (c :: before) cs

/-- The text settles the form of each of its capital sigmas by itself. -/
def Settled (cs : List Char) : Prop := SettledAfter [] cs

instance SettledAfter.decidable : (before cs : List Char) → Decidable (SettledAfter before cs)
  | _, [] => .isTrue trivial
  | before, c :: cs =>
    have := SettledAfter.decidable (c :: before) cs
    inferInstanceAs (Decidable ((c = 'Σ' → SigmaSettled before cs) ∧ SettledAfter (c :: before) cs))

instance (cs : List Char) : Decidable (Settled cs) := SettledAfter.decidable [] cs

theorem settledAfter_of_not_mem {before cs : List Char} (h : 'Σ' ∉ cs) :
    SettledAfter before cs := by
  induction cs generalizing before with
  | nil => exact trivial
  | cons c cs ih =>
      rw [List.mem_cons, not_or] at h
      exact ⟨fun hc => absurd hc.symm h.1, ih h.2⟩

/-! ## Sigmas -/

theorem startsCased_append {cs : List Char} (h : ¬ ∀ c ∈ cs, isCaseIgnorable c = true)
    (more : List Char) : startsCased (cs ++ more) = startsCased cs := by
  have hsome : cs.find? (!isCaseIgnorable ·) ≠ none := by
    rw [ne_eq, List.find?_eq_none]
    simpa using h
  obtain ⟨c, hc⟩ := Option.ne_none_iff_exists'.mp hsome
  simp only [startsCased, List.find?_append, hc, Option.some_or]

theorem startsCased_append_of_ignorable {cs : List Char} (h : ∀ c ∈ cs, isCaseIgnorable c = true)
    (more : List Char) : startsCased (cs ++ more) = startsCased more := by
  have hnone : cs.find? (!isCaseIgnorable ·) = none := by
    rw [List.find?_eq_none]
    simpa using h
  simp only [startsCased, List.find?_append, hnone, Option.none_or]

theorem startsCased_of_ignorable {cs : List Char} (h : ∀ c ∈ cs, isCaseIgnorable c = true) :
    startsCased cs = false := by
  have happend := startsCased_append_of_ignorable h []
  rw [List.append_nil] at happend
  exact happend

theorem SigmaSettled.lowerSigma_append {before after : List Char} (h : SigmaSettled before after)
    (outer rest : List Char) :
    lowerSigma (before ++ outer) (after ++ rest) = lowerSigma before after := by
  by_cases hbefore : ∀ c ∈ before, isCaseIgnorable c = true
  · have hcased := h.cased_after hbefore
    have hafter : ¬ ∀ c ∈ after, isCaseIgnorable c = true := by
      intro hignorable
      simp [startsCased_of_ignorable hignorable] at hcased
    simp [lowerSigma, startsCased_append hafter, hcased]
  by_cases hafter : ∀ c ∈ after, isCaseIgnorable c = true
  · simp [lowerSigma, startsCased_append hbefore, h.not_cased_before hafter]
  · rw [lowerSigma, startsCased_append hbefore, startsCased_append hafter, lowerSigma]

theorem lowerSigma_ne {before after : List Char} (h : ¬ SigmaSettled before after) {x : Char}
    (hx : startsCased [x] = true) :
    lowerSigma (before ++ [x]) after ≠ lowerSigma before after ∨
      lowerSigma before (after ++ [x]) ≠ lowerSigma before after := by
  by_cases hbefore : (∀ c ∈ before, isCaseIgnorable c = true) ∧ startsCased after = false
  · obtain ⟨hignorable, hafter⟩ := hbefore
    left
    simp [lowerSigma, startsCased_append_of_ignorable hignorable, hx, hafter,
      startsCased_of_ignorable hignorable]
  by_cases hafter : (∀ c ∈ after, isCaseIgnorable c = true) ∧ startsCased before = true
  · obtain ⟨hignorable, hbefore⟩ := hafter
    right
    simp [lowerSigma, startsCased_append_of_ignorable hignorable, hx, hbefore,
      startsCased_of_ignorable hignorable]
  · refine absurd ⟨?_, ?_⟩ h
    · intro hignorable
      simpa using not_and.mp hbefore hignorable
    · intro hignorable
      simpa using not_and.mp hafter hignorable

/-! ## Settled texts -/

theorem SettledAfter.lowerBetween_eq {before cs : List Char} (h : SettledAfter before cs)
    (outer after : List Char) : lowerBetween (before ++ outer) after cs = lowerAfter before cs := by
  induction cs generalizing before with
  | nil => rfl
  | cons c cs ih =>
      obtain ⟨hsigma, hrest⟩ := h
      rw [lowerBetween, lowerAfter, ← List.cons_append, ih hrest]
      by_cases hc : c = 'Σ'
      · rw [if_pos hc, if_pos hc, (hsigma hc).lowerSigma_append]
      · rw [if_neg hc, if_neg hc]

/-- Lowercasing keeps a settled text inside any text that it stands in. -/
theorem lower_infix_lower {term text : List Char} (hsettled : Settled term)
    (h : term <:+: text) : lower term <:+: lower text := by
  obtain ⟨front, back, rfl⟩ := h
  have hterm := SettledAfter.lowerBetween_eq hsettled front.reverse back
  rw [List.nil_append] at hterm
  rw [lower, lower, List.append_assoc, lowerAfter_append, lowerAfter_append, List.append_nil, hterm,
    ← List.append_assoc]
  exact List.infix_append _ _ _

theorem lowerBetween_ne {before cs : List Char} (h : ¬ SettledAfter before cs) {x : Char}
    (hx : startsCased [x] = true) :
    lowerBetween (before ++ [x]) [] cs ≠ lowerAfter before cs ∨
      lowerBetween before [x] cs ≠ lowerAfter before cs := by
  induction cs generalizing before with
  | nil => exact absurd trivial h
  | cons c cs ih =>
      -- if the rest is settled, it is this character that is not
      by_cases hrest : SettledAfter (c :: before) cs
      · have hc : c = 'Σ' ∧ ¬ SigmaSettled before cs := by
          rw [SettledAfter, not_and] at h
          by_contra hsettled
          exact h (fun hc => by_contra (fun hopen => hsettled ⟨hc, hopen⟩)) hrest
        obtain ⟨rfl, hopen⟩ := hc
        simp only [lowerBetween, lowerAfter, if_pos, List.append_nil, List.singleton_append]
        refine (lowerSigma_ne hopen hx).imp ?_ ?_
        · intro hne heq
          exact hne (List.cons.inj heq).1
        · intro hne heq
          exact hne (List.cons.inj heq).1
      · rw [lowerBetween, lowerBetween, lowerAfter]
        refine (ih hrest).imp ?_ ?_
        · intro hne heq
          exact hne (List.append_inj heq (by split <;> rfl)).2
        · intro hne heq
          exact hne (List.append_inj heq (by split <;> rfl)).2

/-! ## Texts that are not settled -/

theorem not_infix_cons {term text : List Char} {x : Char} (hlength : text.length = term.length)
    (hne : text ≠ term) (hhead : term.head? ≠ some x) : ¬ term <:+: x :: text := by
  rw [List.infix_cons_iff, List.prefix_cons_iff]
  rintro ((rfl | ⟨rest, rfl, -⟩) | hinside)
  · exact hne (List.length_eq_zero_iff.mp hlength)
  · exact hhead rfl
  · exact hne (hinside.eq_of_length hlength.symm).symm

theorem not_infix_concat {term text : List Char} {x : Char} (hlength : text.length = term.length)
    (hne : text ≠ term) (hlast : term.getLast? ≠ some x) : ¬ term <:+: text ++ [x] := by
  rw [List.infix_concat_iff, List.suffix_concat_iff]
  rintro ((rfl | ⟨front, rfl, -⟩) | hinside)
  · exact hne (List.length_eq_zero_iff.mp hlength)
  · exact hlast List.getLast?_concat
  · exact hne (hinside.eq_of_length hlength.symm).symm

/-- There is always a small letter that is neither of two characters. -/
theorem exists_letter (first last : Option Char) :
    ∃ x : Char, first ≠ some x ∧ last ≠ some x ∧ startsCased [x] = true ∧ lowerChar x = [x] := by
  have hcased : startsCased ['i'] = true ∧ startsCased ['ς'] = true ∧ startsCased ['σ'] = true := by
    decide +kernel
  by_contra hnone
  have htaken : ∀ x ∈ specialForms, startsCased [x] = true → first = some x ∨ last = some x := by
    intro x hx hletter
    by_contra hfree
    obtain ⟨hfirst, hlast⟩ := not_or.mp hfree
    exact hnone ⟨x, hfirst, hlast, hletter, lowerChar_of_mem_specialForms hx⟩
  have hi := htaken 'i' (by simp [specialForms]) hcased.1
  have hfinal := htaken 'ς' (by simp [specialForms]) hcased.2.1
  have hinner := htaken 'σ' (by simp [specialForms]) hcased.2.2
  grind

/-- A text that is not settled gets lost by lowercasing in some text that it stands in: one letter
beside it is enough. -/
theorem exists_not_lower_infix {term : List Char} (h : ¬ Settled term) :
    ∃ text, term <:+: text ∧ ¬ lower term <:+: lower text := by
  -- with `x` at neither end of the form, the form cannot stand in the text one place further on
  obtain ⟨x, hhead, hlast, hcased, hx⟩ := exists_letter (lower term).head? (lower term).getLast?
  rcases lowerBetween_ne h hcased with hne | hne
  · have htext : lower (x :: term) = x :: lowerBetween ([] ++ [x]) [] term := by
      rw [lower, lowerAfter, if_neg (ne_sigma_of_lowerChar hx), hx, lowerBetween_nil]
      rfl
    refine ⟨x :: term, (List.suffix_cons x term).isInfix, ?_⟩
    rw [htext]
    exact not_infix_cons (length_lowerBetween ..) hne hhead
  · have htext : lower (term ++ [x]) = lowerBetween [] [x] term ++ [x] := by
      rw [lower, lowerAfter_append, lowerAfter_eq_self (by simpa using hx)]
    refine ⟨term ++ [x], (List.prefix_append term [x]).isInfix, ?_⟩
    rw [htext]
    exact not_infix_concat (length_lowerBetween ..) hne hlast

/-- The texts that stand in another one after lowercasing whenever they do before are those that
settle their sigmas. -/
theorem forall_lower_infix_iff {term : List Char} :
    (∀ text, term <:+: text → lower term <:+: lower text) ↔ Settled term := by
  refine ⟨?_, fun hsettled _ => lower_infix_lower hsettled⟩
  intro hkept
  by_contra hopen
  obtain ⟨text, hin, hlost⟩ := exists_not_lower_infix hopen
  exact hlost (hkept text hin)

end BookFinder.Text
