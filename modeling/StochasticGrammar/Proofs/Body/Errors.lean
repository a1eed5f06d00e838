import Mathlib
import StochasticGrammar.Proofs.Body.ReadBack

/-! Which body texts are refused, and why: only unbalanced parentheses make reading fail. -/
namespace StochasticGrammar

namespace Body

/-- `Overcloses d cs`: some prefix of `cs` closes more groups than it opens itself and than the
`d` groups open before it. -/
def Overcloses (d : Nat) (cs : List Char) : Prop :=
  ∃ p, p <+: cs ∧ d + p.count '(' < p.count ')'

theorem not_overcloses_nil (d : Nat) : ¬Overcloses d [] := by
  rintro ⟨p, hp, hlt⟩
  rw [List.prefix_nil] at hp
  subst hp
  simp at hlt

theorem overcloses_cons {d : Nat} {c : Char} {cs : List Char} :
    Overcloses d (c :: cs) ↔ ∃ p, p <+: cs ∧ d + (c :: p).count '(' < (c :: p).count ')' := by
  constructor
  · rintro ⟨p, hp, hlt⟩
    rcases List.prefix_cons_iff.1 hp with rfl | ⟨t, rfl, ht⟩
    · simp at hlt
    · exact ⟨t, ht, hlt⟩
  · rintro ⟨p, hp, hlt⟩
    exact ⟨c :: p, List.cons_prefix_cons.2 ⟨rfl, hp⟩, hlt⟩

theorem overcloses_open {d : Nat} {cs : List Char} :
    Overcloses d ('(' :: cs) ↔ Overcloses (d + 1) cs := by
  rw [overcloses_cons]
  apply exists_congr
  intro p
  apply and_congr_right
  intro _
  simp
  omega

theorem overcloses_close_zero (cs : List Char) : Overcloses 0 (')' :: cs) :=
  ⟨[')'], by simp, by simp⟩

theorem overcloses_close_succ {d : Nat} {cs : List Char} :
    Overcloses (d + 1) (')' :: cs) ↔ Overcloses d cs := by
  rw [overcloses_cons]
  apply exists_congr
  intro p
  apply and_congr_right
  intro _
  simp
  omega

theorem overcloses_other {d : Nat} {c : Char} {cs : List Char} (h₁ : c ≠ '(') (h₂ : c ≠ ')') :
    Overcloses d (c :: cs) ↔ Overcloses d cs := by
  rw [overcloses_cons]
  simp [List.count_cons_of_ne h₁, List.count_cons_of_ne h₂, Overcloses]

theorem count_close_le_of_not_overcloses {d : Nat} {cs : List Char} (h : ¬Overcloses d cs) :
    cs.count ')' ≤ d + cs.count '(' := by
  by_contra hlt
  exact h ⟨cs, List.prefix_refl cs, by omega⟩

/-- Reading refuses a closing parenthesis exactly when the text overcloses the groups open. -/
theorem readFrom_eq_unmatchedClose_iff (cs : List Char) :
    ∀ (read : List Char) (items : List Node) (outer : List (List Node)),
      readFrom cs read items outer = .error .unmatchedClose ↔ Overcloses outer.length cs := by
  induction cs with
  | nil =>
    intro read items outer
    cases outer <;> simp [readFrom, not_overcloses_nil]
  | cons c cs ih =>
    intro read items outer
    by_cases h₁ : c = '('
    · subst h₁
      rw [readFrom_open, ih, overcloses_open, List.length_cons]
    by_cases h₂ : c = ')'
    · subst h₂
      cases outer with
      | nil => simp [readFrom, overcloses_close_zero]
      | cons parent outer => rw [readFrom_close, ih, List.length_cons, overcloses_close_succ]
    · -- a word character or a blank keeps the stack as it is
      rw [readFrom_other h₁ h₂, overcloses_other h₁ h₂]
      split <;> exact ih _ _ _

/-- Reading refuses the end of the text exactly when the text never overcloses and leaves groups
open. -/
theorem readFrom_eq_unclosed_iff (cs : List Char) :
    ∀ (read : List Char) (items : List Node) (outer : List (List Node)),
      readFrom cs read items outer = .error .unclosed ↔
        ¬Overcloses outer.length cs ∧ cs.count ')' < outer.length + cs.count '(' := by
  induction cs with
  | nil =>
    intro read items outer
    cases outer <;> simp [readFrom, not_overcloses_nil]
  | cons c cs ih =>
    intro read items outer
    by_cases h₁ : c = '('
    · subst h₁
      rw [readFrom_open, ih, overcloses_open]
      simp
      omega
    by_cases h₂ : c = ')'
    · subst h₂
      cases outer with
      | nil => simp [readFrom, overcloses_close_zero]
      | cons parent outer =>
        rw [readFrom_close, ih, List.length_cons, overcloses_close_succ]
        simp
        omega
    · rw [readFrom_other h₁ h₂, overcloses_other h₁ h₂, List.count_cons_of_ne h₁,
        List.count_cons_of_ne h₂]
      split <;> exact ih _ _ _

/-- The text of a body error names it: distinct errors have distinct texts. -/
theorem mapError_message_eq_error {α : Type} (r : Except BodyError α) (e : BodyError) :
    r.mapError BodyError.message = .error e.message ↔ r = .error e := by
  cases r with
  | ok a => simp [Except.mapError]
  | error e' => cases e <;> cases e' <;> simp [Except.mapError, BodyError.message]

theorem exists_ok_iff {α : Type} (r : Except BodyError α) :
    (∃ a, r = .ok a) ↔ r ≠ .error .unmatchedClose ∧ r ≠ .error .unclosed := by
  cases r with
  | ok a => simp
  | error e => cases e <;> simp

/-- Reading a body text: it is refused with "unmatched closing parenthesis" exactly when some
prefix holds more `)` than `(`; with "unclosed parenthesis" exactly when no prefix does and the
text holds more `(` than `)`; and it succeeds exactly when neither holds. -/
theorem parse_refusal_iff (s : String) :
    ((parse s).mapError BodyError.message = .error "unmatched closing parenthesis" ↔
        ∃ p, p <+: s.toList ∧ p.count '(' < p.count ')') ∧
      ((parse s).mapError BodyError.message = .error "unclosed parenthesis" ↔
        (¬∃ p, p <+: s.toList ∧ p.count '(' < p.count ')') ∧
          s.toList.count ')' < s.toList.count '(') ∧
      ((∃ xs, parse s = .ok xs) ↔
        (¬∃ p, p <+: s.toList ∧ p.count '(' < p.count ')') ∧
          ¬s.toList.count ')' < s.toList.count '(') := by
  have hover : Overcloses 0 s.toList ↔ ∃ p, p <+: s.toList ∧ p.count '(' < p.count ')' := by
    simp [Overcloses]
  have hmatch : parse s = .error .unmatchedClose ↔ Overcloses 0 s.toList :=
    readFrom_eq_unmatchedClose_iff s.toList [] [] []
  have hclosed : parse s = .error .unclosed ↔
      ¬Overcloses 0 s.toList ∧ s.toList.count ')' < 0 + s.toList.count '(' :=
    readFrom_eq_unclosed_iff s.toList [] [] []
  rw [Nat.zero_add] at hclosed
  refine ⟨?_, ?_, ?_⟩
  · rw [← hover, ← hmatch]
    exact mapError_message_eq_error (parse s) .unmatchedClose
  · rw [← hover, ← hclosed]
    exact mapError_message_eq_error (parse s) .unclosed
  · rw [exists_ok_iff, ← hover, Ne, Ne, hmatch, hclosed]
    tauto

end Body

end StochasticGrammar
