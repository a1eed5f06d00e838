import Mathlib
import StochasticGrammar.Proofs.Lint.Guarantees
import StochasticGrammar.Proofs.Grammar.Merge

/-! Which names linting calls unreachable, and which productions it says name only themselves. -/
namespace StochasticGrammar

namespace Word

theorem hasCommaMarker_iff (w : String) :
    hasCommaMarker w = true ↔ commaMarker.toList <:+ w.toList := by
  rw [hasCommaMarker, List.isSuffixOf_iff_suffix]

theorem stripCommaMarker_of_hasCommaMarker_false {w : String} (h : hasCommaMarker w = false) :
    stripCommaMarker w = (w, false) := by
  simp [stripCommaMarker, h]

theorem stripCommaMarker_append_commaMarker (x : String) :
    stripCommaMarker (x ++ commaMarker) = (x, true) := by
  have hm : hasCommaMarker (x ++ commaMarker) = true := by
    rw [hasCommaMarker_iff, String.toList_append]
    exact List.suffix_append _ _
  have hlen : (x ++ commaMarker).length - commaMarker.length = x.toList.length := by
    simp only [← String.length_toList, String.toList_append, List.length_append]
    omega
  simp only [stripCommaMarker, hm, if_true, hlen, String.toList_append, List.take_left',
    String.ofList_toList]

theorem eq_base_append_of_hasCommaMarker {w : String} (h : hasCommaMarker w = true) :
    w = base w ++ commaMarker := by
  obtain ⟨pre, hpre⟩ := (hasCommaMarker_iff w).1 h
  have hlen : w.length - commaMarker.length = pre.length := by
    simp only [← String.length_toList, ← hpre, List.length_append]
    omega
  have hbase : base w = String.ofList pre := by
    simp only [base, stripCommaMarker, h, if_true, hlen, ← hpre, List.take_left']
  apply String.toList_inj.1
  rw [hbase, String.toList_append, String.toList_ofList, hpre]

theorem base_isPrefix (w : String) : (base w).toList <+: w.toList := by
  unfold base stripCommaMarker
  split
  · simp only [String.toList_ofList]
    exact List.take_prefix _ _
  · exact List.prefix_refl _

theorem isUpperCase_append (a b : String) :
    Text.isUpperCase (a ++ b) = (Text.isUpperCase a && Text.isUpperCase b) := by
  simp [Text.isUpperCase, String.toList_append, List.all_append]

theorem isUpperCase_append_commaMarker (x : String) :
    Text.isUpperCase (x ++ commaMarker) = Text.isUpperCase x := by
  have hm : Text.isUpperCase commaMarker = true := by decide
  rw [isUpperCase_append, hm, Bool.and_true]

theorem base_of_hasCommaMarker_false {w : String} (h : hasCommaMarker w = false) : base w = w := by
  simp [base, stripCommaMarker_of_hasCommaMarker_false h]

theorem isUpperCase_base (w : String) : Text.isUpperCase (base w) = Text.isUpperCase w := by
  cases h : hasCommaMarker w
  · rw [base_of_hasCommaMarker_false h]
  · conv_rhs => rw [eq_base_append_of_hasCommaMarker h]
    rw [isUpperCase_append_commaMarker]

/-- Some reference resolves to `n`: without its comma marker, the reference is `n`. -/
def Referable (n : String) : Prop := ∃ w, isReference w = true ∧ base w = n

/-- A name is resolved by some reference exactly when it is not empty, holds a letter and is its
own upper case; the reference is then the name with the marker after it. -/
theorem referable_iff {n : String} :
    Referable n ↔
      n ≠ "" ∧ n.toList.any Text.isAlphabetic = true ∧ Text.isUpperCase n = true := by
  constructor
  · rintro ⟨w, hw, rfl⟩
    simp only [isReference, Bool.and_eq_true, Bool.not_eq_true'] at hw
    obtain ⟨⟨hne, halpha⟩, hupper⟩ := hw
    refine ⟨fun h => ?_, halpha, (isUpperCase_base w).trans hupper⟩
    simp [h] at hne
  · rintro ⟨hne, halpha, hupper⟩
    refine ⟨n ++ commaMarker, ?_, ?_⟩
    · simp [isReference, base, stripCommaMarker_append_commaMarker, hne, halpha,
        isUpperCase_append_commaMarker, hupper]
    · simp [base, stripCommaMarker_append_commaMarker]

/-- A word is a reference exactly when its base is a name that some reference resolves to. -/
theorem isReference_iff_referable_base (w : String) :
    isReference w = true ↔ Referable (base w) := by
  rw [referable_iff, isReference, isUpperCase_base]
  simp [and_assoc]

theorem referable_of_isReference {n : String} (h : isReference n = true) : Referable n := by
  obtain ⟨hne, halpha, hupper⟩ := referable_iff.1 ((isReference_iff_referable_base n).1 h)
  have hpre := base_isPrefix n
  refine referable_iff.2 ⟨fun hn => hne ?_, ?_, ?_⟩
  · simpa [hn] using hpre
  · simp only [List.any_eq_true] at halpha ⊢
    obtain ⟨c, hc, hca⟩ := halpha
    exact ⟨c, hpre.subset hc, hca⟩
  · rwa [isUpperCase_base] at hupper

theorem isReference_of_base_eq {n w : String} (hn : isReference n = true) (hw : base w = n) :
    isReference w = true :=
  (isReference_iff_referable_base w).2 (hw ▸ referable_of_isReference hn)

theorem isReference_iff_referable {n : String} (h : hasCommaMarker n = false) :
    isReference n = true ↔ Referable n := by
  rw [isReference_iff_referable_base, base_of_hasCommaMarker_false h]

end Word

namespace Grammar

variable {g : Grammar}

/-- A name is called unreachable exactly when no reference resolves to it, or it carries the
marker. -/
theorem isUnreachableName_iff {n : String} :
    isUnreachableName n = true ↔ ¬Word.Referable n ∨ Word.hasCommaMarker n = true := by
  cases hm : Word.hasCommaMarker n
  · rw [← Word.isReference_iff_referable hm]
    simp [isUnreachableName, Word.stripCommaMarker_of_hasCommaMarker_false hm]
  · simp [isUnreachableName, Word.stripCommaMarker, hm]

theorem unreachable_mem_findingsFor {n name : String} {body : List Node} :
    Finding.unreachable n ∈ g.findingsFor name body ↔
      n = name ∧ isUnreachableName name = true := by
  unfold findingsFor
  by_cases hws : Node.wordsOf body = [] <;> by_cases hu : isUnreachableName name <;> simp [hws, hu]

theorem selfOnly_mem_findingsFor {n name : String} {body : List Node} :
    Finding.selfOnly n ∈ g.findingsFor name body ↔
      n = name ∧ Node.wordsOf body ≠ [] ∧
        ∀ w ∈ Node.wordsOf body, Word.base w = name := by
  unfold findingsFor
  by_cases hws : Node.wordsOf body = [] <;> by_cases hu : isUnreachableName name <;>
    simp [hws, hu, and_comm]

theorem lookup_eq_of_mem_entries (hnd : g.names.Nodup) {n : String} {body : List Node}
    (he : (n, body) ∈ g.entries) : g.lookup n = some body := by
  obtain ⟨es⟩ := g
  simp only [names, lookup] at hnd he ⊢
  induction es with
  | nil => simp at he
  | cons e es ih =>
    obtain ⟨m, b⟩ := e
    simp only [List.map_cons, List.nodup_cons] at hnd
    rw [lookup_cons_eq_ite]
    rcases List.mem_cons.1 he with h | h
    · simp [Prod.mk.inj h]
    · have hnm : n ≠ m := fun hnm => hnd.1 (hnm ▸ List.mem_map_of_mem h)
      simp [hnm, ih hnd.2 h]

/-- Linting calls a registered name unreachable exactly when no reference resolves to it or it
carries the comma marker. -/
theorem unreachable_mem_lint_iff {n : String} (hn : n ∈ g.names) :
    Finding.unreachable n ∈ g.lint ↔
      (¬∃ w, Word.isReference w = true ∧ Word.base w = n) ∨
        Word.hasCommaMarker n = true := by
  rw [← Word.Referable, ← isUnreachableName_iff]
  simp only [mem_lint, unreachable_mem_findingsFor]
  constructor
  · rintro ⟨e, -, rfl, h⟩
    exact h
  · intro h
    obtain ⟨e, he, rfl⟩ := List.mem_map.1 hn
    exact ⟨e, he, rfl, h⟩

/-- The production `pasta` beside `PASTA`: a lower-case name, which no reference resolves to. -/
theorem unreachable_mem_lint_iff_lowerName :
    let g := (empty.register "PASTA" [.word "noodles"]).register "pasta" [.word "PASTA"]
    "pasta" ∈ g.names ∧ (Finding.unreachable "pasta" ∈ g.lint ↔
      (¬∃ w, Word.isReference w = true ∧ Word.base w = "pasta") ∨
        Word.hasCommaMarker "pasta" = true) := by
  intro g
  have hn : "pasta" ∈ g.names := by decide
  exact ⟨hn, unreachable_mem_lint_iff hn⟩

/-- Linting calls the production `A_COMMA` unreachable, yet `A_COMMA_COMMA`, the word that the body
text `A_COMMA,` reads as, is a reference that resolves to it. -/
theorem lint_flags_referable_markedName :
    let g := empty.register "A_COMMA" [.word "x"]
    "A_COMMA" ∈ g.names ∧ Finding.unreachable "A_COMMA" ∈ g.lint ∧
      Word.isReference "A_COMMA_COMMA" = true ∧ Word.base "A_COMMA_COMMA" = "A_COMMA" := by
  decide

/-- Linting says that a production names only itself exactly when its body has a word and every
word of it, marker taken off, is the production's name. -/
theorem selfOnly_mem_lint_iff (hnd : g.names.Nodup) {n : String} {body : List Node}
    (hb : g.lookup n = some body) :
    Finding.selfOnly n ∈ g.lint ↔
      Node.wordsOf body ≠ [] ∧ ∀ w ∈ Node.wordsOf body, Word.base w = n := by
  simp only [mem_lint, selfOnly_mem_findingsFor]
  constructor
  · rintro ⟨⟨m, b⟩, he, rfl, h⟩
    have : some b = some body := (lookup_eq_of_mem_entries hnd he).symm.trans hb
    cases this
    exact h
  · intro h
    exact ⟨(n, body), mem_entries_of_lookup hb, rfl, h⟩

/-- The production `x` with body `x` is said to name only itself, though `x` is no reference. -/
example : Finding.selfOnly "x" ∈ (empty.register "x" [.word "x"]).lint ∧
    Word.isReference "x" = false := by
  decide

/-- For a name that is itself a reference, linting says that its production names only itself
exactly when the body has a word and every word of it is a reference that resolves to the name. -/
theorem selfOnly_mem_lint_iff_of_isReference (hnd : g.names.Nodup) {n : String}
    {body : List Node} (hb : g.lookup n = some body) (hn : Word.isReference n = true) :
    Finding.selfOnly n ∈ g.lint ↔ Node.wordsOf body ≠ [] ∧
      ∀ w ∈ Node.wordsOf body, Word.isReference w = true ∧ Word.base w = n := by
  rw [selfOnly_mem_lint_iff hnd hb]
  refine and_congr_right fun _ => forall₂_congr fun w _ => ?_
  exact ⟨fun hw => ⟨Word.isReference_of_base_eq hn hw, hw⟩, And.right⟩

end Grammar

end StochasticGrammar
