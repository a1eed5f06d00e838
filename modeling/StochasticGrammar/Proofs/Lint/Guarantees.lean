import Mathlib
import StochasticGrammar.Lint
import StochasticGrammar.Proofs.Expansion.Calls
import StochasticGrammar.Generator

/-! What the warnings of linting mean for the bodies of a grammar, and what a grammar without
them promises about expansion. -/
namespace StochasticGrammar

open StochasticGrammar.Random

namespace Grammar

variable {g : Grammar}

theorem mem_entries_of_lookup {n : String} {body : List Node} (hb : g.lookup n = some body) :
    (n, body) ∈ g.entries := by
  obtain ⟨es⟩ := g
  simp only [lookup] at hb ⊢
  induction es with
  | nil => simp at hb
  | cons e es ih =>
    obtain ⟨m, b⟩ := e
    by_cases hm : n = m
    · subst hm
      simp only [List.lookup_cons_self, Option.some.injEq] at hb
      simp [hb]
    · have hne : (n == m) = false := by simpa using hm
      simp only [List.lookup_cons, hne] at hb
      exact List.mem_cons_of_mem _ (ih hb)

theorem mem_lint {f : Finding} : f ∈ g.lint ↔ ∃ e ∈ g.entries, f ∈ g.findingsFor e.1 e.2 := by
  simp [lint]

theorem emptyBody_mem_findingsFor {n name : String} {body : List Node} :
    Finding.emptyBody n ∈ g.findingsFor name body ↔ n = name ∧ Node.wordsOf body = [] := by
  unfold findingsFor
  by_cases hws : Node.wordsOf body = [] <;> simp [hws, isUnreachableName]

theorem unknownReference_mem_findingsFor {n r name : String} {body : List Node} :
    Finding.unknownReference n r ∈ g.findingsFor name body ↔
      n = name ∧ ∃ w ∈ Node.wordsOf body, Word.isReference w = true ∧
        g.contains (Word.base w) = false ∧ Word.base w = r := by
  unfold findingsFor
  by_cases hws : Node.wordsOf body = []
  · simp [hws, isUnreachableName]
  · simp [hws, isUnreachableName]
    constructor
    · rintro ⟨w, ⟨hw, href, hc⟩, rfl, hr⟩
      exact ⟨rfl, w, hw, href, hc, hr⟩
    · rintro ⟨rfl, w, hw, href, hc, hr⟩
      exact ⟨w, ⟨hw, href, hc⟩, rfl, hr⟩

/-- Linting warns of no empty body iff every registered body has a word at some depth. -/
theorem emptyBody_not_mem_lint_iff :
    (∀ n, Finding.emptyBody n ∉ g.lint) ↔ ∀ e ∈ g.entries, Node.wordsOf e.2 ≠ [] := by
  simp only [mem_lint, emptyBody_mem_findingsFor]
  constructor
  · intro h e he hnil
    exact h e.1 ⟨e, he, rfl, hnil⟩
  · rintro h n ⟨e, he, -, hnil⟩
    exact h e he hnil

/-- Linting warns of no unknown reference iff every reference word of every registered body
names a registered production. -/
theorem unknownReference_not_mem_lint_iff :
    (∀ n r, Finding.unknownReference n r ∉ g.lint) ↔
      ∀ e ∈ g.entries, ∀ w ∈ Node.wordsOf e.2, Word.isReference w = true →
        g.contains (Word.base w) = true := by
  simp only [mem_lint, unknownReference_mem_findingsFor]
  constructor
  · intro h e he w hw href
    by_contra hc
    exact h e.1 (Word.base w) ⟨e, he, rfl, w, hw, href, by simpa using hc, rfl⟩
  · rintro h n r ⟨e, he, -, w, hw, href, hc, -⟩
    simp [h e he w hw href] at hc

end Grammar

namespace Node

mutual
theorem words_normalize : (t : Node) → t.normalize.words = t.words.map Word.normalize
  | .word _ => rfl
  | .group items => by simp [normalize, wordsOf_normalizeItems items]
theorem wordsOf_normalizeItems : (items : List Node) →
    wordsOf (normalizeItems items) = (wordsOf items).map Word.normalize
  | [] => rfl
  | t :: ts => by simp [normalizeItems, words_normalize t, wordsOf_normalizeItems ts]
end

end Node

@[simp] theorem Config.words_unresolved (cfg : Config) (b : String) :
    (cfg.unresolved b).words = [b] := by
  unfold Config.unresolved
  cases cfg.fallback <;> rfl

namespace Grammar

variable {σ : Type} {g : Grammar} {cfg : Config} {draw : σ → Draw × σ}

section Words

variable (hbodies : ∀ n body, g.lookup n = some body → Node.wordsOf body ≠ [])
include hbodies

theorem expandItems_wordsOf_ne_nil (items : List Node) (p : Float) (d : Nat) (s : σ)
    (h : Node.wordsOf items ≠ []) : Node.wordsOf (g.expandItems cfg draw items p d s).items ≠ [] := by
  induction items, p, d, s using expandItems_induction g cfg draw with
  | nil p d s => exact absurd rfl h
  | literal w rest p d s hw ih =>
    rw [expandItems_literal hw]
    simp
  | group cs rest p d s ihc ihr =>
    rw [expandItems_group]
    -- the group keeps the words of its items; failing those, the rest has one
    by_cases hcs : Node.wordsOf cs = []
    · have hrest : Node.wordsOf rest ≠ [] := by simpa [hcs] using h
      simp [ihr hrest]
    · simp [ihc hcs]
  | kept w rest p d s u s₁ hw hu hno ih =>
    rw [expandItems_kept hw hu hno]
    simp
  | substituted w rest body p d s u s₁ hw hu hd hp hb ihb ihr =>
    rw [expandItems_substituted hw hu hd hp hb]
    simp [Node.wordsOf_append, ihb (hbodies _ _ hb)]
  | unresolved w rest p d s u s₁ hw hu hd hp hb ih =>
    rw [expandItems_unresolved hw hu hd hp hb]
    simp

/-- When every body has a word, expanding a tree with a word gives a tree with a word. -/
theorem expand_words_ne_nil (t : Node) (p : Float) (s : σ) (h : t.words ≠ []) :
    (g.expand cfg draw t p s).tree.words ≠ [] := by
  cases t with
  | word w => simp
  | group xs =>
    rw [expand_group]
    exact expandItems_wordsOf_ne_nil hbodies xs _ 0 s h

end Words

theorem wordsOf_ne_nil_of_lint (hlint : ∀ n, Finding.emptyBody n ∉ g.lint) {n : String}
    {body : List Node} (hb : g.lookup n = some body) : Node.wordsOf body ≠ [] :=
  emptyBody_not_mem_lint_iff.1 hlint _ (mem_entries_of_lookup hb)

/-- A grammar without empty-body warnings never expands a tree with a word to one without: for
every setting (either fallback, any depth limit), probability and source of draws. Hence every
generation from the name of a production gives at least one word, whatever the source of draws,
the settings, the seed and the generations made before. -/
theorem expand_words_ne_nil_of_lint (g : Grammar) (hlint : ∀ n, Finding.emptyBody n ∉ g.lint) :
    (∀ (σ : Type) (cfg : Config) (draw : σ → Draw × σ) (t : Node) (p : Float) (s : σ),
        t.words ≠ [] → (g.expand cfg draw t p s).tree.words ≠ []) ∧
      ∀ (σ : Type) (src : Seeded σ) (cfg : Config) (seed count : UInt64) (n : String),
        (({ grammar := g, config := cfg, seed := seed, count := count } : Generator).generate src
          (.production n)).1.words ≠ [] := by
  have hbodies : ∀ n body, g.lookup n = some body → Node.wordsOf body ≠ [] :=
    fun _ _ hb => wordsOf_ne_nil_of_lint hlint hb
  refine ⟨fun _ cfg draw t p s h => expand_words_ne_nil hbodies t p s h,
    fun _ src cfg seed count n => ?_⟩
  simp only [Generator.generate, Node.words_normalize, ne_eq, List.map_eq_nil_iff]
  exact expand_words_ne_nil hbodies _ _ _ (by simp [Start.toTree])

/-- A production that names itself in a group, beside one that does not: the grammar draws no
warning, and expanding or generating from the first keeps a word. -/
theorem expand_words_ne_nil_of_lint_selfReference :
    let g : Grammar := ⟨[("X", [.group [.word "X", .word "and", .word "Y"]]), ("Y", [.word "y"])]⟩
    (∀ n, Finding.emptyBody n ∉ g.lint) ∧
      (g.expand {} Stream.draw (.group [.word "X"]) 0.95 (Stream.ofSeed 7)).tree.words ≠ [] ∧
      (({ grammar := g, config := {}, seed := 7 } : Generator).generate Stream.seeded
        (.production "X")).1.words ≠ [] := by
  intro g
  have hlint : ∀ n, Finding.emptyBody n ∉ g.lint := by
    have hl : g.lint = [] := by decide
    simp [hl]
  exact ⟨hlint, (expand_words_ne_nil_of_lint g hlint).1 _ {} Stream.draw _ 0.95 _ (by simp),
    (expand_words_ne_nil_of_lint g hlint).2 _ Stream.seeded {} 7 0 "X"⟩

/-- Every reference word among `ws` names a registered production. -/
def Resolves (g : Grammar) (ws : List String) : Prop :=
  ∀ w ∈ ws, Word.isReference w = true → g.contains (Word.base w) = true

theorem Resolves.tail {x : Node} {rest : List Node} (h : g.Resolves (Node.wordsOf (x :: rest))) :
    g.Resolves (Node.wordsOf rest) :=
  fun w hw => h w (by simp [hw])

theorem Resolves.children {cs rest : List Node}
    (h : g.Resolves (Node.wordsOf (.group cs :: rest))) : g.Resolves (Node.wordsOf cs) :=
  fun w hw => h w (by simp [hw])

/-- Without an unknown-reference warning, the references of every body are registered. -/
theorem resolves_of_lint (hlint : ∀ n r, Finding.unknownReference n r ∉ g.lint) {n : String}
    {body : List Node} (hb : g.lookup n = some body) : g.Resolves (Node.wordsOf body) :=
  unknownReference_not_mem_lint_iff.1 hlint _ (mem_entries_of_lookup hb)

/-- The call `f` takes the branch for a reference without a production: its head is a reference
read above the limit, whose draw lies below the probability and whose base the grammar lacks. -/
def FallsBack (g : Grammar) (cfg : Config) (draw : σ → Draw × σ) (f : Frame σ) : Prop :=
  ∃ w rest u s₁, f.items = .word w :: rest ∧ Word.isReference w = true ∧
    draw f.source = (u, s₁) ∧ f.depth < cfg.maxDepth ∧ u.below f.probability = true ∧
    g.lookup (Word.base w) = none

theorem not_fallsBack {f : Frame σ} (hf : g.Resolves (Node.wordsOf f.items)) :
    ¬g.FallsBack cfg draw f := by
  rintro ⟨w, rest, u, s₁, hitems, hw, -, -, -, hb⟩
  have hc := hf w (by simp [hitems]) hw
  simp [contains, hb] at hc

section Resolved

variable (hbodies : ∀ n body, g.lookup n = some body → g.Resolves (Node.wordsOf body))
include hbodies

/-- The step: a call made from items whose references are registered reads such items too. -/
theorem Calls.resolves {a b : Frame σ} (hab : g.Calls cfg draw a b)
    (ha : g.Resolves (Node.wordsOf a.items)) : g.Resolves (Node.wordsOf b.items) := by
  cases hab with
  | body _ _ _ _ hb => exact hbodies _ _ hb
  | afterBody | afterUnresolved | afterKept | afterLiteral | afterGroup => exact ha.tail
  | children => exact ha.children

/-- The run: every call below one whose references are registered reads such items. -/
theorem resolves_of_reflTransGen {a b : Frame σ}
    (h : Relation.ReflTransGen (g.Calls cfg draw) a b) (ha : g.Resolves (Node.wordsOf a.items)) :
    g.Resolves (Node.wordsOf b.items) := by
  induction h with
  | refl => exact ha
  | tail _ hbc ih => exact hbc.resolves hbodies ih

/-- Two settings with the same depth limit expand items whose references are registered alike:
the fallback, where they differ, is never reached. -/
theorem expandItems_eq_of_resolves (c₁ c₂ : Config) (hdepth : c₁.maxDepth = c₂.maxDepth)
    (items : List Node) (p : Float) (d : Nat) (s : σ) (h : g.Resolves (Node.wordsOf items)) :
    g.expandItems c₁ draw items p d s = g.expandItems c₂ draw items p d s := by
  have hentry := Config.entryProbability_eq_of_maxDepth_eq hdepth
  induction items, p, d, s using expandItems_induction g c₁ draw with
  | nil p d s => simp
  | literal w rest p d s hw ih =>
    rw [expandItems_literal hw, expandItems_literal hw, ih h.tail]
  | group cs rest p d s ihc ihr =>
    rw [expandItems_group, expandItems_group, ← hentry]
    dsimp only
    rw [ihr h.tail, ihc h.children, hdepth]
  | kept w rest p d s u s₁ hw hu hno ih =>
    rw [expandItems_kept hw hu hno, expandItems_kept hw hu (hdepth ▸ hno), ih h.tail]
  | substituted w rest body p d s u s₁ hw hu hd hp hb ihb ihr =>
    rw [expandItems_substituted hw hu hd hp hb, expandItems_substituted hw hu (hdepth ▸ hd) hp hb,
      ← hentry]
    dsimp only
    rw [ihr h.tail, ihb (hbodies _ _ hb), hdepth]
  | unresolved w rest p d s u s₁ hw hu hd hp hb ih =>
    have hc := h w (by simp) hw
    simp [contains, hb] at hc

end Resolved

/-- A grammar without unknown-reference warnings never falls back on a tree whose reference words
are all registered: for every setting, probability and source of draws, no call of the
expansion takes the branch for a reference without a production. So the literal and the grouped
fallback give the same tree, the same source afterwards and the same report on the limit. -/
theorem expand_never_falls_back (g : Grammar) (hlint : ∀ n r, Finding.unknownReference n r ∉ g.lint)
    (cfg : Config) (draw : σ → Draw × σ) (t : Node) (p : Float) (s : σ)
    (ht : ∀ w ∈ t.words, Word.isReference w = true → g.contains (Word.base w) = true) :
    (∀ f, g.ExpandCall cfg draw t p s f → ¬g.FallsBack cfg draw f) ∧
      g.expand { cfg with fallback := .literal } draw t p s =
        g.expand { cfg with fallback := .grouped } draw t p s := by
  have hbodies : ∀ n body, g.lookup n = some body → g.Resolves (Node.wordsOf body) :=
    fun _ _ hb => resolves_of_lint hlint hb
  cases t with
  | word w => exact ⟨fun _ hf => hf.elim, rfl⟩
  | group xs =>
    refine ⟨fun f hf => not_fallsBack (resolves_of_reflTransGen hbodies hf ht), ?_⟩
    rw [expand_group, expand_group, expandItems_eq_of_resolves hbodies
      { cfg with fallback := .literal } { cfg with fallback := .grouped } rfl xs _ 0 s ht]
    -- both settings read the limit of `cfg` alone
    rfl

/-- A tree with a reference at the top and a marked one in a group, against a grammar whose
references are all registered: no call falls back, and both fallbacks give the same run. -/
theorem expand_never_falls_back_nested :
    let g : Grammar := ⟨[("X", [.group [.word "X", .word "and", .word "Y"]]), ("Y", [.word "y"])]⟩
    let t : Node := .group [.word "X", .group [.word "Y_COMMA", .word "and"]]
    (∀ n r, Finding.unknownReference n r ∉ g.lint) ∧
      (∀ w ∈ t.words, Word.isReference w = true → g.contains (Word.base w) = true) ∧
      (∀ f, g.ExpandCall {} Stream.draw t 0.95 (Stream.ofSeed 7) f → ¬g.FallsBack {} Stream.draw f) ∧
      g.expand { ({} : Config) with fallback := .literal } Stream.draw t 0.95 (Stream.ofSeed 7) =
        g.expand { ({} : Config) with fallback := .grouped } Stream.draw t 0.95 (Stream.ofSeed 7) := by
  intro g t
  have hlint : ∀ n r, Finding.unknownReference n r ∉ g.lint := by
    have hl : g.lint = [] := by decide
    simp [hl]
  have ht : ∀ w ∈ t.words, Word.isReference w = true → g.contains (Word.base w) = true := by
    decide
  exact ⟨hlint, ht, expand_never_falls_back g hlint {} Stream.draw t 0.95 (Stream.ofSeed 7) ht⟩

end Grammar

end StochasticGrammar
