import Mathlib
import StochasticGrammar.Expansion

/-! The cases of expansion, one equation for each way the head of a sequence is read, and an
induction principle with those cases; later proofs use these and never unfold the definition. -/
namespace StochasticGrammar

open StochasticGrammar.Random

namespace Word

/-- What a reference leaves after its replacement: the comma marker as a word of its own when
the reference carried one, and nothing otherwise. -/
def commaTail (w : String) : List Node :=
  if (stripCommaMarker w).2 then [.word commaMarker] else []

end Word

namespace Config

variable {cfg : Config} {d : Nat}

theorem entryProbability_of_lt (h : d < cfg.maxDepth) (p : Float) : cfg.entryProbability p d = p := by
  simp [entryProbability, Nat.not_le.2 h]

theorem entryProbability_of_le (h : cfg.maxDepth ≤ d) (p : Float) :
    cfg.entryProbability p d = 0.0 := by
  simp [entryProbability, h]

theorem entryProbability_eq_of_maxDepth_eq {c : Config} (h : cfg.maxDepth = c.maxDepth) :
    cfg.entryProbability = c.entryProbability := by
  funext p d
  simp [entryProbability, h]

end Config

namespace Grammar

variable {σ : Type} {g : Grammar} {cfg : Config} {draw : σ → Draw × σ}

@[simp] theorem expand_word (w : String) (p : Float) (s : σ) :
    g.expand cfg draw (.word w) p s = ⟨.word w, false, s⟩ := rfl

theorem expand_group (xs : List Node) (p : Float) (s : σ) :
    g.expand cfg draw (.group xs) p s =
      let r := g.expandItems cfg draw xs (cfg.entryProbability p 0) 0 s
      ⟨.group r.items, cfg.maxDepth = 0 || r.limitHit, r.source⟩ := rfl

@[simp] theorem expandItems_nil (p : Float) (d : Nat) (s : σ) :
    g.expandItems cfg draw [] p d s = ⟨[], false, s⟩ := by
  rw [expandItems]

theorem expandItems_literal {w : String} (hw : Word.isReference w = false) (rest : List Node)
    (p : Float) (d : Nat) (s : σ) :
    g.expandItems cfg draw (.word w :: rest) p d s =
      let tail := g.expandItems cfg draw rest (decay p) d s
      ⟨.word w :: tail.items, tail.limitHit, tail.source⟩ := by
  rw [expandItems]
  simp [hw]

theorem expandItems_group (cs rest : List Node) (p : Float) (d : Nat) (s : σ) :
    g.expandItems cfg draw (.group cs :: rest) p d s =
      let inner := g.expandItems cfg draw cs (cfg.entryProbability (decay p) (d+1)) (d+1) s
      let tail := g.expandItems cfg draw rest (decay p) d inner.source
      ⟨.group inner.items :: tail.items, cfg.maxDepth ≤ d+1 || inner.limitHit || tail.limitHit,
        tail.source⟩ := by
  rw [expandItems]

section Reference

variable {w : String} {rest : List Node} {p : Float} {d : Nat} {s s₁ : σ} {u : Draw}

/-- A reference whose draw fails, or that stands at the depth limit, stays as it is. -/
theorem expandItems_kept (hw : Word.isReference w = true) (hu : draw s = (u,s₁))
    (hno : ¬(d < cfg.maxDepth ∧ u.below p = true)) :
    g.expandItems cfg draw (.word w :: rest) p d s =
      let tail := g.expandItems cfg draw rest p d s₁
      ⟨.word w :: tail.items, tail.limitHit, tail.source⟩ := by
  rw [expandItems]
  simp [hw, hu, hno]

/-- A reference whose draw succeeds is replaced by the expansion of its body one level deeper,
followed by its comma; the rest keeps the probability the reference was read with. -/
theorem expandItems_substituted {body : List Node} (hw : Word.isReference w = true)
    (hu : draw s = (u,s₁)) (hd : d < cfg.maxDepth) (hp : u.below p = true)
    (hb : g.lookup (Word.base w) = some body) :
    g.expandItems cfg draw (.word w :: rest) p d s =
      let r := g.expandItems cfg draw body (cfg.entryProbability (decay p) (d+1)) (d+1) s₁
      let tail := g.expandItems cfg draw rest p d r.source
      ⟨r.items ++ Word.commaTail w ++ tail.items, (cfg.maxDepth ≤ d+1 || r.limitHit) || tail.limitHit,
        tail.source⟩ := by
  rw [expandItems]
  simp only [Word.base] at hb
  simp [hw, hu, hd, hp, hb, Word.commaTail]

/-- A reference without a production whose draw succeeds becomes the fallback, then its comma. -/
theorem expandItems_unresolved (hw : Word.isReference w = true) (hu : draw s = (u,s₁))
    (hd : d < cfg.maxDepth) (hp : u.below p = true) (hb : g.lookup (Word.base w) = none) :
    g.expandItems cfg draw (.word w :: rest) p d s =
      let tail := g.expandItems cfg draw rest p d s₁
      ⟨cfg.unresolved (Word.base w) :: (Word.commaTail w ++ tail.items), tail.limitHit,
        tail.source⟩ := by
  rw [expandItems]
  simp only [Word.base] at hb
  simp [hw, hu, hd, hp, hb, Word.commaTail, Word.base]

end Reference

/-- Induction along the recursion of `expandItems`. A case receives the hypotheses for every
call its head makes: the body and the rest of a substitution, the items and the rest of a
group, each at the draw source that call starts from. -/
@[elab_as_elim]
theorem expandItems_induction (g : Grammar) (cfg : Config) (draw : σ → Draw × σ)
    {motive : List Node → Float → Nat → σ → Prop}
    (nil : ∀ p d s, motive [] p d s)
    (literal : ∀ w rest p d s, Word.isReference w = false →
      motive rest (decay p) d s → motive (.word w :: rest) p d s)
    (group : ∀ cs rest p d s, motive cs (cfg.entryProbability (decay p) (d+1)) (d+1) s →
      motive rest (decay p) d
        (g.expandItems cfg draw cs (cfg.entryProbability (decay p) (d+1)) (d+1) s).source →
      motive (.group cs :: rest) p d s)
    (kept : ∀ w rest p d s u s₁, Word.isReference w = true → draw s = (u,s₁) →
      ¬(d < cfg.maxDepth ∧ u.below p = true) → motive rest p d s₁ →
      motive (.word w :: rest) p d s)
    (substituted : ∀ w rest body p d s u s₁, Word.isReference w = true → draw s = (u,s₁) →
      d < cfg.maxDepth → u.below p = true → g.lookup (Word.base w) = some body →
      motive body (cfg.entryProbability (decay p) (d+1)) (d+1) s₁ →
      motive rest p d
        (g.expandItems cfg draw body (cfg.entryProbability (decay p) (d+1)) (d+1) s₁).source →
      motive (.word w :: rest) p d s)
    (unresolved : ∀ w rest p d s u s₁, Word.isReference w = true → draw s = (u,s₁) →
      d < cfg.maxDepth → u.below p = true → g.lookup (Word.base w) = none →
      motive rest p d s₁ → motive (.word w :: rest) p d s)
    (items : List Node) (p : Float) (d : Nat) (s : σ) : motive items p d s := by
  induction items, p, d, s using expandItems.induct g cfg draw with
  | case1 p d s => exact nil p d s
  | case2 w rest p d s hw u s₁ hu hyes _ b c hbc sub hit s₂ hm ihb ihr =>
    -- the generated principle abstracts the lookup; split it back into its two outcomes
    have hb : Word.base w = b := by simp [Word.base, hbc]
    cases hl : g.lookup b with
    | none =>
      rw [hl] at hm
      cases hm
      exact unresolved w rest p d s u s₁ hw hu hyes.1 hyes.2 (hb ▸ hl) ihr
    | some body =>
      rw [hl] at hm
      cases hm
      exact substituted w rest body p d s u s₁ hw hu hyes.1 hyes.2 (hb ▸ hl) (ihb body) ihr
  | case3 w rest p d s hw u s₁ hu hno ihr => exact kept w rest p d s u s₁ hw hu hno ihr
  | case4 w rest p d s hw ihr => exact literal w rest p d s (by simpa using hw) ihr
  | case5 cs rest p d s _ ihc ihr => exact group cs rest p d s ihc ihr

end Grammar

end StochasticGrammar
