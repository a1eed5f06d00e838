import StochasticGrammar.Grammar.Basic
import StochasticGrammar.Config
import StochasticGrammar.Random
import StochasticGrammar.Token

/-! Expansion of a tree by a grammar: a reference is replaced when its draw lies below the running
probability, which squares after every other item and is zero from the depth limit on. -/
namespace StochasticGrammar

open StochasticGrammar.Random

/-- The probability one level deeper: the square. -/
def decay (p : Float) : Float := p * p

/-- What expanding a sequence gives: its items, whether a sequence met the depth limit, and
the draw source after the draws made. -/
structure Expanded (σ : Type) where
  items : List Node
  limitHit : Bool
  source : σ

namespace Config

/-- The probability a sequence at `depth` starts with. -/
def entryProbability (cfg : Config) (p : Float) (depth : Nat) : Float :=
  if cfg.maxDepth ≤ depth then 0.0 else p

/-- What a reference with base `b` and no production becomes. -/
def unresolved (cfg : Config) (b : String) : Node :=
  match cfg.fallback with
  | .literal => .word b
  | .grouped => .group [.word b]

end Config

namespace Grammar

variable {σ : Type}

/-- Expands the items of a sequence at `depth` with running probability `p`. -/
def expandItems (g : Grammar) (cfg : Config) (draw : σ → Draw × σ) :
    List Node → Float → Nat → σ → Expanded σ
  | [], _, _, s => ⟨[], false, s⟩
  | .word w :: rest, p, depth, s =>
    if Word.isReference w then
      let (u, s₁) := draw s
      if h : depth < cfg.maxDepth ∧ u.below p = true then
        have _ : depth < cfg.maxDepth := h.1
        let (b, hadComma) := Word.stripCommaMarker w
        let (sub, hit, s₂) : List Node × Bool × σ := match g.lookup b with
          | some body =>
            let r := expandItems g cfg draw body (cfg.entryProbability (decay p) (depth + 1))
              (depth + 1) s₁
            (r.items, cfg.maxDepth ≤ depth + 1 || r.limitHit, r.source)
          | none => ([cfg.unresolved b], false, s₁)
        let tail := expandItems g cfg draw rest p depth s₂
        ⟨sub ++ (if hadComma then [Node.word Word.commaMarker] else []) ++ tail.items,
          hit || tail.limitHit, tail.source⟩
      else
        let tail := expandItems g cfg draw rest p depth s₁
        ⟨.word w :: tail.items, tail.limitHit, tail.source⟩
    else
      let tail := expandItems g cfg draw rest (decay p) depth s
      ⟨.word w :: tail.items, tail.limitHit, tail.source⟩
  | .group children :: rest, p, depth, s =>
    let inner := expandItems g cfg draw children (cfg.entryProbability (decay p) (depth + 1))
      (depth + 1) s
    let tail := expandItems g cfg draw rest (decay p) depth inner.source
    ⟨.group inner.items :: tail.items, cfg.maxDepth ≤ depth + 1 || inner.limitHit || tail.limitHit,
      tail.source⟩
termination_by items _ depth => (cfg.maxDepth - depth, sizeOf items)
decreasing_by
  all_goals simp_wf
  all_goals rw [Prod.lex_def]
  all_goals omega

structure Expansion (σ : Type) where
  tree : Node
  limitHit : Bool
  source : σ

/-- Expands a tree with probability `p` at the top: a lone word stays and takes no draw, and
the items of a group are expanded at depth zero. -/
def expand (g : Grammar) (cfg : Config) (draw : σ → Draw × σ) (tree : Node) (p : Float)
    (s : σ) : Expansion σ :=
  match tree with
  | .word w => ⟨.word w, false, s⟩
  | .group items =>
    let r := g.expandItems cfg draw items (cfg.entryProbability p 0) 0 s
    ⟨.group r.items, cfg.maxDepth = 0 || r.limitHit, r.source⟩

end Grammar

end StochasticGrammar
