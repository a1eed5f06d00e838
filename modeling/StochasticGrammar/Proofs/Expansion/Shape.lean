import Mathlib
import StochasticGrammar.Proofs.Expansion.Equations
import StochasticGrammar.Proofs.Expansion.Calls

/-! What expansion gives: a derivation of its input, the same words under either fallback, and a
tree no deeper than the input or the depth limit plus one replacement. -/
namespace StochasticGrammar

open StochasticGrammar.Random

namespace Grammar

/-- `g.Derives policy xs ys`: the sequence `ys` is one way to expand `xs`. A word that is no
reference stays; a group gives one group of what its items derive; a reference stays, or gives
way to what its body derives, or, for a name without a production, to the fallback `policy`
names, which is not expanded again. A comma marker on a replaced reference follows the
replacement as a word of its own. -/
inductive Derives (g : Grammar) : Fallback → List Node → List Node → Prop
  | nil {policy} : Derives g policy [] []
  | literal {policy w xs ys} (hw : Word.isReference w = false) (tail : Derives g policy xs ys) :
      Derives g policy (.word w :: xs) (.word w :: ys)
  | group {policy cs ds xs ys} (inner : Derives g policy cs ds) (tail : Derives g policy xs ys) :
      Derives g policy (.group cs :: xs) (.group ds :: ys)
  | kept {policy w xs ys} (hw : Word.isReference w = true) (tail : Derives g policy xs ys) :
      Derives g policy (.word w :: xs) (.word w :: ys)
  | substituted {policy w body zs xs ys} (hw : Word.isReference w = true)
      (hb : g.lookup (Word.base w) = some body) (sub : Derives g policy body zs)
      (tail : Derives g policy xs ys) :
      Derives g policy (.word w :: xs) (zs ++ Word.commaTail w ++ ys)
  | literalFallback {w xs ys} (hw : Word.isReference w = true)
      (hb : g.lookup (Word.base w) = none) (tail : Derives g .literal xs ys) :
      Derives g .literal (.word w :: xs) (.word (Word.base w) :: (Word.commaTail w ++ ys))
  | groupedFallback {w xs ys} (hw : Word.isReference w = true)
      (hb : g.lookup (Word.base w) = none) (tail : Derives g .grouped xs ys) :
      Derives g .grouped (.word w :: xs) (.group [.word (Word.base w)] :: (Word.commaTail w ++ ys))

/-- `g.DerivesTree policy t t'`: a lone word derives only itself, and a group a group of what
its items derive. -/
inductive DerivesTree (g : Grammar) (policy : Fallback) : Node → Node → Prop
  | word (w : String) : DerivesTree g policy (.word w) (.word w)
  | group {xs ys} (h : g.Derives policy xs ys) : DerivesTree g policy (.group xs) (.group ys)

variable {σ : Type} {g : Grammar} {cfg : Config} {draw : σ → Draw × σ}

theorem Derives.unresolved {w : String} {xs ys : List Node} (hw : Word.isReference w = true)
    (hb : g.lookup (Word.base w) = none) (tail : g.Derives cfg.fallback xs ys) :
    g.Derives cfg.fallback (.word w :: xs)
      (cfg.unresolved (Word.base w) :: (Word.commaTail w ++ ys)) := by
  unfold Config.unresolved
  cases hf : cfg.fallback with
  | literal =>
    rw [hf] at tail
    exact .literalFallback hw hb tail
  | grouped =>
    rw [hf] at tail
    exact .groupedFallback hw hb tail

/-- Whatever the draws, the probability and the depth, expanding a sequence derives it. -/
theorem expandItems_derives (items : List Node) (p : Float) (d : Nat) (s : σ) :
    g.Derives cfg.fallback items (g.expandItems cfg draw items p d s).items := by
  induction items, p, d, s using expandItems_induction g cfg draw with
  | nil p d s => simpa using Derives.nil
  | literal w rest p d s hw ih =>
    rw [expandItems_literal hw]
    exact .literal hw ih
  | group cs rest p d s ihc ihr =>
    rw [expandItems_group]
    exact .group ihc ihr
  | kept w rest p d s u s₁ hw hu hno ih =>
    rw [expandItems_kept hw hu hno]
    exact .kept hw ih
  | substituted w rest body p d s u s₁ hw hu hd hp hb ihb ihr =>
    rw [expandItems_substituted hw hu hd hp hb]
    exact .substituted hw hb ihb ihr
  | unresolved w rest p d s u s₁ hw hu hd hp hb ih =>
    rw [expandItems_unresolved hw hu hd hp hb]
    exact .unresolved hw hb ih

/-- Expansion is sound for derivation: a lone word comes back unchanged, and a group comes back
as a group of a derivation of its items, for every grammar, policy, depth limit, probability
and source of draws. -/
theorem expand_derivesTree (g : Grammar) (cfg : Config) (draw : σ → Draw × σ) (t : Node)
    (p : Float) (s : σ) : g.DerivesTree cfg.fallback t (g.expand cfg draw t p s).tree := by
  cases t with
  | word w => exact .word w
  | group xs =>
    rw [expand_group]
    exact .group (expandItems_derives xs _ 0 s)

end Grammar

namespace Node

mutual
/-- `Wraps a b`: `b` is `a` with some of its words put each in a group of its own. -/
inductive Wraps : Node → Node → Prop
  | word (x : String) : Wraps (.word x) (.word x)
  | wrap (x : String) : Wraps (.word x) (.group [.word x])
  | group {as bs : List Node} (h : WrapsAll as bs) : Wraps (.group as) (.group bs)
inductive WrapsAll : List Node → List Node → Prop
  | nil : WrapsAll [] []
  | cons {a b : Node} {as bs : List Node} (h : Wraps a b) (t : WrapsAll as bs) :
      WrapsAll (a :: as) (b :: bs)
end

mutual
theorem Wraps.refl : (a : Node) → Wraps a a
  | .word x => .word x
  | .group as => .group (WrapsAll.refl as)
theorem WrapsAll.refl : (as : List Node) → WrapsAll as as
  | [] => .nil
  | a :: as => .cons (Wraps.refl a) (WrapsAll.refl as)
end

theorem WrapsAll.append {as bs cs ds : List Node} :
    WrapsAll as bs → WrapsAll cs ds → WrapsAll (as ++ cs) (bs ++ ds)
  | .nil, h => h
  | .cons h t, h' => .cons h (t.append h')

mutual
theorem Wraps.words_eq {a b : Node} : Wraps a b → a.words = b.words
  | .word _ => rfl
  | .wrap _ => rfl
  | .group h => by simpa using h.wordsOf_eq
theorem WrapsAll.wordsOf_eq {as bs : List Node} : WrapsAll as bs → wordsOf as = wordsOf bs
  | .nil => rfl
  | .cons h t => by simp [h.words_eq, t.wordsOf_eq]
end

mutual
theorem Wraps.depth_le {a b : Node} : Wraps a b → a.depth ≤ b.depth ∧ b.depth ≤ a.depth + 1
  | .word _ => by simp [depth]
  | .wrap _ => by simp [depth, depthOf]
  | .group h => by
    have := h.depthOf_le
    simp only [depth]
    omega
theorem WrapsAll.depthOf_le {as bs : List Node} :
    WrapsAll as bs → depthOf as ≤ depthOf bs ∧ depthOf bs ≤ depthOf as + 1
  | .nil => by simp [depthOf]
  | .cons h t => by
    have := h.depth_le
    have := t.depthOf_le
    simp only [depthOf]
    omega
end

end Node

namespace Grammar

variable {σ : Type}

section Simulation

variable (g : Grammar) (draw : σ → Draw × σ) (c₁ c₂ : Config)
  (hdepth : c₁.maxDepth = c₂.maxDepth) (h₁ : c₁.fallback = .literal) (h₂ : c₂.fallback = .grouped)
include hdepth h₁ h₂

/-- Two settings that differ only in their fallback, run in step from the same arguments, make
the same draws, carry the same probabilities and depths, meet the limit alike, and give items
related by `WrapsAll`. -/
theorem expandItems_fallback_simulation (items : List Node) (p : Float) (d : Nat) (s : σ) :
    (g.expandItems c₁ draw items p d s).source = (g.expandItems c₂ draw items p d s).source ∧
      (g.expandItems c₁ draw items p d s).limitHit = (g.expandItems c₂ draw items p d s).limitHit ∧
      Node.WrapsAll (g.expandItems c₁ draw items p d s).items
        (g.expandItems c₂ draw items p d s).items := by
  have hentry := Config.entryProbability_eq_of_maxDepth_eq hdepth
  induction items, p, d, s using expandItems_induction g c₁ draw with
  | nil p d s => simpa using Node.WrapsAll.nil
  | literal w rest p d s hw ih =>
    obtain ⟨hs, hl, hi⟩ := ih
    rw [expandItems_literal hw, expandItems_literal hw]
    exact ⟨hs, hl, .cons (.word w) hi⟩
  | group cs rest p d s ihc ihr =>
    obtain ⟨hcs, hcl, hci⟩ := ihc
    obtain ⟨hrs, hrl, hri⟩ := ihr
    rw [expandItems_group, expandItems_group, ← hentry]
    dsimp only
    -- the grouped run reads the rest from where its group ended, which is where the literal one did
    rw [← hcs]
    exact ⟨hrs, by simp [hdepth, hcl, hrl], .cons (.group hci) hri⟩
  | kept w rest p d s u s₁ hw hu hno ih =>
    obtain ⟨hs, hl, hi⟩ := ih
    rw [expandItems_kept hw hu hno, expandItems_kept hw hu (hdepth ▸ hno)]
    exact ⟨hs, hl, .cons (.word w) hi⟩
  | substituted w rest body p d s u s₁ hw hu hd hp hb ihb ihr =>
    obtain ⟨hbs, hbl, hbi⟩ := ihb
    obtain ⟨hrs, hrl, hri⟩ := ihr
    rw [expandItems_substituted hw hu hd hp hb, expandItems_substituted hw hu (hdepth ▸ hd) hp hb,
      ← hentry]
    dsimp only
    rw [← hbs]
    exact ⟨hrs, by simp [hdepth, hbl, hrl], (hbi.append (Node.WrapsAll.refl _)).append hri⟩
  | unresolved w rest p d s u s₁ hw hu hd hp hb ih =>
    obtain ⟨hs, hl, hi⟩ := ih
    rw [expandItems_unresolved hw hu hd hp hb, expandItems_unresolved hw hu (hdepth ▸ hd) hp hb]
    refine ⟨hs, hl, .cons ?_ ((Node.WrapsAll.refl _).append hi)⟩
    simp only [Config.unresolved, h₁, h₂]
    exact .wrap _

end Simulation

/-- The two fallbacks differ only in nesting: from the same source, expanding a tree under the
literal and under the grouped fallback ends at the same source and with the same report on the
depth limit, and the grouped tree is the literal one with some words put in groups of their
own; so the two have the same words, and the grouped one is at most one level deeper. -/
theorem expand_fallback_wraps (g : Grammar) (cfg : Config) (draw : σ → Draw × σ) (t : Node)
    (p : Float) (s : σ) :
    let a := g.expand { cfg with fallback := .literal } draw t p s
    let b := g.expand { cfg with fallback := .grouped } draw t p s
    a.source = b.source ∧ a.limitHit = b.limitHit ∧ Node.Wraps a.tree b.tree ∧
      a.tree.words = b.tree.words ∧ a.tree.depth ≤ b.tree.depth ∧ b.tree.depth ≤ a.tree.depth + 1 := by
  intro a b
  have hw : Node.Wraps a.tree b.tree ∧ a.source = b.source ∧ a.limitHit = b.limitHit := by
    cases t with
    | word w => exact ⟨.word w, rfl, rfl⟩
    | group xs =>
      obtain ⟨hs, hl, hi⟩ := expandItems_fallback_simulation g draw { cfg with fallback := .literal }
        { cfg with fallback := .grouped } rfl rfl rfl xs (cfg.entryProbability p 0) 0 s
      -- both settings start the items with the same probability, the one `cfg` gives
      exact ⟨.group hi, hs, congrArg (decide (cfg.maxDepth = 0) || ·) hl⟩
  obtain ⟨hwraps, hs, hl⟩ := hw
  exact ⟨hs, hl, hwraps, hwraps.words_eq, hwraps.depth_le⟩

end Grammar

namespace Node

theorem depthOf_append (xs ys : List Node) :
    depthOf (xs ++ ys) = max (depthOf xs) (depthOf ys) := by
  induction xs with
  | nil => simp [depthOf]
  | cons t ts ih =>
    simp only [List.cons_append, depthOf, ih]
    omega

end Node

theorem Word.depthOf_commaTail (w : String) : Node.depthOf (Word.commaTail w) = 0 := by
  unfold Word.commaTail
  split <;> simp [Node.depthOf, Node.depth]

namespace Grammar

/-- The nesting one replacement can bring: that of the deepest production body, and at least
one level under the grouped fallback, which puts a word in a group of its own. The deepest
body is as deep as its deepest item, so this is the greatest depth of any tree in any body,
raised to one under the grouped fallback. -/
def replacementDepth (g : Grammar) (cfg : Config) : Nat :=
  match cfg.fallback with
  | .literal => g.bodyDepth
  | .grouped => max g.bodyDepth 1

variable {σ : Type} {g : Grammar} {cfg : Config} {draw : σ → Draw × σ}

theorem bodyDepth_le_replacementDepth : g.bodyDepth ≤ g.replacementDepth cfg := by
  unfold replacementDepth
  split <;> omega

theorem depth_unresolved_le (b : String) : (cfg.unresolved b).depth ≤ g.replacementDepth cfg := by
  unfold Config.unresolved replacementDepth
  cases cfg.fallback with
  | literal => simp [Node.depth]
  | grouped => simp [Node.depth, Node.depthOf]

/-- The items of a sequence entered at depth `d` come out no deeper than they went in, or than
the levels left above the limit plus the nesting of one replacement, less one. -/
theorem expandItems_depthOf_le (items : List Node) (p : Float) (d : Nat) (s : σ) :
    Node.depthOf (g.expandItems cfg draw items p d s).items ≤
      max (Node.depthOf items) (cfg.maxDepth + g.replacementDepth cfg - (d + 1)) := by
  induction items, p, d, s using expandItems_induction g cfg draw with
  | nil p d s => simp [Node.depthOf]
  | literal w rest p d s hw ih =>
    rw [expandItems_literal hw]
    simp only [Node.depthOf, Node.depth] at ih ⊢
    omega
  | group cs rest p d s ihc ihr =>
    -- the group's items were entered one level down, where one level less is left
    rw [expandItems_group]
    simp only [Node.depthOf, Node.depth] at ihc ihr ⊢
    omega
  | kept w rest p d s u s₁ hw hu hno ih =>
    rw [expandItems_kept hw hu hno]
    simp only [Node.depthOf, Node.depth] at ih ⊢
    omega
  | substituted w rest body p d s u s₁ hw hu hd hp hb ihb ihr =>
    -- the body comes in above the limit, so its own nesting fits in the levels left
    rw [expandItems_substituted hw hu hd hp hb]
    have hbody := depthOf_le_bodyDepth hb
    have hrep : g.bodyDepth ≤ g.replacementDepth cfg := bodyDepth_le_replacementDepth
    simp only [Node.depthOf_append, Word.depthOf_commaTail, Node.depthOf] at ihb ihr ⊢
    omega
  | unresolved w rest p d s u s₁ hw hu hd hp hb ih =>
    rw [expandItems_unresolved hw hu hd hp hb]
    have hfall : (cfg.unresolved (Word.base w)).depth ≤ g.replacementDepth cfg :=
      depth_unresolved_le _
    simp only [Node.depthOf_append, Word.depthOf_commaTail, Node.depthOf] at ih ⊢
    omega

/-- Expansion deepens a tree by no more than the depth limit allows: for every grammar,
setting, probability and draw source, the expanded tree is no deeper than the tree itself or
the depth limit plus the nesting of one replacement (the deepest body, and at least one level
under the grouped fallback). -/
theorem expand_depth_le (g : Grammar) (cfg : Config) (draw : σ → Draw × σ) (t : Node)
    (p : Float) (s : σ) :
    (g.expand cfg draw t p s).tree.depth ≤
      max t.depth (cfg.maxDepth + g.replacementDepth cfg) := by
  cases t with
  | word w => simp [Node.depth]
  | group xs =>
    have h : Node.depthOf (g.expandItems cfg draw xs (cfg.entryProbability p 0) 0 s).items ≤
        max (Node.depthOf xs) (cfg.maxDepth + g.replacementDepth cfg - (0 + 1)) :=
      expandItems_depthOf_le xs _ 0 s
    rw [expand_group]
    simp only [Node.depth] at h ⊢
    omega

end Grammar

end StochasticGrammar
