import Mathlib
import StochasticGrammar.Proofs.Expansion.Equations

/-! Expansion with nothing to substitute: from zero of either sign, or not a number, every
reference keeps its place and takes one draw. -/
namespace StochasticGrammar

open StochasticGrammar.Random

/-- The one value that every not-a-number float is, since the model keeps a single `NaN`. -/
theorem eq_nan_of_isNaN {p : Float} (h : p.isNaN = true) : p = Float.ofBits 0x7FF8000000000000 := by
  obtain ⟨⟨b, hv⟩⟩ := p
  simp only [Float.isNaN, Float.Model.isNaN, Float.Model.unpack,
    Float.Model.UnpackedFloat.unpack] at h
  split at h
  · split at h
    · simp [Float.Model.UnpackedFloat.isNaN] at h
    · rename_i hexp hmant
      -- a valid NaN pattern is the canonical one
      have hb : b = UInt64.ofBitVec (Float.Model.UnpackedFloat.packedNaN .binary64) := by
        rw [← hv.eq_packedNaN hexp hmant]
      subst hb
      rfl
  · split at h
    · split at h <;> simp [Float.Model.UnpackedFloat.isNaN] at h
    · simp [Float.Model.UnpackedFloat.isNaN] at h

/-- A probability that no draw lies below however often it is squared: zero of either sign, or
not a number. -/
def Inert (p : Float) : Prop := p = 0.0 ∨ p = -0.0 ∨ p.isNaN = true

namespace Inert

variable {p : Float}

theorem zero : Inert 0.0 := Or.inl rfl

theorem below (hp : Inert p) (u : Draw) : u.below p = false := by
  rcases hp with rfl | rfl | hn
  · have h : (0.0 : Float).toBits = 0 := by decide
    simp [Draw.below, h, -Nat.reducePow]
  · have h : (-0.0 : Float).toBits = 0x8000000000000000 := by decide
    simp [Draw.below, h, -Nat.reducePow]
  · have h : (Float.ofBits 0x7FF8000000000000).toBits = 0x7FF8000000000000 := by decide
    rw [eq_nan_of_isNaN hn]
    simp [Draw.below, h, -Nat.reducePow]

theorem decay (hp : Inert p) : Inert (decay p) := by
  rcases hp with rfl | rfl | hn
  · exact Or.inl (by decide)
  · exact Or.inl (by decide)
  · rw [eq_nan_of_isNaN hn]
    exact Or.inr (Or.inr (by decide))

theorem entryProbability (hp : Inert p) (cfg : Config) (d : Nat) :
    Inert (cfg.entryProbability p d) := by
  unfold Config.entryProbability
  split
  · exact zero
  · exact hp

end Inert

theorem inert_entryProbability_of_maxDepth {cfg : Config} (h : cfg.maxDepth = 0) (p : Float) :
    Inert (cfg.entryProbability p 0) := by
  simp [Config.entryProbability, h, Inert.zero]

namespace Node

/-- The reference words among the words of a list of trees, at every depth. -/
def referenceCount (items : List Node) : Nat := (wordsOf items).countP Word.isReference

/-- The draws an expansion that substitutes nothing takes: one for each reference word of a
group at any depth, and none for a lone word, which expansion does not read. -/
def referenceDraws : Node → Nat
  | .word _ => 0
  | .group xs => referenceCount xs

@[simp] theorem referenceCount_nil : referenceCount [] = 0 := rfl

theorem referenceCount_word (w : String) (rest : List Node) :
    referenceCount (.word w :: rest) = referenceCount rest + if Word.isReference w then 1 else 0 := by
  simp [referenceCount, List.countP_cons]

theorem referenceCount_group (cs rest : List Node) :
    referenceCount (.group cs :: rest) = referenceCount rest + referenceCount cs := by
  simp [referenceCount, List.countP_append, Nat.add_comm]

end Node

namespace Grammar

variable {σ : Type}

/-- From an inert probability a sequence comes back as it was, and the source has moved on by
one draw for each reference word in it. The probability stays inert on the way: the rest after
a literal or a group is read with its square, and a group with the square or with zero. -/
theorem expandItems_of_inert (g : Grammar) (cfg : Config) (draw : σ → Draw × σ) (items : List Node)
    (p : Float) (d : Nat) (s : σ) (hp : Inert p) :
    (g.expandItems cfg draw items p d s).items = items ∧
      (g.expandItems cfg draw items p d s).source =
        (fun s => (draw s).2)^[Node.referenceCount items] s := by
  induction items, p, d, s using expandItems_induction g cfg draw with
  | nil p d s => simp
  | literal w rest p d s hw ih =>
    obtain ⟨hitems, hsource⟩ := ih hp.decay
    rw [expandItems_literal hw]
    simp [hitems, hsource, Node.referenceCount_word, hw]
  | group cs rest p d s ihc ihr =>
    obtain ⟨hcs, hcsource⟩ := ihc (hp.decay.entryProbability cfg (d+1))
    obtain ⟨hrest, hrsource⟩ := ihr hp.decay
    rw [expandItems_group]
    refine ⟨by simp [hcs, hrest], ?_⟩
    simp only [hrsource, Node.referenceCount_group, Function.iterate_add_apply]
    rw [hcsource]
  | kept w rest p d s u s₁ hw hu hno ih =>
    obtain ⟨hitems, hsource⟩ := ih hp
    have hs₁ : (draw s).2 = s₁ := by rw [hu]
    rw [expandItems_kept hw hu hno]
    refine ⟨by simp [hitems], ?_⟩
    simp only [hsource, Node.referenceCount_word, hw, if_true, Function.iterate_succ_apply, hs₁]
  | substituted w rest body p d s u s₁ hw hu hd hbelow =>
    simp [hp.below u] at hbelow
  | unresolved w rest p d s u s₁ hw hu hd hbelow =>
    simp [hp.below u] at hbelow

/-- Zero probability is the identity: when the probability is zero of either sign or not a
number, or the depth limit is zero, expanding a tree gives the tree back, and the source ends
one draw on for each reference word of the tree (none for a lone word). -/
theorem expand_of_zero_probability (g : Grammar) (cfg : Config) (draw : σ → Draw × σ) (t : Node)
    (p : Float) (s : σ) (hp : p = 0.0 ∨ p = -0.0 ∨ p.isNaN = true ∨ cfg.maxDepth = 0) :
    (g.expand cfg draw t p s).tree = t ∧
      (g.expand cfg draw t p s).source = (fun s => (draw s).2)^[t.referenceDraws] s := by
  have hentry : Inert (cfg.entryProbability p 0) := by
    rcases hp with h | h | h | h
    · exact Inert.entryProbability (Or.inl h) cfg 0
    · exact Inert.entryProbability (Or.inr (Or.inl h)) cfg 0
    · exact Inert.entryProbability (Or.inr (Or.inr h)) cfg 0
    · exact inert_entryProbability_of_maxDepth h p
  cases t with
  | word w => simp [Node.referenceDraws]
  | group xs =>
    obtain ⟨hitems, hsource⟩ := expandItems_of_inert g cfg draw xs _ 0 s hentry
    rw [expand_group]
    exact ⟨by simp [hitems], hsource⟩

/-- Negative zero at the top of a tree with references at two depths, against a production that
names itself, with the seeded stream as source. -/
theorem expand_of_zero_probability_negZero :
    let g : Grammar := ⟨[("X",[.group [.word "X",.word "and",.word "Y"]])]⟩
    let t : Node := .group [.word "X",.word "and",.group [.word "CHEESE_COMMA",.word "X"]]
    ((-0.0 : Float) = 0.0 ∨ (-0.0 : Float) = -0.0 ∨ (-0.0 : Float).isNaN = true ∨
        ({} : Config).maxDepth = 0) ∧
      (g.expand {} Stream.draw t (-0.0) (Stream.ofSeed 7)).tree = t ∧
      (g.expand {} Stream.draw t (-0.0) (Stream.ofSeed 7)).source =
        (fun s => (Stream.draw s).2)^[t.referenceDraws] (Stream.ofSeed 7) := by
  intro g t
  have hp : (-0.0 : Float) = 0.0 ∨ (-0.0 : Float) = -0.0 ∨ (-0.0 : Float).isNaN = true ∨
      ({} : Config).maxDepth = 0 := Or.inr (Or.inl rfl)
  exact ⟨hp, expand_of_zero_probability g {} Stream.draw t (-0.0) _ hp⟩

end Grammar

end StochasticGrammar
