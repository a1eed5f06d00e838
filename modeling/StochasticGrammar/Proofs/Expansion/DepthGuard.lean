import Mathlib
import StochasticGrammar.Proofs.Expansion.Calls

/-! The report on the depth limit: it is set exactly when a call of the expansion stands at the
limit, and a run that does not meet the limit is the same under every larger limit. -/
namespace StochasticGrammar

open StochasticGrammar.Random

namespace Grammar

variable {σ : Type} {g : Grammar} {cfg : Config} {draw : σ → Draw × σ}

theorem entryProbability_raise_limit {m k : Nat} (hm : cfg.maxDepth ≤ m) (hk : k < cfg.maxDepth)
    (q : Float) : ({ cfg with maxDepth := m } : Config).entryProbability q k =
      cfg.entryProbability q k := by
  rw [Config.entryProbability_of_lt hk, Config.entryProbability_of_lt (by simp only; omega)]

/-- A run that does not meet the limit `cfg.maxDepth` from a frame above it is the same run under
a larger limit: the two agree on every guard the run reads. -/
theorem expandItems_raise_limit {m : Nat} (hm : cfg.maxDepth ≤ m) (items : List Node) (p : Float)
    (d : Nat) (s : σ) (hd : d < cfg.maxDepth)
    (hhit : (g.expandItems cfg draw items p d s).limitHit = false) :
    g.expandItems { cfg with maxDepth := m } draw items p d s = g.expandItems cfg draw items p d s := by
  induction items, p, d, s using expandItems_induction g cfg draw with
  | nil p d s => simp
  | literal w rest p d s hw ih =>
    rw [expandItems_literal hw] at hhit
    rw [expandItems_literal hw, expandItems_literal hw, ih hd hhit]
  | group cs rest p d s ihc ihr =>
    rw [expandItems_group] at hhit
    simp only [Bool.or_eq_false_iff, decide_eq_false_iff_not, Nat.not_le] at hhit
    obtain ⟨⟨hlt, hc⟩, hr⟩ := hhit
    rw [expandItems_group, expandItems_group, entryProbability_raise_limit hm hlt, ihc hlt hc]
    dsimp only
    rw [ihr hd hr]
    have hm' : ¬m ≤ d + 1 := by omega
    simp [hm', Nat.not_le.2 hlt]
  | kept w rest p d s u s₁ hw hu hno ih =>
    rw [expandItems_kept hw hu hno] at hhit
    -- above the limit the draw failed, and it fails under the larger limit too
    have hno' : ¬(d < ({ cfg with maxDepth := m } : Config).maxDepth ∧ u.below p = true) :=
      fun h => hno ⟨hd, h.2⟩
    rw [expandItems_kept hw hu hno, expandItems_kept hw hu hno', ih hd hhit]
  | substituted w rest body p d s u s₁ hw hu hd' hp hb ihb ihr =>
    rw [expandItems_substituted hw hu hd' hp hb] at hhit
    simp only [Bool.or_eq_false_iff, decide_eq_false_iff_not, Nat.not_le] at hhit
    obtain ⟨⟨hlt, hbh⟩, hr⟩ := hhit
    have hd'' : d < ({ cfg with maxDepth := m } : Config).maxDepth := by simp only; omega
    rw [expandItems_substituted hw hu hd' hp hb, expandItems_substituted hw hu hd'' hp hb,
      entryProbability_raise_limit hm hlt, ihb hlt hbh]
    dsimp only
    rw [ihr hd hr]
    have hm' : ¬m ≤ d + 1 := by omega
    simp [hm', Nat.not_le.2 hlt]
  | unresolved w rest p d s u s₁ hw hu hd' hp hb ih =>
    rw [expandItems_unresolved hw hu hd' hp hb] at hhit
    have hd'' : d < ({ cfg with maxDepth := m } : Config).maxDepth := by simp only; omega
    rw [expandItems_unresolved hw hu hd' hp hb, expandItems_unresolved hw hu hd'' hp hb, ih hd hhit]
    -- the fallback reads only the policy, which both settings share
    rfl

/-- An expansion that does not meet the limit is the same expansion under every larger limit. -/
theorem expand_raise_limit {m : Nat} (hm : cfg.maxDepth ≤ m) (t : Node) (p : Float) (s : σ)
    (hhit : (g.expand cfg draw t p s).limitHit = false) :
    g.expand { cfg with maxDepth := m } draw t p s = g.expand cfg draw t p s := by
  cases t with
  | word w => rfl
  | group xs =>
    rw [expand_group] at hhit
    simp only [Bool.or_eq_false_iff, decide_eq_false_iff_not] at hhit
    obtain ⟨h0, hr⟩ := hhit
    have hpos : 0 < cfg.maxDepth := Nat.pos_of_ne_zero h0
    rw [expand_group, expand_group, entryProbability_raise_limit hm hpos,
      expandItems_raise_limit hm _ _ 0 s hpos hr]
    have hm0 : m ≠ 0 := by omega
    simp [hm0, h0]

/-- Some call made from the frame `a`, `a` itself included, stands at the limit or past it. -/
def MeetsLimit (g : Grammar) (cfg : Config) (draw : σ → Draw × σ) (a : Frame σ) : Prop :=
  ∃ f, Relation.ReflTransGen (g.Calls cfg draw) a f ∧ cfg.maxDepth ≤ f.depth

theorem MeetsLimit.of_le {a : Frame σ} (h : cfg.maxDepth ≤ a.depth) : g.MeetsLimit cfg draw a :=
  ⟨a, .refl, h⟩

theorem Calls.meetsLimit {a b : Frame σ} (hab : g.Calls cfg draw a b) :
    g.MeetsLimit cfg draw b → g.MeetsLimit cfg draw a
  | ⟨f, hbf, hf⟩ => ⟨f, .head hab hbf, hf⟩

theorem MeetsLimit.of_entered {a b : Frame σ} (hab : g.Calls cfg draw a b)
    (ih : b.depth < cfg.maxDepth → (g.expandItems cfg draw b.items b.probability b.depth
      b.source).limitHit = true → g.MeetsLimit cfg draw b)
    (h : (cfg.maxDepth ≤ b.depth || (g.expandItems cfg draw b.items b.probability b.depth
      b.source).limitHit) = true) : g.MeetsLimit cfg draw a := by
  refine hab.meetsLimit ?_
  by_cases hb : cfg.maxDepth ≤ b.depth
  · exact .of_le hb
  · simp only [hb, decide_false, Bool.false_or] at h
    exact ih (Nat.lt_of_not_le hb) h

/-- The flag of a run from above the limit is set only when one of its calls meets the limit. -/
theorem meetsLimit_of_limitHit (items : List Node) (p : Float) (d : Nat) (s : σ)
    (hd : d < cfg.maxDepth) (hhit : (g.expandItems cfg draw items p d s).limitHit = true) :
    g.MeetsLimit cfg draw ⟨items, p, d, s⟩ := by
  induction items, p, d, s using expandItems_induction g cfg draw with
  | nil p d s => simp at hhit
  | literal w rest p d s hw ih =>
    rw [expandItems_literal hw] at hhit
    exact (Calls.afterLiteral hw).meetsLimit (ih hd hhit)
  | group cs rest p d s ihc ihr =>
    rw [expandItems_group] at hhit
    simp only [Bool.or_eq_true] at hhit
    rcases hhit with hc | hr
    · exact MeetsLimit.of_entered .children ihc (by simpa using hc)
    · exact Calls.afterGroup.meetsLimit (ihr hd hr)
  | kept w rest p d s u s₁ hw hu hno ih =>
    rw [expandItems_kept hw hu hno] at hhit
    exact (Calls.afterKept hw hu hno).meetsLimit (ih hd hhit)
  | substituted w rest body p d s u s₁ hw hu hd' hp hb ihb ihr =>
    rw [expandItems_substituted hw hu hd' hp hb] at hhit
    simp only [Bool.or_eq_true] at hhit
    rcases hhit with hbh | hr
    · exact MeetsLimit.of_entered (Calls.body hw hu hd' hp hb) ihb (by simpa using hbh)
    · exact (Calls.afterBody hw hu hd' hp hb).meetsLimit (ihr hd hr)
  | unresolved w rest p d s u s₁ hw hu hd' hp hb ih =>
    rw [expandItems_unresolved hw hu hd' hp hb] at hhit
    exact (Calls.afterUnresolved hw hu hd' hp hb).meetsLimit (ih hd hhit)

/-- The step of the converse: a call above the limit whose callee meets the limit, by its own
depth or by its flag, has its flag set. -/
theorem Calls.limitHit_of_callee {a b : Frame σ} (hab : g.Calls cfg draw a b)
    (ha : a.depth < cfg.maxDepth)
    (hb : b.depth < cfg.maxDepth →
      (g.expandItems cfg draw b.items b.probability b.depth b.source).limitHit = true)
    (hmeet : g.MeetsLimit cfg draw b) :
    (g.expandItems cfg draw a.items a.probability a.depth a.source).limitHit = true := by
  -- a callee one level down meets the limit by standing at it or by its flag
  have hentered : b.depth = a.depth + 1 →
      (cfg.maxDepth ≤ a.depth + 1 ||
        (g.expandItems cfg draw b.items b.probability b.depth b.source).limitHit) = true := by
    intro hdepth
    by_cases hle : cfg.maxDepth ≤ a.depth + 1
    · simp [hle]
    · simp [hb (by omega)]
  cases hab with
  | body hw hu hd hp hb' =>
    rw [expandItems_substituted hw hu hd hp hb']
    simp [hentered rfl]
  | afterBody hw hu hd hp hb' =>
    rw [expandItems_substituted hw hu hd hp hb']
    simp [hb ha]
  | afterUnresolved hw hu hd hp hb' =>
    rw [expandItems_unresolved hw hu hd hp hb']
    exact hb ha
  | afterKept hw hu hno =>
    rw [expandItems_kept hw hu hno]
    exact hb ha
  | afterLiteral hw =>
    rw [expandItems_literal hw]
    exact hb ha
  | children =>
    rw [expandItems_group]
    simp [hentered rfl]
  | afterGroup =>
    rw [expandItems_group]
    simp [hb ha]

/-- The run of the converse, along the chain of calls down to one that meets the limit. -/
theorem limitHit_of_meetsLimit {a : Frame σ} (ha : a.depth < cfg.maxDepth)
    (hmeet : g.MeetsLimit cfg draw a) :
    (g.expandItems cfg draw a.items a.probability a.depth a.source).limitHit = true := by
  obtain ⟨f, haf, hf⟩ := hmeet
  induction haf using Relation.ReflTransGen.head_induction_on with
  | refl => omega
  | head hab hbf ih =>
    exact hab.limitHit_of_callee ha (fun hb => ih hb) ⟨f, hbf, hf⟩

/-- The flag of a run from above the limit holds iff one of its calls meets the limit. -/
theorem limitHit_iff_meetsLimit (items : List Node) (p : Float) (d : Nat) (s : σ)
    (hd : d < cfg.maxDepth) :
    (g.expandItems cfg draw items p d s).limitHit = true ↔ g.MeetsLimit cfg draw ⟨items, p, d, s⟩ :=
  ⟨meetsLimit_of_limitHit items p d s hd, limitHit_of_meetsLimit (a := ⟨items, p, d, s⟩) hd⟩

/-- The flag of an expansion holds iff one of the calls that expansion makes stands at the
limit or past it. -/
theorem expand_limitHit_iff (t : Node) (p : Float) (s : σ) :
    (g.expand cfg draw t p s).limitHit = true ↔
      ∃ f, g.ExpandCall cfg draw t p s f ∧ cfg.maxDepth ≤ f.depth := by
  cases t with
  | word w => simp [ExpandCall]
  | group xs =>
    rw [expand_group]
    by_cases h0 : cfg.maxDepth = 0
    · simp only [h0, decide_true, Bool.true_or, true_iff]
      exact ⟨_, .refl, Nat.zero_le _⟩
    · simp only [h0, decide_false, Bool.false_or]
      exact limitHit_iff_meetsLimit xs _ 0 s (Nat.pos_of_ne_zero h0)

/-- The depth guard is invisible to runs that do not meet it. The flag an expansion reports is
worked out from that expansion's own calls alone: it holds iff one of them stands at the limit
or past it. And when it does not hold, raising the limit changes nothing: the same tree, the
same source afterwards, and again no report. -/
theorem expand_depthGuard_invisible (g : Grammar) (cfg : Config) (draw : σ → Draw × σ) (t : Node)
    (p : Float) (s : σ) :
    ((g.expand cfg draw t p s).limitHit = true ↔
        ∃ f, g.ExpandCall cfg draw t p s f ∧ cfg.maxDepth ≤ f.depth) ∧
      ∀ m, cfg.maxDepth ≤ m → (g.expand cfg draw t p s).limitHit = false →
        (g.expand { cfg with maxDepth := m } draw t p s).tree = (g.expand cfg draw t p s).tree ∧
          (g.expand { cfg with maxDepth := m } draw t p s).source =
            (g.expand cfg draw t p s).source ∧
          (g.expand { cfg with maxDepth := m } draw t p s).limitHit = false := by
  refine ⟨expand_limitHit_iff t p s, fun m hm hhit => ?_⟩
  rw [expand_raise_limit hm t p s hhit]
  exact ⟨rfl, rfl, hhit⟩

/-- A reference replaced at the top under the limit two: its body is read one level down, above
the limit, so the flag stays clear and the limit five gives the same run. -/
theorem expand_depthGuard_invisible_substitution :
    let g : Grammar := ⟨[("X", [.word "x"])]⟩
    let cfg : Config := { maxDepth := 2 }
    let draw : Unit → Draw × Unit := fun _ => (⟨0, by decide⟩, ())
    let t : Node := .group [.word "X"]
    cfg.maxDepth ≤ 5 ∧ (g.expand cfg draw t 0.5 ()).limitHit = false ∧
      (g.expand { cfg with maxDepth := 5 } draw t 0.5 ()).tree = (g.expand cfg draw t 0.5 ()).tree ∧
      (g.expand { cfg with maxDepth := 5 } draw t 0.5 ()).source =
        (g.expand cfg draw t 0.5 ()).source ∧
      (g.expand { cfg with maxDepth := 5 } draw t 0.5 ()).limitHit = false := by
  intro g cfg draw t
  have hu : draw () = (⟨0, by decide⟩, ()) := rfl
  have hb : g.lookup (Word.base "X") = some [.word "x"] := by decide
  have hhit : (g.expand cfg draw t 0.5 ()).limitHit = false := by
    rw [expand_group, expandItems_substituted (by decide) hu (by decide) (by decide) hb,
      expandItems_literal (by decide)]
    simp [cfg]
  exact ⟨by decide, hhit, (expand_depthGuard_invisible g cfg draw t 0.5 ()).2 5 (by decide) hhit⟩

end Grammar

end StochasticGrammar
