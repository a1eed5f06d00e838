import Mathlib
import StochasticGrammar.Proofs.Expansion.ZeroProbability
import StochasticGrammar.Proofs.Expansion.Calls

/-! Expansion against its specification, which guards the probability at every call; and on every
call an expansion makes, the guard is decided by the draw alone. -/
namespace StochasticGrammar

open StochasticGrammar.Random

namespace Node

def isReferenceItem : Node → Bool
  | .word w => Word.isReference w
  | .group _ => false

/-- The items that square the running probability: those that are not references. -/
def decayCount (items : List Node) : Nat := items.countP fun x => !x.isReferenceItem

@[simp] theorem decayCount_nil : decayCount [] = 0 := rfl

theorem decayCount_word (w : String) (rest : List Node) :
    decayCount (.word w :: rest) = decayCount rest + if Word.isReference w then 0 else 1 := by
  cases h : Word.isReference w <;> simp [decayCount, isReferenceItem, h]

@[simp] theorem decayCount_group (cs rest : List Node) :
    decayCount (.group cs :: rest) = decayCount rest + 1 := by
  simp [decayCount, isReferenceItem]

end Node

namespace Config

variable {cfg : Config} {d : Nat}

/-- A draw lies below a guarded probability only above the limit. -/
theorem lt_maxDepth_of_below {u : Draw} {p : Float} (h : u.below (cfg.entryProbability p d) = true) :
    d < cfg.maxDepth := by
  by_contra hle
  rw [entryProbability_of_le (Nat.le_of_not_lt hle), Inert.zero.below u] at h
  exact Bool.false_ne_true h

/-- The square of a guarded probability is guarded already: past the limit it is zero squared. -/
theorem entryProbability_decay (p : Float) :
    cfg.entryProbability (decay (cfg.entryProbability p d)) d = decay (cfg.entryProbability p d) := by
  by_cases hd : d < cfg.maxDepth
  · rw [entryProbability_of_lt hd, entryProbability_of_lt hd]
  · have hle := Nat.le_of_not_lt hd
    rw [entryProbability_of_le hle, entryProbability_of_le hle]
    decide

end Config

namespace Grammar

variable {σ : Type}

section Guard

variable {g : Grammar} {cfg : Config} {draw : σ → Draw × σ}

/-- A call at the limit or past it carries an inert probability. -/
def Frame.Guarded (cfg : Config) (f : Frame σ) : Prop :=
  cfg.maxDepth ≤ f.depth → Inert f.probability

/-- A sequence entered at the limit or past it starts from zero. -/
theorem Frame.guarded_entry (xs : List Node) (p : Float) (d : Nat) (s : σ) :
    Frame.Guarded cfg ⟨xs, cfg.entryProbability p d, d, s⟩ := by
  intro hle
  rw [Config.entryProbability_of_le hle]
  exact Inert.zero

theorem Calls.guarded {a b : Frame σ} (h : g.Calls cfg draw a b) (ha : a.Guarded cfg) :
    b.Guarded cfg := by
  cases h with
  | body | children => exact Frame.guarded_entry _ _ _ _
  | afterBody | afterUnresolved | afterKept => exact ha
  | afterLiteral | afterGroup => exact fun hle => (ha hle).decay

theorem guarded_of_reflTransGen {a b : Frame σ} (ha : a.Guarded cfg)
    (h : Relation.ReflTransGen (g.Calls cfg draw) a b) : b.Guarded cfg := by
  induction h with
  | refl => exact ha
  | tail _ hbc ih => exact hbc.guarded ih

theorem ExpandCall.guarded {t : Node} {p : Float} {s : σ} {f : Frame σ}
    (hf : g.ExpandCall cfg draw t p s f) : f.Guarded cfg := by
  cases t with
  | word w => exact hf.elim
  | group xs => exact guarded_of_reflTransGen (Frame.guarded_entry xs p 0 s) hf

/-- On every call made in expanding a tree, the guard is the draw test alone: a draw lies below
the running probability only above the limit, so the depth test never decides a substitution. -/
theorem ExpandCall.guard_iff_below {t : Node} {p : Float} {s : σ} {f : Frame σ}
    (hf : g.ExpandCall cfg draw t p s f) (u : Draw) :
    (f.depth < cfg.maxDepth ∧ u.below f.probability = true) ↔ u.below f.probability = true := by
  refine ⟨And.right, fun hu => ⟨?_, hu⟩⟩
  by_contra hle
  rw [(hf.guarded (Nat.le_of_not_lt hle)).below u] at hu
  exact Bool.false_ne_true hu

end Guard

/-- The specification's reading of a sequence at `depth` from probability `p`: each call first
guards `p`, to zero at the limit or past it, then reads the head and leaves the remainder to a
call of its own. -/
def specItems (g : Grammar) (cfg : Config) (draw : σ → Draw × σ) :
    List Node → Float → Nat → σ → List Node × σ
  | [], _, _, s => ([], s)
  | .word w :: rest, p, depth, s =>
    if Word.isReference w then
      let (u, s₁) := draw s
      if h : u.below (cfg.entryProbability p depth) = true then
        have _ : depth < cfg.maxDepth := Config.lt_maxDepth_of_below h
        let (sub, s₂) : List Node × σ := match g.lookup (Word.base w) with
          | some body =>
            specItems g cfg draw body (decay (cfg.entryProbability p depth)) (depth + 1) s₁
          | none => ([cfg.unresolved (Word.base w)], s₁)
        let (tail, s₃) := specItems g cfg draw rest p depth s₂
        (sub ++ Word.commaTail w ++ tail, s₃)
      else
        let (tail, s₂) := specItems g cfg draw rest p depth s₁
        (.word w :: tail, s₂)
    else
      let (tail, s₁) := specItems g cfg draw rest (decay (cfg.entryProbability p depth)) depth s
      (.word w :: tail, s₁)
  | .group children :: rest, p, depth, s =>
    let (inner, s₁) :=
      specItems g cfg draw children (decay (cfg.entryProbability p depth)) (depth + 1) s
    let (tail, s₂) := specItems g cfg draw rest (decay (cfg.entryProbability p depth)) depth s₁
    (.group inner :: tail, s₂)
termination_by items _ depth => (cfg.maxDepth - depth, sizeOf items)
decreasing_by
  all_goals simp_wf
  all_goals rw [Prod.lex_def]
  all_goals omega

section Equations

variable {g : Grammar} {cfg : Config} {draw : σ → Draw × σ} {w : String} {rest : List Node}
  {p : Float} {d : Nat} {s s₁ : σ} {u : Draw}

@[simp] theorem specItems_nil : g.specItems cfg draw [] p d s = ([], s) := by
  rw [specItems]

theorem specItems_literal (hw : Word.isReference w = false) :
    g.specItems cfg draw (.word w :: rest) p d s =
      let tail := g.specItems cfg draw rest (decay (cfg.entryProbability p d)) d s
      (.word w :: tail.1, tail.2) := by
  rw [specItems]
  simp [hw]

theorem specItems_group (cs : List Node) :
    g.specItems cfg draw (.group cs :: rest) p d s =
      let inner := g.specItems cfg draw cs (decay (cfg.entryProbability p d)) (d + 1) s
      let tail := g.specItems cfg draw rest (decay (cfg.entryProbability p d)) d inner.2
      (.group inner.1 :: tail.1, tail.2) := by
  rw [specItems]

theorem specItems_kept (hw : Word.isReference w = true) (hu : draw s = (u, s₁))
    (hno : u.below (cfg.entryProbability p d) = false) :
    g.specItems cfg draw (.word w :: rest) p d s =
      let tail := g.specItems cfg draw rest p d s₁
      (.word w :: tail.1, tail.2) := by
  rw [specItems]
  simp [hw, hu, hno]

theorem specItems_substituted {body : List Node} (hw : Word.isReference w = true)
    (hu : draw s = (u, s₁)) (hp : u.below (cfg.entryProbability p d) = true)
    (hb : g.lookup (Word.base w) = some body) :
    g.specItems cfg draw (.word w :: rest) p d s =
      let sub := g.specItems cfg draw body (decay (cfg.entryProbability p d)) (d + 1) s₁
      let tail := g.specItems cfg draw rest p d sub.2
      (sub.1 ++ Word.commaTail w ++ tail.1, tail.2) := by
  rw [specItems]
  simp [hw, hu, hp, hb]

theorem specItems_unresolved (hw : Word.isReference w = true) (hu : draw s = (u, s₁))
    (hp : u.below (cfg.entryProbability p d) = true) (hb : g.lookup (Word.base w) = none) :
    g.specItems cfg draw (.word w :: rest) p d s =
      let tail := g.specItems cfg draw rest p d s₁
      (cfg.unresolved (Word.base w) :: (Word.commaTail w ++ tail.1), tail.2) := by
  rw [specItems]
  simp [hw, hu, hp, hb]

end Equations

variable {g : Grammar} {cfg : Config} {draw : σ → Draw × σ}

/-- Expansion from a guarded probability is the specification's reading from any probability
that guards to it. -/
theorem specItems_eq_expandItems (items : List Node) (p : Float) (d : Nat) (s : σ) (q : Float)
    (hq : cfg.entryProbability q d = p) :
    g.specItems cfg draw items q d s =
      ((g.expandItems cfg draw items p d s).items, (g.expandItems cfg draw items p d s).source) := by
  induction items, p, d, s using expandItems_induction g cfg draw generalizing q with
  | nil p d s => simp
  | literal w rest p d s hw ih =>
    -- the remainder is read from the square, which guards to itself
    have hr := ih (decay p) (hq ▸ Config.entryProbability_decay q)
    rw [specItems_literal hw, expandItems_literal hw, hq, hr]
  | group cs rest p d s ihc ihr =>
    have hc := ihc (decay p) rfl
    rw [specItems_group, expandItems_group, hq, hc]
    dsimp only
    rw [ihr (decay p) (hq ▸ Config.entryProbability_decay q)]
  | kept w rest p d s u s₁ hw hu hno ih =>
    -- at the limit the guarded probability is zero, and no draw lies below it
    have hbelow : u.below (cfg.entryProbability q d) = false := by
      by_cases hd : d < cfg.maxDepth
      · rw [hq]
        simpa [hd] using hno
      · rw [Config.entryProbability_of_le (Nat.le_of_not_lt hd)]
        exact Inert.zero.below u
    rw [specItems_kept hw hu hbelow, expandItems_kept hw hu hno, ih q hq]
  | substituted w rest body p d s u s₁ hw hu hd hp hb ihb ihr =>
    have hp' : u.below (cfg.entryProbability q d) = true := hq ▸ hp
    rw [specItems_substituted hw hu hp' hb, expandItems_substituted hw hu hd hp hb, hq,
      ihb (decay p) rfl]
    dsimp only
    rw [ihr q hq]
  | unresolved w rest p d s u s₁ hw hu hd hp hb ih =>
    have hp' : u.below (cfg.entryProbability q d) = true := hq ▸ hp
    rw [specItems_unresolved hw hu hp' hb, expandItems_unresolved hw hu hd hp hb, ih q hq]

/-- Expanding two sequences one after the other: the second is read from where the first left
the source, with the probability squared once for each item of the first that is not a
reference. -/
theorem expandItems_append (ys : List Node) (xs : List Node) (p : Float) (d : Nat) (s : σ) :
    g.expandItems cfg draw (xs ++ ys) p d s =
      let r := g.expandItems cfg draw xs p d s
      let r' := g.expandItems cfg draw ys (decay^[Node.decayCount xs] p) d r.source
      ⟨r.items ++ r'.items, r.limitHit || r'.limitHit, r'.source⟩ := by
  induction xs, p, d, s using expandItems_induction g cfg draw with
  | nil p d s => simp
  | literal w rest p d s hw ih =>
    rw [List.cons_append, expandItems_literal hw, expandItems_literal hw, ih]
    simp [Node.decayCount_word, hw]
  | group cs rest p d s ihc ihr =>
    rw [List.cons_append, expandItems_group, expandItems_group]
    dsimp only
    rw [ihr]
    simp [Bool.or_assoc]
  | kept w rest p d s u s₁ hw hu hno ih =>
    rw [List.cons_append, expandItems_kept hw hu hno, expandItems_kept hw hu hno, ih]
    simp [Node.decayCount_word, hw]
  | substituted w rest body p d s u s₁ hw hu hd hp hb ihb ihr =>
    rw [List.cons_append, expandItems_substituted hw hu hd hp hb,
      expandItems_substituted hw hu hd hp hb]
    dsimp only
    rw [ihr]
    simp [Node.decayCount_word, hw, Bool.or_assoc]
  | unresolved w rest p d s u s₁ hw hu hd hp hb ih =>
    rw [List.cons_append, expandItems_unresolved hw hu hd hp hb,
      expandItems_unresolved hw hu hd hp hb, ih]
    simp [Node.decayCount_word, hw]

/-- Expansion refines the specification's head and remainder recursion: for every grammar,
setting, probability, depth and source of draws, expanding a sequence entered at `d` with `p`
gives the specification's items and leaves the source where the specification does. Above the
limit, the items from position `i` on are read, from where the items before `i` left the source,
with `p` squared once for each item before `i` that is not a reference; so the draw of a
reference at `i` is compared against that power. -/
theorem expandItems_refines_spec (g : Grammar) (cfg : Config) (draw : σ → Draw × σ)
    (items : List Node) (p : Float) (d : Nat) (s : σ) :
    g.specItems cfg draw items p d s =
        ((g.expandItems cfg draw items (cfg.entryProbability p d) d s).items,
          (g.expandItems cfg draw items (cfg.entryProbability p d) d s).source) ∧
      (d < cfg.maxDepth → ∀ i, g.specItems cfg draw items p d s =
        let r := g.specItems cfg draw (items.take i) p d s
        let r' := g.specItems cfg draw (items.drop i) (decay^[Node.decayCount (items.take i)] p) d r.2
        (r.1 ++ r'.1, r'.2)) := by
  refine ⟨specItems_eq_expandItems items _ d s p rfl, fun hd i => ?_⟩
  -- above the limit every probability is its own guard, so each reading is an expansion
  have hspec : ∀ xs q, g.specItems cfg draw xs q d = fun s =>
      ((g.expandItems cfg draw xs q d s).items, (g.expandItems cfg draw xs q d s).source) := by
    intro xs q
    funext s
    exact specItems_eq_expandItems xs q d s q (Config.entryProbability_of_lt hd q)
  simp only [hspec]
  conv_lhs => rw [← List.take_append_drop i items, expandItems_append]

/-- A reference after one literal word, above the limit: it is read with the probability
squared once. -/
theorem expandItems_refines_spec_afterLiteral :
    let g : Grammar := ⟨[("X", [.word "x"])]⟩
    let draw : Unit → Draw × Unit := fun _ => (⟨0, by decide⟩, ())
    let items : List Node := [.word "a", .word "X"]
    0 < ({} : Config).maxDepth ∧ Node.decayCount (items.take 1) = 1 ∧
      g.specItems {} draw items 0.5 0 () =
        let r := g.specItems {} draw (items.take 1) 0.5 0 ()
        let r' := g.specItems {} draw (items.drop 1) (decay^[Node.decayCount (items.take 1)] 0.5) 0 r.2
        (r.1 ++ r'.1, r'.2) := by
  intro g draw items
  exact ⟨by decide, by decide, (expandItems_refines_spec g {} draw items 0.5 0 ()).2 (by decide) 1⟩

end Grammar

end StochasticGrammar
