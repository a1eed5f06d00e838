import Mathlib
import StochasticGrammar.Proofs.Expansion.Equations

/-! The calls that expansion makes fall in the measure (levels left above the depth limit, then
size of the items), and none stands deeper than the tree or the limit plus the deepest body. -/
namespace StochasticGrammar

open StochasticGrammar.Random

namespace Grammar

/-- The arguments of one call of `expandItems`. -/
structure Frame (σ : Type) where
  items : List Node
  probability : Float
  depth : Nat
  source : σ

variable {σ : Type}

/-- `g.Calls cfg draw a b`: the call `a` of `expandItems` makes the call `b` itself. There is
one constructor for each recursive call in the definition, under the same conditions. -/
inductive Calls (g : Grammar) (cfg : Config) (draw : σ → Draw × σ) : Frame σ → Frame σ → Prop
  | body {w rest body p d s u s₁} (hw : Word.isReference w = true) (hu : draw s = (u,s₁))
      (hd : d < cfg.maxDepth) (hp : u.below p = true) (hb : g.lookup (Word.base w) = some body) :
      Calls g cfg draw ⟨.word w :: rest,p,d,s⟩ ⟨body,cfg.entryProbability (decay p) (d+1),d+1,s₁⟩
  | afterBody {w rest body p d s u s₁} (hw : Word.isReference w = true) (hu : draw s = (u,s₁))
      (hd : d < cfg.maxDepth) (hp : u.below p = true) (hb : g.lookup (Word.base w) = some body) :
      Calls g cfg draw ⟨.word w :: rest,p,d,s⟩
        ⟨rest,p,d,(g.expandItems cfg draw body (cfg.entryProbability (decay p) (d+1)) (d+1) s₁).source⟩
  | afterUnresolved {w rest p d s u s₁} (hw : Word.isReference w = true) (hu : draw s = (u,s₁))
      (hd : d < cfg.maxDepth) (hp : u.below p = true) (hb : g.lookup (Word.base w) = none) :
      Calls g cfg draw ⟨.word w :: rest,p,d,s⟩ ⟨rest,p,d,s₁⟩
  | afterKept {w rest p d s u s₁} (hw : Word.isReference w = true) (hu : draw s = (u,s₁))
      (hno : ¬(d < cfg.maxDepth ∧ u.below p = true)) :
      Calls g cfg draw ⟨.word w :: rest,p,d,s⟩ ⟨rest,p,d,s₁⟩
  | afterLiteral {w rest p d s} (hw : Word.isReference w = false) :
      Calls g cfg draw ⟨.word w :: rest,p,d,s⟩ ⟨rest,decay p,d,s⟩
  | children {cs rest p d s} :
      Calls g cfg draw ⟨.group cs :: rest,p,d,s⟩ ⟨cs,cfg.entryProbability (decay p) (d+1),d+1,s⟩
  | afterGroup {cs rest p d s} :
      Calls g cfg draw ⟨.group cs :: rest,p,d,s⟩
        ⟨rest,decay p,d,(g.expandItems cfg draw cs (cfg.entryProbability (decay p) (d+1)) (d+1) s).source⟩

/-- The calls made in expanding the tree `t` from `s`: none for a lone word; for a group, the
call on its items at depth zero and every call below it. -/
def ExpandCall (g : Grammar) (cfg : Config) (draw : σ → Draw × σ) (t : Node) (p : Float) (s : σ)
    (f : Frame σ) : Prop :=
  match t with
  | .word _ => False
  | .group xs => Relation.ReflTransGen (g.Calls cfg draw) ⟨xs,cfg.entryProbability p 0,0,s⟩ f

/-- The measure of a call: the levels left above the depth limit, then the size of the items. -/
noncomputable def Frame.measure (cfg : Config) (f : Frame σ) : ℕ ×ₗ ℕ :=
  toLex (cfg.maxDepth - f.depth, sizeOf f.items)

/-- How deep the calls below a frame can go: its depth plus the nesting of its items. -/
def Frame.reach (f : Frame σ) : Nat := f.depth + Node.depthOf f.items

/-- The greatest depth of a production body, 0 for a grammar without productions. -/
def bodyDepth (g : Grammar) : Nat :=
  (g.entries.map fun e => Node.depthOf e.2).foldr max 0

variable {g : Grammar} {cfg : Config} {draw : σ → Draw × σ}

theorem depthOf_le_bodyDepth {n : String} {body : List Node} (hb : g.lookup n = some body) :
    Node.depthOf body ≤ g.bodyDepth := by
  obtain ⟨es⟩ := g
  simp only [lookup, bodyDepth] at hb ⊢
  induction es with
  | nil => simp at hb
  | cons e es ih =>
    obtain ⟨m, b⟩ := e
    by_cases hm : n = m
    · subst hm
      simp only [List.lookup_cons_self, Option.some.injEq] at hb
      subst hb
      simp
    · have hne : (n == m) = false := by simpa using hm
      simp only [List.lookup_cons, hne] at hb
      simpa using Or.inr (ih hb)

/-- Each call is made at a smaller measure: a substitution has one level fewer left above the
limit, and every other call has the same levels left and strictly smaller items. -/
theorem Calls.measure_lt {a b : Frame σ} (h : g.Calls cfg draw a b) :
    b.measure cfg < a.measure cfg := by
  simp only [Frame.measure, Prod.Lex.toLex_lt_toLex]
  cases h with
  | body _ _ hd => left; simp only; omega
  | afterBody => right; simp
  | afterUnresolved => right; simp
  | afterKept => right; simp
  | afterLiteral => right; simp
  | @children cs rest p d s =>
    -- past the limit both frames have no level left, so only the size falls
    have hsize : sizeOf cs < sizeOf (Node.group cs :: rest) := by simp; omega
    by_cases hd : d < cfg.maxDepth
    · left; simp only; omega
    · right; simp only; constructor <;> omega
  | afterGroup => right; simp

theorem calls_wellFounded : WellFounded (fun b a => g.Calls cfg draw a b) :=
  (InvImage.wf (Frame.measure cfg) wellFounded_lt).mono fun _ _ h => h.measure_lt

/-- The step of the depth invariant: a call reaches no deeper than its caller, or than a body
entered just above the limit. -/
theorem Calls.reach_le {a b : Frame σ} (h : g.Calls cfg draw a b) :
    b.reach ≤ max a.reach (cfg.maxDepth + g.bodyDepth) := by
  cases h with
  | body _ _ hd _ hb =>
    have := depthOf_le_bodyDepth hb
    simp only [Frame.reach]
    omega
  | afterBody | afterUnresolved | afterKept | afterLiteral | afterGroup =>
    simp only [Frame.reach, Node.depthOf]
    omega
  | children =>
    simp only [Frame.reach, Node.depthOf, Node.depth]
    omega

/-- The run of the depth invariant: along any chain of calls the reach stays within that of the
first call or that of a body entered just above the limit. -/
theorem reach_le_of_reflTransGen {a b : Frame σ}
    (h : Relation.ReflTransGen (g.Calls cfg draw) a b) :
    b.reach ≤ max a.reach (cfg.maxDepth + g.bodyDepth) := by
  induction h with
  | refl => exact le_max_left _ _
  | tail _ hbc ih =>
    have := hbc.reach_le
    omega

/-- Expansion terminates under the depth guard: for every grammar, setting and probability, the
nested calls of `expandItems` admit no infinite chain, each one falls in the measure (levels
left above the limit, then size of the items), and every call made in expanding `t` stands at a
depth no greater than that of `t` less one or the depth limit plus the deepest body. -/
theorem expand_calls_terminate (g : Grammar) (cfg : Config) (draw : σ → Draw × σ) (t : Node)
    (p : Float) (s : σ) :
    WellFounded (fun b a => g.Calls cfg draw a b) ∧
      (∀ a b, g.Calls cfg draw a b → b.measure cfg < a.measure cfg) ∧
      ∀ f, g.ExpandCall cfg draw t p s f →
        f.depth ≤ max (t.depth - 1) (cfg.maxDepth + g.bodyDepth) := by
  refine ⟨calls_wellFounded, fun _ _ h => h.measure_lt, ?_⟩
  intro f hf
  cases t with
  | word w => exact hf.elim
  | group xs =>
    have h := reach_le_of_reflTransGen hf
    simp only [Frame.reach, Node.depth] at h ⊢
    omega

/-- A production that names itself inside a group, expanded with probability one and a draw of
zero: the call on its body is made one level down, within the bound. -/
theorem expand_calls_terminate_selfReference :
    let g : Grammar := ⟨[("X",[.group [.word "X"]])]⟩
    let draw : Unit → Draw × Unit := fun _ => (⟨0,by decide⟩,())
    let p : Float := ({} : Config).entryProbability (decay (({} : Config).entryProbability 1.0 0)) (0+1)
    let f : Frame Unit := ⟨[.group [.word "X"]],p,0+1,()⟩
    g.ExpandCall {} draw (.group [.word "X"]) 1.0 () f ∧
      f.depth ≤ max ((Node.group [.word "X"]).depth - 1) (({} : Config).maxDepth + g.bodyDepth) := by
  intro g draw p f
  have hcall : g.ExpandCall {} draw (.group [.word "X"]) 1.0 () f :=
    .single (@Calls.body Unit g {} draw "X" [] _ _ 0 () ⟨0,by decide⟩ () (by decide) rfl (by decide)
      (by decide) (by decide))
  exact ⟨hcall, (expand_calls_terminate g {} draw _ 1.0 ()).2.2 f hcall⟩

end Grammar

end StochasticGrammar
