import Mathlib
import StochasticGrammar.Generator

/-! How a generator seeds its generations: the `j`-th generation is a fresh expansion from the
source started at the seed plus `j`, whatever the source. -/
namespace StochasticGrammar

open StochasticGrammar.Random

namespace Generator

variable {σ : Type} (src : Seeded σ)

/-- One call on a generator: a generation handed back as a tree, one handed back as text, or a
number of them handed back as texts. -/
inductive Call where
  | generate (start : Start)
  | generateText (start : Start)
  | variants (start : Start) (count : Nat)

/-- What one generation hands back: a tree, or its text. -/
inductive Output where
  | tree (t : Node)
  | text (s : String)

/-- The generations a call asks for, in order: the start of each, and whether it is handed back
as text. -/
def Call.requests : Call → List (Start × Bool)
  | .generate start => [(start, false)]
  | .generateText start => [(start, true)]
  | .variants start n => List.replicate n (start, true)

/-- Makes the calls in order with draws from `src`, collecting what every generation hands
back. -/
def serveWith (gen : Generator) : List Call → List Output × Generator
  | [] => ([], gen)
  | .generate start :: calls =>
    let (t, gen') := gen.generate src start
    let (outs, gen'') := gen'.serveWith calls
    (.tree t :: outs, gen'')
  | .generateText start :: calls =>
    let (text, gen') := gen.generateText src start
    let (outs, gen'') := gen'.serveWith calls
    (.text text :: outs, gen'')
  | .variants start n :: calls =>
    let (texts, gen') := gen.variants src start n
    let (outs, gen'') := gen'.serveWith calls
    (texts.map .text ++ outs, gen'')

/-- Makes the calls in order, drawing from the seeded stream. -/
def serve (gen : Generator) (calls : List Call) : List Output × Generator :=
  gen.serveWith Stream.seeded calls

/-- What a fresh expansion of a start gives from the source started at `seed`, in normal form:
the tree, or its text. -/
def freshOutputWith (g : Grammar) (cfg : Config) (seed : UInt64) (start : Start)
    (asText : Bool) : Output :=
  let t := (g.expand cfg src.draw start.toTree cfg.initialProbability (src.start seed)).tree
  if asText then .text t.normalize.render else .tree t.normalize

def freshOutput (g : Grammar) (cfg : Config) (seed : UInt64) (start : Start) (asText : Bool) :
    Output :=
  freshOutputWith Stream.seeded g cfg seed start asText

def advance (gen : Generator) (k : Nat) : Generator :=
  { gen with count := gen.count + UInt64.ofNat k }

/-- What the generation `j` places after the current one hands back for the request `r`. -/
def outputAt (gen : Generator) (j : Nat) (r : Start × Bool) : Output :=
  freshOutputWith src gen.grammar gen.config (gen.seed + gen.count + UInt64.ofNat j) r.1 r.2

@[simp] theorem advance_grammar (gen : Generator) (k : Nat) :
    (gen.advance k).grammar = gen.grammar := rfl

@[simp] theorem advance_config (gen : Generator) (k : Nat) :
    (gen.advance k).config = gen.config := rfl

@[simp] theorem advance_seed (gen : Generator) (k : Nat) : (gen.advance k).seed = gen.seed := rfl

@[simp] theorem advance_count (gen : Generator) (k : Nat) :
    (gen.advance k).count = gen.count + UInt64.ofNat k := rfl

theorem advance_advance (gen : Generator) (a b : Nat) :
    (gen.advance a).advance b = gen.advance (a + b) := by
  have hcount : gen.count + UInt64.ofNat a + UInt64.ofNat b = gen.count + UInt64.ofNat (a + b) := by
    rw [UInt64.ofNat_add]
    ac_rfl
  simp only [advance, hcount]

@[simp] theorem requests_length_variants (start : Start) (n : Nat) :
    (Call.variants start n).requests.length = n := by
  simp [Call.requests]

theorem outputAt_eq {a b : Generator} (hg : a.grammar = b.grammar) (hc : a.config = b.config)
    (hs : a.seed + a.count = b.seed + b.count) : a.outputAt src = b.outputAt src := by
  funext j r
  simp only [outputAt, hg, hc, hs]

/-- Moving the counter on by `k` shifts the generations by `k` places. -/
theorem outputAt_advance (gen : Generator) (k : Nat) :
    (gen.advance k).outputAt src = fun j => gen.outputAt src (j + k) := by
  funext j r
  have hseed : gen.seed + (gen.count + UInt64.ofNat k) + UInt64.ofNat j =
      gen.seed + gen.count + UInt64.ofNat (j + k) := by
    rw [UInt64.ofNat_add]
    ac_rfl
  simp only [outputAt, advance_grammar, advance_config, advance_seed, advance_count, hseed]

theorem generate_snd (gen : Generator) (start : Start) :
    (gen.generate src start).2 = gen.advance 1 := rfl

theorem generate_fst (gen : Generator) (start : Start) :
    Output.tree (gen.generate src start).1 = gen.outputAt src 0 (start, false) := by
  simp [generate, outputAt, freshOutputWith]

theorem generateText_snd (gen : Generator) (start : Start) :
    (gen.generateText src start).2 = gen.advance 1 := rfl

theorem generateText_fst (gen : Generator) (start : Start) :
    Output.text (gen.generateText src start).1 = gen.outputAt src 0 (start, true) := by
  simp [generateText, generate, outputAt, freshOutputWith]

theorem variants_succ (gen : Generator) (start : Start) (n : Nat) :
    gen.variants src start (n + 1) =
      ((gen.generateText src start).1 :: ((gen.generateText src start).2.variants src start n).1,
        ((gen.generateText src start).2.variants src start n).2) := rfl

/-- Variants are generations one after another, each counted. -/
theorem variants_eq (gen : Generator) (start : Start) (n : Nat) :
    (gen.variants src start n).1.map Output.text =
        (List.replicate n (start, true)).mapIdx (gen.outputAt src) ∧
      (gen.variants src start n).2 = gen.advance n := by
  induction n generalizing gen with
  | zero =>
    refine ⟨rfl, ?_⟩
    simp [variants, advance]
  | succ n ih =>
    obtain ⟨hrest, hcount⟩ := ih (gen.generateText src start).2
    -- the rest reads the streams one place further on
    rw [generateText_snd, outputAt_advance] at hrest
    rw [generateText_snd, advance_advance] at hcount
    rw [variants_succ, List.map_cons, generateText_fst, generateText_snd, hrest, hcount,
      List.replicate_succ, List.mapIdx_cons, Nat.add_comm 1 n]
    exact ⟨rfl, rfl⟩

theorem serveWith_generate (gen : Generator) (start : Start) (calls : List Call) :
    gen.serveWith src (.generate start :: calls) =
      (.tree (gen.generate src start).1 :: ((gen.generate src start).2.serveWith src calls).1,
        ((gen.generate src start).2.serveWith src calls).2) := rfl

theorem serveWith_generateText (gen : Generator) (start : Start) (calls : List Call) :
    gen.serveWith src (.generateText start :: calls) =
      (.text (gen.generateText src start).1 ::
          ((gen.generateText src start).2.serveWith src calls).1,
        ((gen.generateText src start).2.serveWith src calls).2) := rfl

theorem serveWith_variants (gen : Generator) (start : Start) (n : Nat) (calls : List Call) :
    gen.serveWith src (.variants start n :: calls) =
      ((gen.variants src start n).1.map .text ++
          ((gen.variants src start n).2.serveWith src calls).1,
        ((gen.variants src start n).2.serveWith src calls).2) := rfl

/-- The step of the counter: a call hands back the generations its requests ask for, at the
places `0, 1, …` after the current one, and the calls after it are served with the counter
moved on by their number. -/
theorem serveWith_cons (gen : Generator) (call : Call) (calls : List Call) :
    gen.serveWith src (call :: calls) =
      (call.requests.mapIdx (gen.outputAt src) ++
          ((gen.advance call.requests.length).serveWith src calls).1,
        ((gen.advance call.requests.length).serveWith src calls).2) := by
  cases call with
  | generate start =>
    rw [serveWith_generate, generate_fst, generate_snd]
    rfl
  | generateText start =>
    rw [serveWith_generateText, generateText_fst, generateText_snd]
    rfl
  | variants start n =>
    obtain ⟨hout, hcount⟩ := variants_eq src gen start n
    rw [serveWith_variants, hout, hcount, requests_length_variants]
    rfl

/-- The run of the counter: over any calls, the outputs are the generations at the places
`0, 1, 2, …` after the current one, one for each request, and the counter ends moved on by their
number. -/
theorem serveWith_eq (gen : Generator) (calls : List Call) :
    gen.serveWith src calls = ((calls.flatMap Call.requests).mapIdx (gen.outputAt src),
      gen.advance (calls.flatMap Call.requests).length) := by
  induction calls generalizing gen with
  | nil =>
    refine Prod.ext rfl ?_
    simp [serveWith, advance]
  | cons call calls ih =>
    rw [serveWith_cons, ih, outputAt_advance, advance_advance, List.flatMap_cons,
      List.mapIdx_append, List.length_append]

theorem build_eq_ok {b : Builder} {gen : Generator} (hb : b.build = .ok gen) :
    ∃ g, b.settings.check = .ok () ∧ b.layers = .ok g ∧
      gen = { grammar := g, config := b.settings, seed := b.seed } := by
  cases hc : b.settings.check with
  | error cause =>
    simp only [Builder.build, hc] at hb
    cases hb
  | ok u =>
    cases hl : b.layers with
    | error e =>
      simp only [Builder.build, hc, hl] at hb
      cases hb
    | ok g =>
      simp only [Builder.build, hc, hl] at hb
      injection hb with hb
      exact ⟨g, rfl, rfl, hb.symm⟩

theorem build_seed {b : Builder} {gen : Generator} (hb : b.build = .ok gen) (seed : UInt64) :
    ({ b with seed := seed } : Builder).build = .ok { gen with seed := seed } := by
  obtain ⟨g, hcheck, hlayers, rfl⟩ := build_eq_ok hb
  have hcheck' : ({ b with seed := seed } : Builder).settings.check = .ok () := hcheck
  have hlayers' : ({ b with seed := seed } : Builder).layers = .ok g := hlayers
  simp only [Builder.build, hcheck', hlayers']
  rfl

/-- The seeding of a built generator, for any source of draws: the `j`-th output overall is
the fresh expansion of its start from the source started at the seed plus `j`, and after `k`
outputs the generator answers as the one the same builder makes with the seed plus `k`. -/
theorem build_serveWith_seeding {b : Builder} {gen : Generator} (hb : b.build = .ok gen)
    (calls : List Call) :
    let run := gen.serveWith src calls
    let k := (calls.flatMap Call.requests).length
    run.1 = (calls.flatMap Call.requests).mapIdx
        (fun j r => freshOutputWith src gen.grammar gen.config (gen.seed + UInt64.ofNat j) r.1 r.2) ∧
      run.2.grammar = gen.grammar ∧ run.2.config = gen.config ∧ run.2.seed = gen.seed ∧
      ∃ fresh, ({ b with seed := gen.seed + UInt64.ofNat k } : Builder).build = .ok fresh ∧
        fresh.grammar = gen.grammar ∧ fresh.config = gen.config ∧
        fresh.seed = gen.seed + UInt64.ofNat k ∧
        ∀ more, (run.2.serveWith src more).1 = (fresh.serveWith src more).1 := by
  intro run k
  obtain ⟨g, -, -, hgen⟩ := build_eq_ok hb
  have hcount : gen.count = 0 := by simp only [hgen]
  have hrun : run = ((calls.flatMap Call.requests).mapIdx (gen.outputAt src), gen.advance k) :=
    serveWith_eq src gen calls
  -- the generator the builder makes with the seed plus `k`
  have hfresh : ({ b with seed := gen.seed + UInt64.ofNat k } : Builder).build =
      .ok { gen with seed := gen.seed + UInt64.ofNat k } := by
    rw [hgen] at hb ⊢
    exact build_seed hb _
  refine ⟨?_, by simp [hrun], by simp [hrun], by simp [hrun], _, hfresh, rfl, rfl, rfl, ?_⟩
  · rw [hrun]
    refine congrArg (fun f => List.mapIdx f (calls.flatMap Call.requests)) ?_
    funext j r
    simp only [outputAt, hcount, add_zero]
  · -- both answer from the sources started at the seed plus `k` onwards
    intro more
    have hsame : run.2.outputAt src =
        ({ gen with seed := gen.seed + UInt64.ofNat k } : Generator).outputAt src := by
      apply outputAt_eq src (by simp [hrun]) (by simp [hrun])
      simp [hrun, hcount]
    rw [serveWith_eq src run.2 more, serveWith_eq src _ more, hsame]

/-- The seeding of a built generator. Over any sequence of calls, the `j`-th output overall
(each variant counted) is the fresh expansion of its start from the stream of the seed plus `j`,
in normal form and rendered when asked as text; the grammar, the settings and the seed do not
change; and after `k` outputs the generator answers every further call as the generator that the
same builder makes with the seed plus `k`. -/
theorem build_serve_seeding {b : Builder} {gen : Generator} (hb : b.build = .ok gen)
    (calls : List Call) :
    let run := gen.serve calls
    let k := (calls.flatMap Call.requests).length
    run.1 = (calls.flatMap Call.requests).mapIdx
        (fun j r => freshOutput gen.grammar gen.config (gen.seed + UInt64.ofNat j) r.1 r.2) ∧
      run.2.grammar = gen.grammar ∧ run.2.config = gen.config ∧ run.2.seed = gen.seed ∧
      ∃ fresh, ({ b with seed := gen.seed + UInt64.ofNat k } : Builder).build = .ok fresh ∧
        fresh.grammar = gen.grammar ∧ fresh.config = gen.config ∧
        fresh.seed = gen.seed + UInt64.ofNat k ∧
        ∀ more, (run.2.serve more).1 = (fresh.serve more).1 :=
  build_serveWith_seeding Stream.seeded hb calls

/-- The default builder, seed zero, asked for a tree and then two variants of text. -/
theorem build_serve_seeding_default :
    let b : Builder := {}
    let gen : Generator := { grammar := Grammar.empty, config := {}, seed := 0 }
    let calls := [Call.generate (.production "A"), Call.variants (.tree (.group [])) 2]
    b.build = .ok gen ∧
      let run := gen.serve calls
      let k := (calls.flatMap Call.requests).length
      run.1 = (calls.flatMap Call.requests).mapIdx
          (fun j r => freshOutput gen.grammar gen.config (gen.seed + UInt64.ofNat j) r.1 r.2) ∧
        run.2.grammar = gen.grammar ∧ run.2.config = gen.config ∧ run.2.seed = gen.seed ∧
        ∃ fresh, ({ b with seed := gen.seed + UInt64.ofNat k } : Builder).build = .ok fresh ∧
          fresh.grammar = gen.grammar ∧ fresh.config = gen.config ∧
          fresh.seed = gen.seed + UInt64.ofNat k ∧
          ∀ more, (run.2.serve more).1 = (fresh.serve more).1 := by
  intro b gen calls
  have hb : b.build = .ok gen := by
    have hp : Config.isProbability ({} : Config).initialProbability = true := by decide
    have hl : b.layers = .ok Grammar.empty := rfl
    simp [b, gen, Builder.build, Builder.settings, Config.check, hp, hl]
    rfl
  exact ⟨hb, build_serve_seeding hb calls⟩

end Generator

end StochasticGrammar
