import StochasticGrammar.Expansion
import StochasticGrammar.Normalize
import StochasticGrammar.Grammar.Declarations

/-! Generators: a grammar, valid settings, a seed and a count of the generations made, and the
builder that merges layers of grammar and resolves the settings. -/
namespace StochasticGrammar

open StochasticGrammar.Random

/-- What a generation starts from: the name of a production, expanded as a group holding just
that word, or a tree. -/
inductive Start where
  | production (name : String)
  | tree (t : Node)
  deriving Repr

def Start.toTree : Start → Node
  | .production name => .group [.word name]
  | .tree t => t

/-- A grammar, valid settings, a seed, and the number of generations made. -/
structure Generator where
  grammar : Grammar
  config : Config
  seed : UInt64
  count : UInt64 := 0

namespace Generator

variable {σ : Type}

/-- Makes one generation with draws from `src`: the expanded start in normal form, and the
generator after it. -/
def generate (src : Seeded σ) (gen : Generator) (start : Start) : Node × Generator :=
  let r := gen.grammar.expand gen.config src.draw start.toTree gen.config.initialProbability
    (src.start (gen.seed + gen.count))
  (r.tree.normalize, { gen with count := gen.count + 1 })

def generateText (src : Seeded σ) (gen : Generator) (start : Start) : String × Generator :=
  let (t, gen') := gen.generate src start
  (t.render, gen')

/-- Makes `n` generations as texts, one after another. -/
def variants (src : Seeded σ) (gen : Generator) (start : Start) : Nat → List String × Generator
  | 0 => ([], gen)
  | n + 1 =>
    let (text, gen') := gen.generateText src start
    let (rest, gen'') := gen'.variants src start n
    (text :: rest, gen'')

end Generator

/-- Why a generator cannot be built. -/
inductive BuildError where
  | grammar (e : GrammarError)
  | config (e : ConfigError)
  deriving Repr

def BuildError.message : BuildError → String
  | .grammar e => "grammar error: " ++ e.message
  | .config e => "config error: " ++ e.message

/-- What a generator is built from. -/
structure Builder where
  shared : Option Grammar := none
  menu : Bool := false
  grammar : Option Grammar := none
  seed : UInt64 := 0
  config : Option Config := none
  initialProbability : Option Float := none
  maxDepth : Option Nat := none
  fallback : Option Fallback := none

namespace Builder

/-- The settings: the given ones or the defaults, with single settings replaced. -/
def settings (b : Builder) : Config :=
  let c := b.config.getD {}
  { initialProbability := b.initialProbability.getD c.initialProbability
    maxDepth := b.maxDepth.getD c.maxDepth
    fallback := b.fallback.getD c.fallback }

/-- The grammar: the layers merged in order onto the empty grammar. -/
def layers (b : Builder) : Except GrammarError Grammar := do
  let base := b.shared.getD Grammar.empty
  let withMenu ← if b.menu then pure (base.merge (← Grammar.menu)) else pure base
  return match b.grammar with
    | some g => withMenu.merge g
    | none => withMenu

/-- Builds a generator; the settings are checked first. -/
def build (b : Builder) : Except BuildError Generator := do
  let cfg := b.settings
  match cfg.check with
  | .error cause => throw (.config (.invalid cause))
  | .ok () =>
    match b.layers with
    | .error e => throw (.grammar e)
    | .ok g => return { grammar := g, config := cfg, seed := b.seed }

end Builder

end StochasticGrammar
