import StochasticGrammar.Ron.Document
import StochasticGrammar.Decimal

/-! Settings of an expansion, their check (the probability before the depth) and their reading
from RON. -/
namespace StochasticGrammar

/-- What a reference to a name without a production becomes. -/
inductive Fallback where
  | literal
  | grouped
  deriving Repr, DecidableEq, Inhabited

/-- The settings of an expansion. -/
structure Config where
  initialProbability : Float := 0.95
  maxDepth : Nat := 256
  fallback : Fallback := .literal
  deriving Repr, Inhabited

/-- Why settings are not valid. -/
inductive ConfigInvalid where
  | probability (p : Float)
  | depth
  deriving Repr

inductive ConfigError where
  | invalid (cause : ConfigInvalid)
  | ron (error : Ron.Error)
  deriving Repr

def ConfigInvalid.message : ConfigInvalid → String
  | .probability p => "initial_probability must be in [0, 1), got " ++ Decimal.plainText p
  | .depth => "max_depth must be at least 1"

def ConfigError.message : ConfigError → String
  | .invalid cause => "invalid config: " ++ cause.message
  | .ron e => "RON deserialization error: " ++ e.message

def Fallback.name : Fallback → String
  | .literal => "Literal"
  | .grouped => "Grouped"

namespace Config

/-- Whether a probability lies in `[0, 1)`; not a number does not. -/
def isProbability (p : Float) : Bool := 0.0 ≤ p && p < 1.0

/-- Checks settings: the probability first, then the depth. -/
def check (c : Config) : Except ConfigInvalid Unit :=
  if !isProbability c.initialProbability then .error (.probability c.initialProbability)
  else if c.maxDepth = 0 then .error .depth
  else .ok ()

def fallbackOfRon (level : Nat) : Ron.Reader Fallback := do
  if level = 0 then throw .exceededRecursionLimit
  Ron.Reader.skipSpace
  let name := Ron.asciiText (← Ron.Reader.identifier)
  if name = "Literal" then return .literal
  if name = "Grouped" then return .grouped
  throw (.noSuchEnumVariant name (some "UnresolvedPolicy") ["Literal", "Grouped"])

def fieldOfRon (key : String) (c : Config) (level : Nat) : Ron.Reader Config := do
  if key = "initial_probability" then return { c with initialProbability := ← Ron.Reader.float }
  if key = "max_depth" then return { c with maxDepth := ← Ron.Reader.unsigned Ron.Reader.maxU64 }
  return { c with fallback := ← fallbackOfRon level }

/-- Reads settings `ExpansionConfig(…)`. -/
def reader (limit : Nat) : Ron.Reader Config := do
  let (c, _) ← Ron.Reader.record limit "ExpansionConfig"
    ["initial_probability", "max_depth", "unresolved"] fieldOfRon {}
  Ron.Reader.closeRecord
  return c

/-- Valid settings from a RON text. -/
def ofRon (text : String) : Except ConfigError Config :=
  match Ron.parse text reader with
  | .error e => .error (.ron e)
  | .ok c =>
    match c.check with
    | .ok () => .ok c
    | .error cause => .error (.invalid cause)

end Config

end StochasticGrammar
