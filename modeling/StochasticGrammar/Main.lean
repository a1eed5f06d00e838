import StochasticGrammar.Generator

/-! The command line: generates text from the menu grammar. -/
namespace StochasticGrammar.Preview

/-- What the command line asks for. -/
structure Options where
  seed : UInt64 := 42
  probability : Option Float := none
  count : Nat := 1
  all : Bool := false
  tree : Bool := false
  names : List String := []

def usage : String :=
  "Usage: preview [--seed <n>] [--probability <p>] [--count <n>] [--tree] (--all | <NAME>...)"

/-- Why the arguments are refused: an option that is not known, or a probability that is no
number. -/
inductive Refusal where
  | unknown (argument : String)
  | probability

/-- Reads an unsigned number: an optional `+` and decimal digits, with a value not above
`bound`. -/
def readBounded (s : String) (bound : Nat) : Option Nat :=
  let cs := match s.toList with
    | '+' :: rest => rest
    | rest => rest
  if !cs.isEmpty && cs.all Char.isDigit then
    let n := Decimal.valueOfDigits cs
    if n ≤ bound then some n else none
  else none

/-- Reads the arguments. A seed or count that is no number keeps its default; an option that
needs a value and stands last is not known. -/
def Options.parse : List String → Options → Except Refusal Options
  | [], o => .ok o
  | "--seed" :: v :: rest, o =>
    Options.parse rest { o with seed := ((readBounded v 18446744073709551615).getD 42).toUInt64 }
  | "--probability" :: v :: rest, o =>
    match Decimal.readFloat? v with
    | some p => Options.parse rest { o with probability := some p }
    | none => .error .probability
  | "--count" :: v :: rest, o =>
    Options.parse rest { o with count := (readBounded v 18446744073709551615).getD 1 }
  | "--all" :: rest, o => Options.parse rest { o with all := true }
  | "--tree" :: rest, o => Options.parse rest { o with tree := true }
  | a :: rest, o =>
    if a.startsWith "--" then .error (.unknown a)
    else Options.parse rest { o with names := o.names ++ [a] }

/-- The lines printed for one name: a header and one generation per count, then a blank. -/
def linesFor (o : Options) (gen : Generator) (name : String) : List String × Generator :=
  let note := if gen.grammar.contains name then []
    else ["(note: '" ++ name ++ "' is not a registered production)"]
  let rec go : Nat → Generator → List String × Generator
    | 0, g => ([""], g)
    | n + 1, g =>
      let (shown, g') :=
        if o.tree then
          let (t, g') := g.generate Random.Stream.seeded (.production name)
          (t.bracketed, g')
        else g.generateText Random.Stream.seeded (.production name)
      let (rest, g'') := go n g'
      (("--- " ++ name ++ " ---") :: shown :: rest, g'')
  let (body, gen') := go o.count gen
  (note ++ body, gen')

def linesForAll (o : Options) : List String → Generator → List String
  | [], _ => []
  | name :: rest, gen =>
    let (ls, gen') := linesFor o gen name
    ls ++ linesForAll o rest gen'

end StochasticGrammar.Preview

open StochasticGrammar StochasticGrammar.Preview in
def main (args : List String) : IO UInt32 := do
  if args.isEmpty || args.head? = some "--help" || args.head? = some "-h" then
    IO.println usage
    return 0
  match Options.parse args {} with
  | .error (.unknown a) =>
    IO.eprintln ("Unknown argument: " ++ a)
    IO.println usage
    return 1
  | .error .probability =>
    IO.eprintln "Error: --probability must be a number in [0, 1)"
    return 1
  | .ok o =>
    match ({ seed := o.seed, menu := true, initialProbability := o.probability } : Builder).build with
    | .error e =>
      IO.eprintln ("ERROR: " ++ e.message)
      return 1
    | .ok gen =>
      let names := if o.all then gen.grammar.names else o.names
      if names.isEmpty then
        IO.eprintln "Error: give at least one production name, or --all"
        return 1
      for line in linesForAll o names gen do
        IO.println line
      return 0
