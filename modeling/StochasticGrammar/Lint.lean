import StochasticGrammar.Grammar.Basic
import StochasticGrammar.Token

/-! Checks of a grammar, production by production in registration order. -/
namespace StochasticGrammar

/-- One thing that linting reports. -/
inductive Finding where
  | unreachable (name : String)
  | emptyBody (name : String)
  | unknownReference (name reference : String)
  | selfOnly (name : String)
  deriving Repr, DecidableEq

namespace Finding

def isError : Finding → Bool
  | .unreachable _ => true
  | _ => false

def message : Finding → String
  | .unreachable n =>
    "Production '" ++ n ++
      "' can never be referenced (names must be upper case without the comma marker)"
  | .emptyBody n => "Production '" ++ n ++ "' has an empty body"
  | .unknownReference n r => "Production '" ++ n ++ "' references unknown production '" ++ r ++ "'"
  | .selfOnly n => "Production '" ++ n ++ "' contains nothing but references to itself"

end Finding

namespace Grammar

/-- Whether no word can name a production of this name. -/
def isUnreachableName (name : String) : Bool :=
  !Word.isReference name || (Word.stripCommaMarker name).2

/-- What linting reports about one production of the grammar. -/
def findingsFor (g : Grammar) (name : String) (body : List Node) : List Finding :=
  let head := if isUnreachableName name then [Finding.unreachable name] else []
  let ws := Node.wordsOf body
  if ws.isEmpty then head ++ [.emptyBody name]
  else
    let unknown := (ws.filter fun w => Word.isReference w && !g.contains (Word.base w)).map
      fun w => Finding.unknownReference name (Word.base w)
    let self := if ws.all (fun w => Word.base w = name) then [Finding.selfOnly name] else []
    head ++ unknown ++ self

/-- What linting reports about the grammar, production by production. -/
def lint (g : Grammar) : List Finding := g.entries.flatMap fun e => g.findingsFor e.1 e.2

end Grammar

end StochasticGrammar
