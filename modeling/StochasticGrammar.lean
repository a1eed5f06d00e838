import StochasticGrammar.Text.Classes
import StochasticGrammar.Text.Lowercase
import StochasticGrammar.Token
import StochasticGrammar.Normalize
import StochasticGrammar.Decimal
import StochasticGrammar.Ron.Error
import StochasticGrammar.Ron.Cursor
import StochasticGrammar.Ron.Scalar
import StochasticGrammar.Ron.Value
import StochasticGrammar.Ron.Document
import StochasticGrammar.Grammar.Basic
import StochasticGrammar.Grammar.Declarations
import StochasticGrammar.Lint
import StochasticGrammar.Config
import StochasticGrammar.Random
import StochasticGrammar.Expansion
import StochasticGrammar.Generator
import StochasticGrammar.Main
import StochasticGrammar.Proofs.Expansion.Equations
import StochasticGrammar.Proofs.Expansion.Calls
import StochasticGrammar.Proofs.Expansion.Shape
import StochasticGrammar.Proofs.Expansion.ZeroProbability
import StochasticGrammar.Proofs.Expansion.DepthGuard
import StochasticGrammar.Proofs.Expansion.Specification
import StochasticGrammar.Proofs.Grammar.Registry
import StochasticGrammar.Proofs.Generator.Seeding
import StochasticGrammar.Proofs.Body.ReadBack
import StochasticGrammar.Proofs.Lint.Guarantees
import StochasticGrammar.Proofs.Body.BracketTree
import StochasticGrammar.Proofs.Grammar.Merge
import StochasticGrammar.Proofs.Normalize.Idempotence
import StochasticGrammar.Proofs.Lint.Names
import StochasticGrammar.Proofs.Grammar.Declarations
import StochasticGrammar.Proofs.Generator.Builder
