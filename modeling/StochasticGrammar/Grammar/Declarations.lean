import StochasticGrammar.Grammar.Basic
import StochasticGrammar.Token
import StochasticGrammar.Ron.Document

/-! Grammars from declarations, pairs of a name and a body text taken in order, from a list or
from RON, and the menu grammar that comes with the library. -/
namespace StochasticGrammar

/-- Why declarations do not make a grammar. -/
inductive GrammarError where
  | body (name : String) (cause : BodyError)
  | invalidName (name : String)
  | ron (error : Ron.Error)
  deriving Repr

def GrammarError.message : GrammarError → String
  | .body name cause => "body parse error in '" ++ name ++ "': " ++ cause.message
  | .invalidName name => "invalid production name '" ++ name ++ "'"
  | .ron e => "RON deserialization error: " ++ e.message

namespace Grammar

/-- Whether a production name is empty or white space only. -/
def isBlankName (name : String) : Bool := name.toList.all Text.isWhiteSpace

/-- Reads one declaration: its name, refused when blank, and its body. -/
def readDeclaration (d : String × String) : Except GrammarError (String × List Node) :=
  if isBlankName d.1 then .error (.invalidName d.1)
  else match Body.parse d.2 with
    | .ok body => .ok (d.1, body)
    | .error e => .error (.body d.1 e)

/-- Adds one declaration to a grammar. -/
def declare (g : Grammar) (d : String × String) : Except GrammarError Grammar :=
  (readDeclaration d).map fun p => g.register p.1 p.2

/-- The grammar of declarations taken in order, or the first that is refused. -/
def ofDeclarations (decls : List (String × String)) : Except GrammarError Grammar :=
  decls.foldlM declare empty

def declarationField (key : String) (acc : Option String × Option String) (_ : Nat) :
    Ron.Reader (Option String × Option String) := do
  let s ← Ron.Reader.string
  return if key = "name" then (some s, acc.2) else (acc.1, some s)

/-- Reads one declaration `Production(name: "…", body: "…")`. -/
def declaration (limit : Nat) : Ron.Reader (String × String) := do
  let ((name?, body?), _) ←
    Ron.Reader.record limit "Production" ["name", "body"] declarationField (none, none)
  let some name := name? | throw (.missingStructField "name" (some "Production"))
  let some body := body? | throw (.missingStructField "body" (some "Production"))
  Ron.Reader.closeRecord
  return (name, body)

def declarationsOfRon (text : String) : Except Ron.Error (List (String × String)) :=
  Ron.parse text fun limit => Ron.Reader.listOf limit declaration

/-- The grammar of the declarations in a RON text. -/
def ofRon (text : String) : Except GrammarError Grammar :=
  match declarationsOfRon text with
  | .ok decls => ofDeclarations decls
  | .error e => .error (.ron e)

end Grammar

namespace Registry

def declare (r : Registry) (d : String × String) : Except GrammarError Registry :=
  (Grammar.readDeclaration d).map fun p => r.register p.1 p.2

/-- The registry of declarations taken in order, or the first that is refused. -/
def ofDeclarations (decls : List (String × String)) : Except GrammarError Registry :=
  decls.foldlM declare empty

def ofRon (text : String) : Except GrammarError Registry :=
  match Grammar.declarationsOfRon text with
  | .ok decls => ofDeclarations decls
  | .error e => .error (.ron e)

end Registry

end StochasticGrammar

namespace StochasticGrammar.Grammar

/-- The lines of the RON text of the menu grammar. -/
def menuLines : List String := [
  "// The bundled menu grammar.",
  "//",
  "// Upper-case words name productions; everything else is printed as-is.",
  "// A trailing comma on a word is kept as punctuation in the output.",
  "[",
  "    Production(name: \"MACARONI\", body: \"MACARONI and CHEESE (a REPAST of NAPLES, italy)\"),",
  "    Production(name: \"REPAST\", body: \"rather extraordinary PASTA and SAUCE, typical\"),",
  "    Production(name: \"CHEESE\", body: \"cheddar, havarti, emmenthaler (particularly SHARP emmenthaler)\"),",
  "    Production(name: \"SHARP\", body: \"strong, hearty, and rather pungent\"),",
  "    Production(name: \"SPAGHETTI\", body: \"standard PASTA, always good, hot particularly (twist, then ingest)\"),",
  "    Production(name: \"PASTA\", body: \"PASTA and SAUCE (that's ALL)\"),",
  "    Production(name: \"ALL\", body: \"a luscious lunch\"),",
  "    Production(name: \"SAUCE\", body: \"SHAD and unusual COFFEE (excellente!)\"),",
  "    Production(name: \"SHAD\", body: \"SPAGHETTI, heated al dente\"),",
  "    Production(name: \"NAPLES\", body: \"noodles and PASTA, LASAGNE, eggplant, and SAUSAGE\"),",
  "    Production(name: \"LASAGNE\", body: \"LIVER and SAUSAGE (a GARLIC noodle entree)\"),",
  "    Production(name: \"LIVER\", body: \"lean, impressively VEAL-ISH, EXPENSIVE, rare\"),",
  "    Production(name: \"VEAL-ISH\", body: \"very excellent, and LASAGNE-ISH\"),",
  "    Production(name: \"LASAGNE-ISH\", body: \"layered, aromatic, and saucy\"),",
  "    Production(name: \"EXPENSIVE\", body: \"exceptionally PRICEY (even NAPLES can't afford it)\"),",
  "    Production(name: \"PRICEY\", body: \"paid for by the RAVIOLI\"),",
  "    Production(name: \"RAVIOLI\", body: \"rigatoni and VERMICELLI, in olive oil\"),",
  "    Production(name: \"VERMICELLI\", body: \"very excellent RAVIOLI, made in CAMPANIA, exceptionally light and LUSCIOUS, italian\"),",
  "    Production(name: \"CAMPANIA\", body: \"coastal area, MACARONI's PASTA, NAPLES, in Italy, anyhow\"),",
  "    Production(name: \"LUSCIOUS\", body: \"light, unctuous, SAUCE-COVERED, CHEESE-TOPPED, and undeniably scrumptious\"),",
  "    Production(name: \"SAUCE-COVERED\", body: \"smothered in SAUCE\"),",
  "    Production(name: \"CHEESE-TOPPED\", body: \"buried under CHEESE\"),",
  "    Production(name: \"SAUSAGE\", body: \"spicy, aromatic, uncooked SALAMI, garnished elegantly\"),",
  "    Production(name: \"SALAMI\", body: \"sliced and LIGHTLY MARINATED italian\"),",
  "    Production(name: \"LIGHTLY\", body: \"lovingly, if gently\"),",
  "    Production(name: \"MARINATED\", body: \"moistened in RAVIOLI broth\"),",
  "    Production(name: \"GARLIC\", body: \"GARLIC and REPAST, LASAGNE, INGREDIENTS, and CHEESE\"),",
  "    Production(name: \"INGREDIENTS\", body: \"(fresh GARLIC, basil, and a little COFFEE)\"),",
  "    Production(name: \"COFFEE\", body: \"CHOCOLATE or FUDGE (filling) EXPRESSO\"),",
  "    Production(name: \"CHOCOLATE\", body: \"creamy, hot, and OVEN-BAKED\"),",
  "    Production(name: \"OVEN-BAKED\", body: \"often VERMICELLI-stuffed\"),",
  "    Production(name: \"FUDGE\", body: \"FUDGE under dark GARLIC, eaten\"),",
  "    Production(name: \"EXPRESSO\", body: \"EXPRESSO, proof REPAST, ESPECIALLY SPAGHETTI\"),",
  "    Production(name: \"ESPECIALLY\", body: \"especially, SPECIALLY\"),",
  "    Production(name: \"SPECIALLY\", body: \"specially prepared, ENTREE-STYLE\"),",
  "    Production(name: \"ENTREE-STYLE\", body: \"(eaten now, TASTY, right away)\"),",
  "    Production(name: \"TASTY\", body: \"TASTY, appetizing, SAVORY, TASTY, yummy\"),",
  "    Production(name: \"SAVORY\", body: \"SAVORY and VERMICELLI, ORDERED, rich, yummy\"),",
  "    Production(name: \"ORDERED\", body: \"once, rarely, DINNER, eaten, rarely\"),",
  "    Production(name: \"DINNER\", body: \"delightful italian NOODLES, nicely eaten, ready\"),",
  "    Production(name: \"NOODLES\", body: \"NAPLES-only, or DINNER-leftover, eggy strands\"),",
  "]"]

/-- The RON text of the menu grammar: its lines, each ended by a line feed. -/
def menuText : String := menuLines.foldr (fun line text => line ++ "\n" ++ text) ""

def menu : Except GrammarError Grammar := ofRon menuText

end StochasticGrammar.Grammar
