import StochasticGrammar.Text.Classes

/-! Trees of words, the comma marker and references, and the reading of a production body from
text. -/
namespace StochasticGrammar

/-- A word, or a group of trees in order. -/
inductive Node where
  | word (text : String)
  | group (items : List Node)
  deriving Repr, Inhabited

namespace Node

mutual
def decEq : (a b : Node) → Decidable (a = b)
  | .word s, .word t =>
    if h : s = t then isTrue (h ▸ rfl) else isFalse fun e => h (Node.word.inj e)
  | .word _, .group _ => isFalse nofun
  | .group _, .word _ => isFalse nofun
  | .group xs, .group ys =>
    match decEqList xs ys with
    | isTrue h => isTrue (h ▸ rfl)
    | isFalse h => isFalse fun e => h (Node.group.inj e)

def decEqList : (xs ys : List Node) → Decidable (xs = ys)
  | [], [] => isTrue rfl
  | [], _ :: _ => isFalse nofun
  | _ :: _, [] => isFalse nofun
  | x :: xs, y :: ys =>
    match decEq x y, decEqList xs ys with
    | isTrue h₁, isTrue h₂ => isTrue (h₁ ▸ h₂ ▸ rfl)
    | isFalse h, _ => isFalse fun e => h (List.cons.inj e).1
    | _, isFalse h => isFalse fun e => h (List.cons.inj e).2
end

instance : DecidableEq Node := decEq

mutual
/-- The words of a tree, from left to right. -/
def words : Node → List String
  | word s => [s]
  | group items => wordsOf items
def wordsOf : List Node → List String
  | [] => []
  | t :: ts => t.words ++ wordsOf ts
end

mutual
/-- A word has depth 0; a group is one deeper than its deepest item. -/
def depth : Node → Nat
  | word _ => 0
  | group items => depthOf items + 1
def depthOf : List Node → Nat
  | [] => 0
  | t :: ts => max t.depth (depthOf ts)
end

def asWord : Node → Option String
  | word s => some s
  | group _ => none

mutual
/-- The bracketed form: a word as it is, a group as its items between parentheses, apart by
single spaces. -/
def bracketed : Node → String
  | word s => s
  | group items => "(" ++ bracketedItems items ++ ")"
def bracketedItems : List Node → String
  | [] => ""
  | [t] => t.bracketed
  | t :: ts => t.bracketed ++ " " ++ bracketedItems ts
end

@[simp] theorem wordsOf_nil : wordsOf [] = [] := rfl

@[simp] theorem wordsOf_cons (t : Node) (ts : List Node) :
    wordsOf (t :: ts) = t.words ++ wordsOf ts := rfl

@[simp] theorem words_word (s : String) : (word s).words = [s] := rfl

@[simp] theorem words_group (items : List Node) : (group items).words = wordsOf items := rfl

theorem wordsOf_append (xs ys : List Node) : wordsOf (xs ++ ys) = wordsOf xs ++ wordsOf ys := by
  induction xs with
  | nil => rfl
  | cons t ts ih => simp [ih]

end Node

end StochasticGrammar

namespace StochasticGrammar.Word

/-- The suffix that stands for a comma after a word. -/
def commaMarker : String := "_COMMA"

def hasCommaMarker (w : String) : Bool := commaMarker.toList.isSuffixOf w.toList

/-- A word without one comma marker at its end, and whether it had one. -/
def stripCommaMarker (w : String) : String × Bool :=
  if hasCommaMarker w then (String.ofList (w.toList.take (w.length - commaMarker.length)), true)
  else (w, false)

/-- The word with its comma marker taken off, if it has one. -/
def base (w : String) : String := (stripCommaMarker w).1

/-- Whether a word names a production. -/
def isReference (w : String) : Bool :=
  !(base w).isEmpty && (base w).toList.any Text.isAlphabetic && Text.isUpperCase w

end StochasticGrammar.Word

namespace StochasticGrammar

/-- Why a body text cannot be read. -/
inductive BodyError where
  | unmatchedClose
  | unclosed
  deriving Repr, DecidableEq

def BodyError.message : BodyError → String
  | .unmatchedClose => "unmatched closing parenthesis"
  | .unclosed => "unclosed parenthesis"

namespace Body

/-- The word for the characters read, last first: a final comma becomes the comma marker. -/
def wordOfRead : List Char → String
  | ',' :: rest => String.ofList rest.reverse ++ Word.commaMarker
  | cs => String.ofList cs.reverse

/-- Ends the word being read (last character first), adding it to the trees of the current
sequence (last first); no characters add nothing. -/
def flush (read : List Char) (items : List Node) : List Node :=
  if read.isEmpty then items else .word (wordOfRead read) :: items

/-- Reads the characters `cs`, given the word being read, the trees of the innermost open
sequence and the enclosing sequences, innermost first; all of them hold their items last
first. -/
def readFrom : List Char → List Char → List Node → List (List Node) → Except BodyError (List Node)
  | [], read, items, [] => .ok (flush read items).reverse
  | [], _, _, _ :: _ => .error .unclosed
  | '(' :: cs, read, items, outer => readFrom cs [] [] (flush read items :: outer)
  | ')' :: _, _, _, [] => .error .unmatchedClose
  | ')' :: cs, read, items, parent :: outer =>
    readFrom cs [] (.group (flush read items).reverse :: parent) outer
  | c :: cs, read, items, outer =>
    if Text.isWhiteSpace c then readFrom cs [] (flush read items) outer
    else readFrom cs (c :: read) items outer

/-- Reads a body text into its list of trees. -/
def parse (text : String) : Except BodyError (List Node) := readFrom text.toList [] [] []

end Body

end StochasticGrammar
