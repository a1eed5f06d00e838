import StochasticGrammar.Token
import StochasticGrammar.Text.Lowercase

/-! Normal form of generated text (comma given back, full lower case) and its rendering, where
a word of punctuation only attaches to what stands before it. -/
namespace StochasticGrammar

namespace Word

/-- A word in normal form: one comma marker becomes a comma, then all is lower case. -/
def normalize (w : String) : String :=
  let (b, hadComma) := stripCommaMarker w
  Text.toLower (if hadComma then b ++ "," else b)

end Word

namespace Node

mutual
/-- Every word of a tree in normal form, the groups kept as they are. -/
def normalize : Node → Node
  | word s => word (Word.normalize s)
  | group items => group (normalizeItems items)
def normalizeItems : List Node → List Node
  | [] => []
  | t :: ts => t.normalize :: normalizeItems ts
end

end Node


namespace Word

/-- Whether a word is made of punctuation marks only, and of at least one. -/
def isPunctuation (w : String) : Bool :=
  !w.isEmpty && w.toList.all fun c => c ∈ ['.', '!', '?', ',', ';', ':']

end Word

namespace Node

/-- Whether a tree attaches to the item before it, with no space between. -/
def attaches : Node → Bool
  | word s => Word.isPunctuation s
  | group _ => false

mutual
def renderItem : Node → String
  | word s => s
  | group items => "(" ++ renderItems true items ++ ")"
def renderItems (first : Bool) : List Node → String
  | [] => ""
  | t :: ts => (if first || t.attaches then "" else " ") ++ t.renderItem ++ renderItems false ts
end

/-- The text of a tree; an outermost group has no parentheses. -/
def render : Node → String
  | word s => s
  | group items => renderItems true items

end Node

end StochasticGrammar
