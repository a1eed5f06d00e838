import StochasticGrammar.Ron.Value

/-! Whole RON documents, named structs with fields, and lists of items. -/
namespace StochasticGrammar.Ron

namespace Reader

/-- Reads the name of a struct if one stands here, plain or raw; another name is refused,
naming both. Bytes that make no identifier are refused before they are read, as a struct
without its opening parenthesis. -/
def structName (name : String) : Reader Unit := do
  if ← checkIdent "" then return
  let found ← fun c =>
    match identifier c with
    | .ok bs c' => .ok (asciiText bs) c'
    | .error (.suggestRawIdentifier raw) c' =>
      if raw = name then .error (.suggestRawIdentifier raw) c'
      else .error (.expectedNamedStructLike name) c
    | .error _ _ => .error (.expectedNamedStructLike name) c
  if name.isEmpty then throw (.expectedNamedStructLike name)
  if found ≠ name then throw (.expectedDifferentStructName name found)

/-- Reads a struct `name(…)` with `limit` levels of nesting left. `field` reads the value of
a field the struct has into the state, given the levels left for that value; the answer
holds the state and the names of the fields read, last first. -/
def record (limit : Nat) (name : String) (fieldNames : List String)
    (field : String → σ → Nat → Reader σ) (init : σ) : Reader (σ × List String) := do
  structName name
  skipSpace
  unless ← consume "(" do throw (.expectedNamedStructLike name)
  match limit with
  | 0 => throw .exceededRecursionLimit
  | l + 1 =>
    let result ← separated 41 (fun (p : σ × List String) => do
      if l = 0 then throw .exceededRecursionLimit
      let key := asciiText (← identifier)
      let known := fieldNames.contains key
      if known && p.2.contains key then throw (.duplicateStructField key (some name))
      skipSpace
      unless ← consume ":" do throw .expectedMapColon
      skipSpace
      match l with
      | 0 => throw .exceededRecursionLimit
      | l' + 1 =>
        if known then return (← field key p.1 l', key :: p.2)
        skipValue l'
        return p) (init, [])
    return result

def closeRecord : Reader Unit := do
  discard comma
  unless ← consume ")" do throw .expectedStructLikeEnd

/-- Reads a list `[…]` with `limit` levels of nesting left, each item read by `item` given the
levels left for it. -/
def listOf (limit : Nat) (item : Nat → Reader α) : Reader (List α) := do
  unless ← consume "[" do throw .expectedArray
  match limit with
  | 0 => throw .exceededRecursionLimit
  | l + 1 =>
    let items ← separated 93 (fun (acc : List α) => do
      match l with
      | 0 => throw .exceededRecursionLimit
      | l' + 1 => return (← item l') :: acc) []
    discard comma
    unless ← consume "]" do throw .expectedArrayEnd
    return items.reverse

def extensionNames : List String := ["unwrap_newtypes", "implicit_some", "unwrap_variant_newtypes"]

def extensionList : Reader Unit :=
  loop (fun () => do
    let name := asciiText (← identifier)
    unless extensionNames.contains name do throw (.noSuchExtension name)
    if name = "implicit_some" then modify fun c => { c with implicitSome := true }
    let more ← comma
    let another ← identByteAt 0
    if !more && another then throw .expectedComma
    if !more || !another then return .inr ()
    return .inl ()) ()

def attributes : Reader Unit :=
  loop (fun () => do
    if (← peek?) ≠ some 35 then return .inr ()
    unless ← consumeAll ["#", "!", "[", "enable", "("] do throw .expectedAttribute
    skipSpace
    extensionList
    skipSpace
    unless ← consumeAll [")", "]"] do throw .expectedAttributeEnd
    skipSpace
    return .inl ()) ()

/-- Reads a whole document holding one value, read by `value` given the levels of nesting
allowed. -/
def document (value : Nat → Reader α) : Reader α := do
  skipSpace
  attributes
  let v ← value 128
  skipSpace
  unless (← get).rest.isEmpty do throw .trailingCharacters
  return v

end Reader

/-- Reads a RON text as one value. -/
def parse (text : String) (value : Nat → Reader α) : Except Error α :=
  match Reader.document value (Cursor.start text) with
  | .ok v _ => .ok v
  | .error e c => .error ⟨e, c.line, c.column⟩

end StochasticGrammar.Ron
