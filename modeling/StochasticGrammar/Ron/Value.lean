import StochasticGrammar.Ron.Scalar

/-! Lists separated by commas, and values of any shape read only to be passed over, with nesting
bounded by a limit. -/
namespace StochasticGrammar.Ron

namespace Reader

/-- Reads items separated by commas up to `terminator`, which stays unread; `item` reads one
item into the state. -/
def separated (terminator : UInt8) (item : σ → Reader σ) (init : σ) : Reader σ :=
  loop (fun (p : σ × Bool) => do
    skipSpace
    let b ← peekOrEof
    if b = terminator then return .inr p.1
    unless p.2 do throw .expectedComma
    let s ← item p.1
    let more ← comma
    return .inl (s, more)) (init, true)

def signedInteger : Reader Nat := do
  let b ← peekOrEof
  if b = 43 then
    skip 1
    unsigned 9223372036854775807
  else if b = 45 then
    skip 1
    unsigned 9223372036854775808
  else unsigned 9223372036854775807

/-- Reads a number of any kind. Bytes that look like an integer are read as one of 64 bits,
signed when a sign comes first; if that fails, the bytes are read again as a float, while line
and column stay where the failed integer left them. -/
def skipNumber : Reader Unit := do
  let first ← peekOrEof
  let signed := first = 43 || first = 45
  let looksFloat : Bool ← fun c =>
    let body := if signed then c.rest.drop 1 else c.rest
    .ok (decide ((body.takeWhile isIntByte).length < (body.takeWhile isFloatByte).length)) c
  if looksFloat then
    discard float
  else fun c =>
    match (if signed then signedInteger else unsigned maxU64) c with
    | .ok _ c' => .ok () c'
    | .error _ c' => (discard float) { c' with rest := c.rest }

/-- Whether a parenthesised value whose opening is read holds a tuple rather than fields:
it does unless an identifier and a colon come first. Reads nothing. -/
def isTuple : Reader Bool := fun c =>
  match identifier c with
  | .error _ _ => .ok true c
  | .ok _ c' =>
    match (do skipSpace; eatByte) c' with
    | .ok b _ => .ok (b ≠ 58) c
    | .error e c'' => .error e c''

/-- Reads a value of any shape and drops it, with `limit` more levels of nesting allowed. -/
def skipValue (limit : Nat) : Reader Unit := do
  let opened (body : Reader Unit) : Reader Unit := match limit with
    | 0 => throw .exceededRecursionLimit
    | _ + 1 => body
  let guarded (r : Reader Unit) : Reader Unit := match limit with
    | _ + 2 => r
    | _ => throw .exceededRecursionLimit
  let child : Reader Unit := match limit with
    | l + 2 => skipValue l
    | _ => throw .exceededRecursionLimit
  let someChild : Reader Unit := match limit with
    | l + 1 => skipValue l
    | 0 => throw .exceededRecursionLimit
  let tuple : Reader Unit := do
    discard (consume "(")
    opened (separated 41 (fun () => child) ())
    discard comma
    unless ← consume ")" do throw .expectedStructLikeEnd
  let fields : Reader Unit := do
    unless ← checkIdent "" do throw .expectedStructLike
    skipSpace
    unless ← consume "(" do throw .expectedStructLike
    opened (separated 41 (fun () => do
      guarded (discard identifier)
      skipSpace
      unless ← consume ":" do throw .expectedMapColon
      skipSpace
      child) ())
    discard comma
    unless ← consume ")" do throw .expectedStructLikeEnd
  let parenthesised : Reader Unit := fun c =>
    if c.rest.head? = some 40 then
      match (do skip 1; skipSpace; isTuple) c with
      | .ok true _ => tuple c
      | .ok false _ => fields c
      | .error e _ => .error e c
    else .ok () c
  if ← consumeIdent "true" then return
  if ← consumeIdent "false" then return
  if ← checkIdent "Some" then
    discard (consume "Some")
    skipSpace
    if ← consume "(" then
      skipSpace
      someChild
      discard comma
      unless ← consume ")" do throw .expectedOptionEnd
      return
    if (← get).implicitSome then
      someChild
      return
    throw .expectedOption
  if ← consumeIdent "None" then return
  if ← consume "()" then return
  if ← consumeIdent "inf" then return
  if ← consumeIdent "-inf" then return
  if ← consumeIdent "NaN" then return
  let named : Bool ← fun c =>
    match identifier c with
    | .ok _ c' => .ok true c'
    | .error _ _ => .ok false c
  if named then
    skipSpace
    parenthesised
    return
  let b ← peekOrEof
  if b = 40 then parenthesised
  else if b = 91 then
    discard (consume "[")
    opened (separated 93 (fun () => child) ())
    discard comma
    unless ← consume "]" do throw .expectedArrayEnd
  else if b = 123 then
    discard (consume "\x7b")
    opened (separated 125 (fun () => do
      child
      skipSpace
      unless ← consume ":" do throw .expectedMapColon
      skipSpace
      child) ())
    discard comma
    unless ← consume "\x7d" do throw .expectedMapEnd
  else if isDigitByte b || b = 43 || b = 45 then skipNumber
  else if b = 46 then discard float
  else if b = 34 || b = 114 then discard string
  else if b = 39 then discard char
  else throw (.unexpectedByte b)

end Reader

end StochasticGrammar.Ron
