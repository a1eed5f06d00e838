import StochasticGrammar.Ron.Cursor
import StochasticGrammar.Decimal

/-! RON scalars: strings, characters, floats and unsigned integers. -/
namespace StochasticGrammar.Ron

namespace Reader

def hexValue (b : UInt8) : Reader Nat :=
  if isDigitByte b then pure (b.toNat - 48)
  else if 97 ≤ b && b ≤ 102 then pure (b.toNat - 87)
  else if 65 ≤ b && b ≤ 70 then pure (b.toNat - 55)
  else throw (.invalidEscape .nonHexDigit)

/-- Reads a byte that must be `b`; a different byte is read and refused with `e`. -/
def expectByte (b : UInt8) (e : ErrorKind) : Reader Unit := do
  if (← eatByte) ≠ b then throw e

/-- Reads up to `n` more hexadecimal digits of a Unicode escape, stopping before `}`, into
the code `acc` built from `count` digits so far; gives the code and its digit count. -/
def unicodeDigits : (n : Nat) → (acc count : Nat) → Reader (Nat × Nat)
  | 0, acc, count => pure (acc, count)
  | n + 1, acc, count => do
    let b ← peekOrEof
    if b = 125 then return (acc, count)
    skip 1
    let d ← hexValue b
    unicodeDigits n (16 * acc + d) (count + 1)

def isCharCode (n : Nat) : Bool := n < 0x110000 && !(0xD800 ≤ n && n ≤ 0xDFFF)

/-- Reads an escape after its backslash, giving the character it stands for. -/
def escape : Reader Char := do
  let b ← eatByte
  if b = 39 then return Char.ofNat 39
  if b = 34 then return '"'
  if b = 92 then return '\\'
  if b = 110 then return '\n'
  if b = 114 then return '\r'
  if b = 116 then return '\t'
  if b = 48 then return Char.ofNat 0
  if b = 120 then
    let high ← hexValue (← eatByte)
    let low ← hexValue (← eatByte)
    return Char.ofNat (16 * high + low)
  if b = 117 then
    expectByte 123 (.invalidEscape .missingOpenBrace)
    let (code, count) ← unicodeDigits 6 0 0
    if count = 0 then throw (.invalidEscape .noDigits)
    expectByte 125 (.invalidEscape .missingCloseBrace)
    if isCharCode code then return Char.ofNat code
    throw (.invalidEscape .notAChar)
  throw (.invalidEscape .unknown)

/-- The text of UTF-8 bytes cut from a text at ASCII bytes, so always whole characters. -/
def utf8Text (bs : List UInt8) : String := (String.fromUTF8? ⟨bs.toArray⟩).getD ""

def quoteOrEscape (bs : List UInt8) : Option Nat := bs.findIdx? fun b => b = 34 || b = 92

/-- Reads the rest of a quoted string after its opening quote, `acc` holding the bytes read
so far. -/
def quotedRest (acc : List UInt8) : Reader (List UInt8 ⊕ String) := fun c =>
  match quoteOrEscape c.rest with
  | none => .error .expectedStringEnd c
  | some i =>
    let piece := c.rest.take i
    if c.rest[i]? = some 34 then .ok (.inr (utf8Text (acc ++ piece))) (c.advance (i + 1))
    else
      match escape (c.advance (i + 1)) with
      | .ok ch c' => .ok (.inl (acc ++ piece ++ ch.toString.toUTF8.toList)) c'
      | .error e c' => .error e c'

def quoted : Reader String := loop quotedRest []

def findPattern (pattern : List UInt8) : List UInt8 → Option Nat
  | [] => if pattern.isEmpty then some 0 else none
  | b :: bs =>
    if pattern.isPrefixOf (b :: bs) then some 0 else (findPattern pattern bs).map (· + 1)

def raw : Reader String := do
  let hashes ← countWhile (· = 35)
  skip hashes
  unless ← consume "\"" do throw .expectedString
  let ending : List UInt8 := 34 :: List.replicate hashes 35
  fun c =>
    match findPattern ending c.rest with
    | none => .error .expectedStringEnd c
    | some i => .ok (utf8Text (c.rest.take i)) (c.advance (i + hashes + 1))

def string : Reader String := do
  if ← consume "\"" then quoted
  else if ← consume "r" then raw
  else throw .expectedString

/-- Reads a character between single quotes: an escape, or one character of at most four
bytes. -/
def char : Reader Char := do
  unless ← consume "'" do throw .expectedChar
  let b ← peekOrEof
  let ch ← if b = 92 then do
      skip 1
      escape
    else fun c =>
      match (c.rest.take 5).findIdx? (· = 39) with
      | none => .error .expectedChar c
      | some i =>
        match (utf8Text (c.rest.take i)).toList with
        | [ch] => .ok ch (c.advance i)
        | _ => .error .expectedChar c
  unless ← consume "'" do throw .expectedChar
  return ch

def floatWords : List (String × Float) :=
  let inf := Float.ofBits 0x7FF0000000000000
  let nan := Float.ofBits 0x7FF8000000000000
  [("inf", inf), ("+inf", inf), ("-inf", -inf), ("NaN", nan), ("+NaN", nan), ("-NaN", -nan)]

/-- Reads the first of `words` that stands here as a whole word. -/
def firstWord : List (String × Float) → Reader (Option Float)
  | [] => pure none
  | (w, x) :: rest => do
    if ← consumeIdent w then return some x
    firstWord rest

def float : Reader Float := do
  if let some x := ← firstWord floatWords then return x
  let n ← countWhile isFloatByte
  let bytes ← ahead n
  if let some j := bytes.findIdx? (· = 95) then
    skip j
    throw .floatUnderscore
  skip n
  match Decimal.readFloat? (asciiText bytes) with
  | some x => return x
  | none => throw .expectedFloat

/-- The value of the digit bytes of an integer in `base`, not above `bound`; underscores are
passed over. -/
def digitsValue (base bound : Nat) : List UInt8 → Nat → Except ErrorKind Nat
  | [], acc => .ok acc
  | b :: bs, acc =>
    if b = 95 then digitsValue base bound bs acc
    else if acc * base > bound then .error .integerOutOfBounds
    else
      let d := if isDigitByte b then b.toNat - 48 else if b ≥ 97 then b.toNat - 87 else b.toNat - 55
      if d ≥ base then .error .expectedInteger
      else if acc * base + d > bound then .error .integerOutOfBounds
      else digitsValue base bound bs (acc * base + d)

/-- Reads an unsigned integer not above `bound`. The bytes of the number are read before a
value out of bounds or a digit too large for the base is refused. -/
def unsigned (bound : Nat) : Reader Nat := do
  let front ← ahead 2
  let base := match front with
    | [48, 120] => 16
    | [48, 98] => 2
    | [48, 111] => 8
    | _ => 10
  if base ≠ 10 then skip 2
  let n ← countWhile isIntByte
  if n = 0 then throw .expectedInteger
  let bytes ← ahead n
  if bytes.head? = some 95 then throw .underscoreAtBeginning
  let value := digitsValue base bound bytes 0
  skip n
  match value with
  | .ok v => return v
  | .error e => throw e

def maxU64 : Nat := 18446744073709551615

end Reader

end StochasticGrammar.Ron
