/-! Decimal numbers: the reading of decimal text into the nearest double, and the shortest
decimal that reads back as a given double, written positionally. -/
namespace StochasticGrammar

/-- The number `digits × 10^exponent`. -/
structure Decimal where
  digits : Nat
  exponent : Int
  deriving Repr, DecidableEq

namespace Decimal

def digitCount (n : Nat) : Nat := (toString n).length

/-- Moves trailing zeros of the digits into the exponent; `fuel` bounds the zeros moved. -/
def stripZeros (digits : Nat) (exponent : Int) : (fuel : Nat) → Decimal
  | 0 => ⟨digits, exponent⟩
  | fuel + 1 =>
    if digits ≠ 0 && digits % 10 = 0 then stripZeros (digits / 10) (exponent + 1) fuel
    else ⟨digits, exponent⟩

def trimmed (d : Decimal) : Decimal := stripZeros d.digits d.exponent (digitCount d.digits)

/-- The double nearest to a decimal. Beyond `10^310` every decimal is past the largest
double and reads as infinity; below `10^-330` every one is under half the least double and
reads as zero; between, the exact value is rounded. -/
def toFloat (d : Decimal) : Float :=
  if d.digits = 0 then 0.0
  else if d.exponent + digitCount d.digits > 310 then Float.ofBits 0x7FF0000000000000
  else if d.exponent + digitCount d.digits < -330 then 0.0
  else if d.exponent < 0 then Float.ofScientific d.digits true d.exponent.natAbs
  else Float.ofScientific d.digits false d.exponent.toNat

def valueOfDigits (cs : List Char) : Nat :=
  cs.foldl (fun n c => 10 * n + (c.toNat - 48)) 0

def spanDigits (cs : List Char) : List Char × List Char := (cs.takeWhile Char.isDigit, cs.dropWhile Char.isDigit)

/-- Reads an exponent: an optional sign and at least one digit, and nothing after them. -/
def readExponent (cs : List Char) : Option Int :=
  let (negative, body) := match cs with
    | '+' :: r => (false, r)
    | '-' :: r => (true, r)
    | r => (false, r)
  if !body.isEmpty && body.all Char.isDigit then
    let n : Int := valueOfDigits body
    some (if negative then -n else n)
  else none

/-- Reads an unsigned decimal text without its sign: digits, an optional point and more
digits, at least one digit in all, and an optional exponent. -/
def readUnsigned (cs : List Char) : Option Decimal :=
  let (whole, afterWhole) := spanDigits cs
  let (fraction, afterFraction) := match afterWhole with
    | '.' :: r => spanDigits r
    | r => ([], r)
  if whole.isEmpty && fraction.isEmpty then none
  else
    let exponent : Option Int := match afterFraction with
      | [] => some 0
      | c :: r => if c = 'e' || c = 'E' then readExponent r else none
    exponent.map fun e => ⟨valueOfDigits (whole ++ fraction), e - fraction.length⟩

/-- Reads a decimal text, an infinity or not a number, with an optional sign, into the nearest
double. -/
def readFloat? (s : String) : Option Float :=
  let cs := s.toList
  let (negative, body) := match cs with
    | '+' :: r => (false, r)
    | '-' :: r => (true, r)
    | r => (false, r)
  let signed (x : Float) : Float := if negative then -x else x
  let word := String.ofList (body.map Char.toLower)
  if word = "inf" || word = "infinity" then some (signed (Float.ofBits 0x7FF0000000000000))
  else if word = "nan" then some (signed (Float.ofBits 0x7FF8000000000000))
  else (readUnsigned body).map fun d => signed d.toFloat

end Decimal

end StochasticGrammar

namespace StochasticGrammar.Decimal

/-- A positive value and its interval: `value`, `low` and `high` in units of `2^unit`, the
ends included when `inclusive`. -/
structure Interval where
  value : Nat
  low : Nat
  high : Nat
  unit : Int
  inclusive : Bool
  deriving Repr

/-- What the bits of a double stand for, sign apart. -/
inductive Magnitude where
  | nan
  | infinite
  | zero
  | finite (i : Interval)
  deriving Repr

def Magnitude.ofBits (bits : UInt64) : Magnitude :=
  let e := ((bits >>> 52) &&& 0x7FF).toNat
  let f := (bits &&& 0xFFFFFFFFFFFFF).toNat
  if e = 0x7FF then (if f = 0 then .infinite else .nan)
  else if e = 0 then (if f = 0 then .zero else .finite ⟨4 * f, 4 * f - 2, 4 * f + 2, -1076, true⟩)
  else
    let m := 4503599627370496 + f
    let low := if f = 0 then 4 * m - 1 else 4 * m - 2
    .finite ⟨4 * m, low, 4 * m + 2, (e : Int) - 1077, m % 2 = 0⟩

/-- Compares `n × 10^e` with `x × 2^u` exactly. -/
def compareScaled (n : Nat) (e : Int) (x : Nat) (u : Int) : Ordering :=
  compare (n * Nat.pow 10 e.toNat * Nat.pow 2 (-u).toNat) (x * Nat.pow 2 u.toNat * Nat.pow 10 (-e).toNat)

/-- Whether `n × 10^e` lies in the interval. -/
def Interval.holds (i : Interval) (n : Nat) (e : Int) : Bool :=
  let toLow := compareScaled n e i.low i.unit
  let toHigh := compareScaled n e i.high i.unit
  (toLow = .gt || (i.inclusive && toLow = .eq)) && (toHigh = .lt || (i.inclusive && toHigh = .eq))

/-- The exponent of the leading digit of the value: `10^k ≤ value < 10^(k+1)`. -/
def Interval.leadExponent (i : Interval) : Int :=
  let p := i.value * Nat.pow 2 i.unit.toNat
  let q := Nat.pow 2 (-i.unit).toNat
  if q ≤ p then (digitCount (p / q) : Int) - 1
  else -(digitCount ((q + p - 1) / p - 1) : Int)

/-- The neighbour of the value on the grid `10^e` that lies in the interval, the nearer one
when both do and the upper one on a tie. -/
def Interval.onGrid (i : Interval) (e : Int) : Option Nat :=
  let a := i.value * Nat.pow 2 i.unit.toNat * Nat.pow 10 (-e).toNat
  let b := Nat.pow 2 (-i.unit).toNat * Nat.pow 10 e.toNat
  let below := a / b
  match i.holds below e, i.holds (below + 1) e with
  | true, true => if 2 * a < (2 * below + 1) * b then some below else some (below + 1)
  | true, false => some below
  | false, true => some (below + 1)
  | false, false => none

def Interval.exact (i : Interval) : Decimal :=
  if 0 ≤ i.unit then ⟨i.value * Nat.pow 2 i.unit.toNat, 0⟩ else ⟨i.value * Nat.pow 5 (-i.unit).toNat, i.unit⟩

/-- The shortest decimal in the interval, nearest to the value among the shortest. -/
def Interval.shortest (i : Interval) : Decimal :=
  let lead := i.leadExponent
  let found := (List.range 17).findSome? fun (n : Nat) =>
    let e := lead - (n : Int)
    (i.onGrid e).map fun d => (d, e)
  match found with
  | some (d, e) => trimmed ⟨d, e⟩
  | none => i.exact.trimmed

/-- The digits of a decimal with the point placed, no exponent: zeros are added after the
digits for a positive exponent, and `0.` with zeros goes before them when the point falls
in front of the first digit. -/
def positional (d : Decimal) : String :=
  let s := toString d.digits
  if 0 ≤ d.exponent then s ++ String.ofList (List.replicate d.exponent.toNat '0')
  else
    let k := d.exponent.natAbs
    if k < s.length then String.ofList (s.toList.take (s.length - k)) ++ "." ++
      String.ofList (s.toList.drop (s.length - k))
    else "0." ++ String.ofList (List.replicate (k - s.length) '0') ++ s

def signBit (x : Float) : Bool := x.toBits >>> 63 = 1

/-- The plain text of a double: the shortest decimal that reads back, written positionally,
with `-` in front of a negative value or zero; `NaN` and `inf` for the special values. -/
def plainText (x : Float) : String :=
  let sign := if signBit x then "-" else ""
  match Magnitude.ofBits x.toBits with
  | .nan => "NaN"
  | .infinite => sign ++ "inf"
  | .zero => sign ++ "0"
  | .finite i => sign ++ positional i.shortest

/-- The shortest decimal of a finite double's magnitude; zero is `0 × 10^0`, and NaN and the
infinities have none. -/
def shortest? (x : Float) : Option Decimal :=
  match Magnitude.ofBits x.toBits with
  | .finite i => some i.shortest
  | .zero => some ⟨0, 0⟩
  | _ => none

end StochasticGrammar.Decimal
