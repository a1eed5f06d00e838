/-! The seeded random source: ChaCha with twelve rounds keyed from a 64-bit seed, its stream of
64-bit words, and draws from `[0, 1)` made of their top 53 bits. -/
namespace StochasticGrammar.Random

abbrev Key := Vector UInt32 8

abbrev Block := Vector UInt32 16

def rotateLeft (x : UInt32) (n : UInt32) : UInt32 := (x <<< n) ||| (x >>> (32 - n))

/-- The quarter round on the words at `a`, `b`, `c`, `d`. -/
def quarterRound (v : Block) (a b c d : Fin 16) : Block :=
  let va := v[a] + v[b]
  let vd := rotateLeft (v[d] ^^^ va) 16
  let vc := v[c] + vd
  let vb := rotateLeft (v[b] ^^^ vc) 12
  let va := va + vb
  let vd := rotateLeft (vd ^^^ va) 8
  let vc := vc + vd
  let vb := rotateLeft (vb ^^^ vc) 7
  ((v.set a va).set b vb |>.set c vc).set d vd

/-- A round on the columns, then one on the diagonals. -/
def doubleRound (v : Block) : Block :=
  let v := quarterRound v 0 4 8 12
  let v := quarterRound v 1 5 9 13
  let v := quarterRound v 2 6 10 14
  let v := quarterRound v 3 7 11 15
  let v := quarterRound v 0 5 10 15
  let v := quarterRound v 1 6 11 12
  let v := quarterRound v 2 7 8 13
  quarterRound v 3 4 9 14

def initialState (key : Key) (counter : UInt64) : Block :=
  #v[0x61707865, 0x3320646e, 0x79622d32, 0x6b206574,
    key[0], key[1], key[2], key[3], key[4], key[5], key[6], key[7],
    counter.toUInt32, (counter >>> 32).toUInt32, 0, 0]

/-- The block of a key and counter: six double rounds, added to the starting state. -/
def block (key : Key) (counter : UInt64) : Block :=
  let start := initialState key counter
  let final := (List.replicate 6 ()).foldl (fun v _ => doubleRound v) start
  Vector.zipWith (· + ·) final start


def rotateRight (x : UInt32) (n : UInt32) : UInt32 := (x >>> n) ||| (x <<< (32 - n))

def seedStep (s : UInt64) : UInt64 := s * 6364136223846793005 + 11634580027462260723

def seedOutput (s : UInt64) : UInt32 :=
  rotateRight (((s >>> 18) ^^^ s) >>> 27).toUInt32 (s >>> 59).toUInt32

/-- The key of a seed. -/
def keyOfSeed (seed : UInt64) : Key :=
  let s₁ := seedStep seed
  let s₂ := seedStep s₁
  let s₃ := seedStep s₂
  let s₄ := seedStep s₃
  let s₅ := seedStep s₄
  let s₆ := seedStep s₅
  let s₇ := seedStep s₆
  let s₈ := seedStep s₇
  #v[seedOutput s₁, seedOutput s₂, seedOutput s₃, seedOutput s₄,
    seedOutput s₅, seedOutput s₆, seedOutput s₇, seedOutput s₈]

/-- A position in the stream of a key: how many 64-bit words have been read. -/
structure Stream where
  key : Key
  position : Nat

def Stream.ofSeed (seed : UInt64) : Stream := ⟨keyOfSeed seed, 0⟩

def wordAt (key : Key) (i : Nat) : UInt32 :=
  (block key (i / 16).toUInt64).get ⟨i % 16, Nat.mod_lt _ (by decide)⟩

/-- Reads the next 64-bit word. -/
def Stream.next (s : Stream) : UInt64 × Stream :=
  let low := wordAt s.key (2 * s.position)
  let high := wordAt s.key (2 * s.position + 1)
  (low.toUInt64 ||| (high.toUInt64 <<< 32), { s with position := s.position + 1 })

/-- A draw from `[0, 1)`: the fraction `numerator / 2^53`. -/
structure Draw where
  numerator : Nat
  numerator_lt : numerator < 9007199254740992

/-- The draw of the top 53 bits of a 64-bit word. -/
def Draw.ofWord (w : UInt64) : Draw :=
  ⟨(w >>> 11).toNat, by
    have h₁ : (w >>> 11).toNat = w.toNat / 2048 := by
      simp [UInt64.toNat_shiftRight, Nat.shiftRight_eq_div_pow]
    have h₂ := UInt64.toNat_lt w
    rw [h₁]
    omega⟩

def Stream.draw (s : Stream) : Draw × Stream :=
  let (w, s') := s.next
  (Draw.ofWord w, s')

/-- A source of draws started from a seed: the state a seed starts, and one draw. -/
structure Seeded (σ : Type) where
  start : UInt64 → σ
  draw : σ → Draw × σ

/-- The stream of a seed as a source of draws, the one generators use. -/
def Stream.seeded : Seeded Stream := ⟨Stream.ofSeed, Stream.draw⟩

/-- Whether a draw lies below a probability, compared exactly: never below a negative value,
zero or not a number, always below infinity. -/
def Draw.below (u : Draw) (p : Float) : Bool :=
  let bits := p.toBits
  let e := ((bits >>> 52) &&& 0x7FF).toNat
  let f := (bits &&& 0xFFFFFFFFFFFFF).toNat
  if bits >>> 63 = 1 then false
  else if e = 0x7FF then f = 0
  else
    let (m, q) : Nat × Int := if e = 0 then (f, -1074) else (f + 4503599627370496, (e : Int) - 1075)
    let t := q + 53
    if 0 ≤ t then u.numerator < m * Nat.pow 2 t.toNat else u.numerator * Nat.pow 2 (-t).toNat < m

end StochasticGrammar.Random
