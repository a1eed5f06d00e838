import StochasticGrammar.Ron.Error

/-! Reading positions in the UTF-8 bytes of a RON text, blank space and comments, and the reading
steps on bytes. -/
namespace StochasticGrammar.Ron

/-- A reading position, and whether the text switched on optional values written without
`Some`. -/
structure Cursor where
  rest : List UInt8
  line : Nat
  column : Nat
  implicitSome : Bool
  deriving Repr

/-- Reading steps: each may fail with an error cause, keeping the cursor of the failure. -/
abbrev Reader := EStateM ErrorKind Cursor

namespace Cursor

def start (text : String) : Cursor := ⟨text.toUTF8.data.toList, 1, 1, false⟩

/-- The cursor one byte further; at the end of the text it stays. -/
def next (c : Cursor) : Cursor :=
  match c.rest with
  | [] => c
  | b :: bs =>
    if b = 10 then { c with rest := bs, line := c.line + 1, column := 1 }
    else { c with rest := bs, column := c.column + 1 }

/-- The cursor `n` bytes further, or at the end of the text. -/
def advance (c : Cursor) : Nat → Cursor
  | 0 => c
  | n + 1 => c.next.advance n

@[simp] theorem next_rest (c : Cursor) : c.next.rest = c.rest.tail := by
  unfold next
  split <;> (try split) <;> simp_all

@[simp] theorem advance_rest (c : Cursor) (n : Nat) : (c.advance n).rest = c.rest.drop n := by
  induction n generalizing c with
  | zero => rfl
  | succ n ih => simp [advance, ih, List.drop_tail]

end Cursor

/-- What blank space is being skipped: the space between tokens, a line comment, or block
comments of which `depth` are open. -/
inductive Space where
  | between
  | line
  | block (depth : Nat)

def readMore (k : Nat) : Except (ErrorKind × Nat) Nat → Except (ErrorKind × Nat) Nat
  | .ok n => .ok (n + k)
  | .error (e, n) => .error (e, n + k)

/-- How many bytes at the front of `bs` are blank space and comments; on failure, the cause
and how many bytes were read before it. -/
def spaceLength : Space → List UInt8 → Except (ErrorKind × Nat) Nat
  | .between, [] => .ok 0
  | .between, b :: bs =>
    if isBlankByte b then readMore 1 (spaceLength .between bs)
    else if b = 47 then
      match bs with
      | [] => .error (.eof, 1)
      | 47 :: cs => readMore 2 (spaceLength .line cs)
      | 42 :: cs => readMore 2 (spaceLength (.block 1) cs)
      | c :: _ => .error (.unexpectedByte c, 2)
    else .ok 0
  | .line, [] => .ok 0
  | .line, b :: bs => readMore 1 (spaceLength (if b = 10 then .between else .line) bs)
  | .block _, [] => .error (.unclosedBlockComment, 0)
  | .block d, 47 :: 42 :: bs => readMore 2 (spaceLength (.block (d + 1)) bs)
  | .block d, 42 :: 47 :: bs =>
    readMore 2 (spaceLength (if d ≤ 1 then .between else .block (d - 1)) bs)
  | .block d, _ :: bs => readMore 1 (spaceLength (.block d) bs)

namespace Reader

def run (r : Reader α) (c : Cursor) : EStateM.Result ErrorKind Cursor α := r c

def peek? : Reader (Option UInt8) := fun c => .ok c.rest.head? c

def peekOrEof : Reader UInt8 := fun c =>
  match c.rest with
  | [] => .error .eof c
  | b :: _ => .ok b c

def eatByte : Reader UInt8 := fun c =>
  match c.rest with
  | [] => .error .eof c
  | b :: _ => .ok b c.next

def skip (n : Nat) : Reader Unit := fun c => .ok () (c.advance n)

def countWhile (p : UInt8 → Bool) : Reader Nat := fun c => .ok (c.rest.takeWhile p).length c

def ahead (n : Nat) : Reader (List UInt8) := fun c => .ok (c.rest.take n) c

def testFor (s : String) : Reader Bool := fun c => .ok (s.toUTF8.toList.isPrefixOf c.rest) c

def consume (s : String) : Reader Bool := fun c =>
  if s.toUTF8.toList.isPrefixOf c.rest then .ok true (c.advance s.utf8ByteSize) else .ok false c

def identByteAt (n : Nat) : Reader Bool := fun c => .ok ((c.rest.drop n).head?.any isIdentByte) c

/-- Whether `s` stands here as a whole word: no identifier byte follows it. -/
def checkIdent (s : String) : Reader Bool := do
  return (← testFor s) && !(← identByteAt s.utf8ByteSize)

def consumeIdent (s : String) : Reader Bool := do
  if ← checkIdent s then
    skip s.utf8ByteSize
    return true
  return false

def skipSpace : Reader Unit := fun c =>
  match spaceLength .between c.rest with
  | .ok n => .ok () (c.advance n)
  | .error (e, n) => .error e (c.advance n)

def comma : Reader Bool := do
  skipSpace
  if ← consume "," then
    skipSpace
    return true
  return false

/-- Reads an identifier: a letter or underscore, then letters, digits and underscores, or
`r#` followed by the bytes of a raw identifier. Bytes that would only make a raw identifier
are refused with the advice to write one. -/
def identifier : Reader (List UInt8) := fun c =>
  let plain (c : Cursor) : EStateM.Result ErrorKind Cursor (List UInt8) :=
    let std := c.rest.takeWhile isIdentByte
    let raw := c.rest.takeWhile isRawIdentByte
    if std.length < raw.length then .error (.suggestRawIdentifier (asciiText raw)) c
    else .ok std (c.advance std.length)
  match c.rest with
  | [] => .error .eof c
  | b :: bs =>
    if !isIdentFirstByte b then
      if isRawIdentByte b then
        .error (.suggestRawIdentifier (asciiText (c.rest.takeWhile isRawIdentByte))) c
      else .error .expectedIdentifier c
    else if b = 114 then
      match bs with
      | [] => .error .eof c
      | 34 :: _ => .error .expectedIdentifier c
      | 35 :: after =>
        if after.head?.any isRawIdentByte then
          let name := after.takeWhile isRawIdentByte
          .ok name ((c.advance 2).advance name.length)
        else .error .expectedIdentifier c
      | _ => plain c
    else plain c

/-- Reads tokens from a cursor, going on through all of them, given whether all so far were
there and the first failure so far. A token that is there is read together with the blank
space and comments after it, where a failure is kept; a token that is not there reads nothing.
The answer is the first failure if there is one, else whether all tokens were there. -/
def tokensFrom : List String → Bool → Option ErrorKind → Cursor →
    EStateM.Result ErrorKind Cursor Bool
  | [], all, failed, c => match failed with
    | some e => .error e c
    | none => .ok all c
  | t :: ts, all, failed, c =>
    if t.toUTF8.toList.isPrefixOf c.rest then
      match skipSpace (c.advance t.utf8ByteSize) with
      | .ok () c' => tokensFrom ts all failed c'
      | .error e c' => tokensFrom ts all (failed <|> some e) c'
    else tokensFrom ts false failed c

def consumeAll (ts : List String) : Reader Bool := tokensFrom ts true none

/-- Repeats `round` at most `fuel` times until it gives an answer, then stops with `stalled`. -/
def loopFor (round : σ → Reader (σ ⊕ β)) : Nat → σ → Cursor → EStateM.Result ErrorKind Cursor β
  | 0, _, c => .error .stalled c
  | fuel + 1, s, c =>
    match round s c with
    | .ok (.inl s') c' => loopFor round fuel s' c'
    | .ok (.inr b) c' => .ok b c'
    | .error e c' => .error e c'

/-- Repeats `round` until it gives an answer, for at most one round more than there are bytes
left: every round here that goes on reads a byte. -/
def loop (round : σ → Reader (σ ⊕ β)) (s : σ) (c : Cursor) : EStateM.Result ErrorKind Cursor β :=
  loopFor round (c.rest.length + 1) s c

section Loop

variable (round : σ → Reader (σ ⊕ β))
  (hread : ∀ s c s' c', round s c = .ok (.inl s') c' → c'.rest.length < c.rest.length)
include hread

/-- Fuel beyond the bytes left is never used up by rounds that read. -/
theorem loopFor_congr {n m : Nat} {s : σ} {c : Cursor} (hn : c.rest.length < n)
    (hm : c.rest.length < m) : loopFor round n s c = loopFor round m s c := by
  induction n generalizing m s c with
  | zero => omega
  | succ n ih =>
    obtain ⟨m, rfl⟩ : ∃ m', m = m' + 1 := ⟨m - 1, by omega⟩
    simp only [loopFor]
    split
    · next s' c' hr =>
      have := hread s c s' c' hr
      exact ih (by omega) (by omega)
    · rfl
    · rfl

/-- The loop's own equation, for rounds that read a byte whenever they go on. -/
theorem loop_eq (s : σ) (c : Cursor) :
    loop round s c =
      match round s c with
      | .ok (.inl s') c' => loop round s' c'
      | .ok (.inr b) c' => .ok b c'
      | .error e c' => .error e c' := by
  have hloop : loop round s c = loopFor round (c.rest.length + 1) s c := rfl
  rw [hloop, loopFor]
  split
  · next s' c' hr =>
    have := hread s c s' c' hr
    exact loopFor_congr round hread (by omega) (by omega)
  · rfl
  · rfl

end Loop

end Reader

end StochasticGrammar.Ron
