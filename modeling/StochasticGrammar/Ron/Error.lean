/-! Byte classes of a RON text, and the reader's errors: a cause with the line and column,
counted in bytes from 1, where reading stopped. -/
namespace StochasticGrammar.Ron

def isBlankByte (b : UInt8) : Bool := b = 32 || b = 9 || b = 10 || b = 13

def isDigitByte (b : UInt8) : Bool := 48 ≤ b && b ≤ 57

def isLetterByte (b : UInt8) : Bool := (65 ≤ b && b ≤ 90) || (97 ≤ b && b ≤ 122)

def isHexByte (b : UInt8) : Bool := isDigitByte b || (65 ≤ b && b ≤ 70) || (97 ≤ b && b ≤ 102)

def isIntByte (b : UInt8) : Bool := isHexByte b || b = 95

def isFloatByte (b : UInt8) : Bool :=
  isDigitByte b || b = 101 || b = 69 || b = 46 || b = 43 || b = 45 || b = 95

def isIdentFirstByte (b : UInt8) : Bool := isLetterByte b || b = 95

def isIdentByte (b : UInt8) : Bool := isIdentFirstByte b || isDigitByte b

def isRawIdentByte (b : UInt8) : Bool := isIdentByte b || b = 46 || b = 43 || b = 45

def asciiText (bs : List UInt8) : String := String.ofList (bs.map fun b => Char.ofNat b.toNat)

/-- Whether bytes make a plain identifier: a letter or underscore, then letters, digits and
underscores. -/
def isPlainIdentifier : List UInt8 → Bool
  | [] => false
  | b :: bs => isIdentFirstByte b && bs.all isIdentByte


/-- Why an escape sequence in a string is refused. -/
inductive EscapeError where
  | nonHexDigit
  | missingOpenBrace
  | noDigits
  | missingCloseBrace
  | notAChar
  | unknown
  deriving Repr, DecidableEq

def EscapeError.message : EscapeError → String
  | .nonHexDigit => "Non-hex digit found"
  | .missingOpenBrace => "Missing \x7b in Unicode escape"
  | .noDigits => "Expected 1-6 digits, got 0 digits in Unicode escape"
  | .missingCloseBrace => "No \x7d at the end of Unicode escape"
  | .notAChar => "Not a valid char"
  | .unknown => "Unknown escape character"

/-- Why a RON text cannot be read as the value asked for. -/
inductive ErrorKind where
  | eof
  | expectedArray
  | expectedArrayEnd
  | expectedAttribute
  | expectedAttributeEnd
  | expectedComma
  | expectedChar
  | expectedFloat
  | floatUnderscore
  | expectedInteger
  | expectedOption
  | expectedOptionEnd
  | expectedMapColon
  | expectedMapEnd
  | expectedDifferentStructName (expected found : String)
  | expectedStructLike
  | expectedNamedStructLike (name : String)
  | expectedStructLikeEnd
  | expectedString
  | expectedStringEnd
  | expectedIdentifier
  | invalidEscape (cause : EscapeError)
  | integerOutOfBounds
  | noSuchExtension (name : String)
  | unclosedBlockComment
  | underscoreAtBeginning
  | unexpectedByte (byte : UInt8)
  | trailingCharacters
  /-- A variant name that the enum does not have; `expected` lists the variants. -/
  | noSuchEnumVariant (found : String) (outer : Option String) (expected : List String)
  | missingStructField (field : String) (outer : Option String)
  | duplicateStructField (field : String) (outer : Option String)
  | suggestRawIdentifier (identifier : String)
  | exceededRecursionLimit
  /-- A repetition with more rounds than bytes left; every round here that goes on reads a
  byte, so this does not arise, but it bounds each loop by the input. -/
  | stalled
  deriving Repr, DecidableEq

def hexDigits (n : Nat) : String :=
  String.ofList (Nat.toDigits 16 n)

/-- A byte read as the character with its code, between single quotes, with the escapes of a
debugging printer: named escapes for NUL, tab, line feed, carriage return, quote and
backslash, and `\u` with braces for the other characters that do not print. -/
def quoteByte (b : UInt8) : String :=
  let body :=
    if b = 0 then "\\0"
    else if b = 9 then "\\t"
    else if b = 10 then "\\n"
    else if b = 13 then "\\r"
    else if b = 39 then "\\'"
    else if b = 92 then "\\\\"
    else if b < 0x20 || (0x7F ≤ b && b ≤ 0x9F) || b = 0xAD then
      "\\u\x7b" ++ hexDigits b.toNat ++ "\x7d"
    else (Char.ofNat b.toNat).toString
  "'" ++ body ++ "'"

/-- An identifier as error texts write it, between backticks: with `r#` in front when it is
not a plain identifier, and as a quoted text marked invalid when it is empty or holds a byte
that no raw identifier has. -/
def identifierText (s : String) : String :=
  let bs := s.toUTF8.toList
  if bs.isEmpty || !bs.all isRawIdentByte then "\"" ++ s ++ "\"_[invalid identifier]"
  else if isPlainIdentifier bs then "`" ++ s ++ "`"
  else "`r#" ++ s ++ "`"

/-- Alternatives written as "expected either `a` or `b` instead" and its kin. -/
def oneOf (alternatives : List String) (none : String) : String :=
  match alternatives with
  | [] => "there are no " ++ none
  | [a] => "expected `" ++ a ++ "` instead"
  | [a, b] => "expected either `" ++ a ++ "` or `" ++ b ++ "` instead"
  | a :: rest =>
    "expected one of `" ++ a ++ "`" ++ String.join (rest.map fun x => ", `" ++ x ++ "`") ++
      " instead"

def ErrorKind.message : ErrorKind → String
  | .eof => "Unexpected end of RON"
  | .expectedArray => "Expected opening `[`"
  | .expectedArrayEnd => "Expected closing `]`"
  | .expectedAttribute => "Expected an `#![enable(...)]` attribute"
  | .expectedAttributeEnd => "Expected closing `)]` after the enable attribute"
  | .expectedComma => "Expected comma"
  | .expectedChar => "Expected char"
  | .expectedFloat => "Expected float"
  | .floatUnderscore => "Unexpected underscore in float"
  | .expectedInteger => "Expected integer"
  | .expectedOption => "Expected option"
  | .expectedOptionEnd => "Expected closing `)`"
  | .expectedMapColon => "Expected colon"
  | .expectedMapEnd => "Expected closing `\x7d`"
  | .expectedDifferentStructName expected found =>
    "Expected struct " ++ identifierText expected ++ " but found " ++ identifierText found
  | .expectedStructLike => "Expected opening `(`"
  | .expectedNamedStructLike name => "Expected opening `(` for struct " ++ identifierText name
  | .expectedStructLikeEnd => "Expected closing `)`"
  | .expectedString => "Expected string"
  | .expectedStringEnd => "Expected end of string"
  | .expectedIdentifier => "Expected identifier"
  | .invalidEscape cause => cause.message
  | .integerOutOfBounds => "Integer is out of bounds"
  | .noSuchExtension name => "No RON extension named " ++ identifierText name
  | .unclosedBlockComment => "Unclosed block comment"
  | .underscoreAtBeginning => "Unexpected leading underscore in an integer"
  | .unexpectedByte b => "Unexpected byte " ++ quoteByte b
  | .trailingCharacters => "Non-whitespace trailing characters"
  | .noSuchEnumVariant found outer expected =>
    "Unexpected " ++ (if outer.isNone then "enum " else "") ++ "variant named " ++
      identifierText found ++
      (match outer with | some o => "in enum " ++ identifierText o | none => "") ++ ", " ++
      oneOf expected "variants"
  | .missingStructField field outer =>
    "Unexpected missing field " ++ identifierText field ++
      (match outer with | some o => " in " ++ identifierText o | none => "")
  | .duplicateStructField field outer =>
    "Unexpected duplicate field " ++ identifierText field ++
      (match outer with | some o => " in " ++ identifierText o | none => "")
  | .suggestRawIdentifier identifier =>
    "Found invalid std identifier `" ++ identifier ++ "`, try the raw identifier `r#" ++
      identifier ++ "` instead"
  | .exceededRecursionLimit =>
    "Exceeded recursion limit, try increasing the limit and using " ++
      "`serde_stacker` to protect against a stack overflow"
  | .stalled => "Reading made no progress"

/-- An error cause and the position where it arose. -/
structure Error where
  kind : ErrorKind
  line : Nat
  column : Nat
  deriving Repr, DecidableEq

/-- The text of an error: `line:column: cause`. -/
def Error.message (e : Error) : String :=
  toString e.line ++ ":" ++ toString e.column ++ ": " ++ e.kind.message

end StochasticGrammar.Ron
