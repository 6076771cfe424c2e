/-
Why a JSON text is refused, and where.

A fault keeps the unread rest of the text and a number of bytes into it; line and column follow from
the whole text. Columns count bytes.
-/
import ChainFeed.Text.Excerpt
import ChainFeed.Number.Decimal

namespace ChainFeed.Json

/-- a number as a JSON text gives it -/
inductive Number where
  /-- without sign, fraction or exponent, below `2 ^ 64` -/
  | unsigned (n : UInt64)
  /-- below zero and not less than `-2 ^ 63` -/
  | negative (i : Int64)
  | float (x : Float)
deriving DecidableEq

/-- what stands where something else was expected -/
inductive Found where
  | null
  | boolean (b : Bool)
  | number (n : Number)
  | string (s : String)
  | sequence
  | map
deriving DecidableEq

/-- why a text is refused -/
inductive Cause where
  | endInValue
  | endInObject
  | endInList
  | endInString
  | expectedValue
  | expectedIdent
  | expectedColon
  | expectedCommaOrBracket
  | expectedCommaOrBrace
  | invalidNumber
  | numberOutOfRange
  | invalidEscape
  | loneSurrogate
  | unexpectedEscapeEnd
  | controlCharacter
  | keyNotString
  | trailingComma
  | trailingCharacters
  | tooDeep
  | wrongType (found : Found) (expected : String)
  | wrongInteger (i : Int) (expected : String)
  | missingField (name : String)
  | duplicateField (name : String)
  | unknownVariant (name : String) (known : List String)
  | wrongLength (length : Nat) (expected : String)
  | badSocketAddress
deriving DecidableEq

/-- the three kinds of refusal: the text breaks the grammar, ends early, or has another shape -/
inductive Kind where
  | syntactic
  | early
  | shape
deriving DecidableEq, Repr

namespace Cause

def kind : Cause → Kind
  | endInValue | endInObject | endInList | endInString => .early
  | wrongType .. | wrongInteger .. | missingField .. | duplicateField .. | unknownVariant ..
  | wrongLength .. | badSocketAddress => .shape
  | _ => .syntactic

end Cause

/-- a refusal at a place: `past` bytes into the unread rest -/
structure Fault where
  cause : Cause
  rest : List Char
  past : Nat

/-- the text that is left to read -/
abbrev Input := List Char

/-- what reading a value from the start of a text gives: the value and the unread rest, or a fault -/
abbrev Reader (α : Type) := Input → Except Fault (α × Input)

namespace Fault

/-- a fault at the next character -/
def here (cause : Cause) (rest : Input) : Fault := ⟨cause, rest, 0⟩

/-- a fault one byte further -/
def onNext (cause : Cause) (rest : Input) : Fault := ⟨cause, rest, 1⟩

end Fault

/-- the line and column after the first `n` bytes of a text: lines from one, columns from zero -/
def positionAfter : Input → Nat → Nat → Nat → Nat × Nat
  | [], _, line, column => (line, column)
  | c :: cs, n, line, column =>
    if n = 0 then (line, column)
    else if c = '\n' then positionAfter cs (n - 1) (line + 1) 0
    else if c.utf8Size ≤ n then positionAfter cs (n - c.utf8Size) line (column + c.utf8Size)
    else (line, column + n)

/-- the line and column of a fault in the text it was found in -/
def Fault.position (f : Fault) (text : Input) : Nat × Nat :=
  positionAfter text (byteCount text - byteCount f.rest + f.past) 1 0

end ChainFeed.Json
