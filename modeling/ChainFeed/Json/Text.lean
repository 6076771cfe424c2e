/-
Text forms of JSON: quoted strings, numbers, and the wording of faults.

A float is written with the fewest digits that read back: positionally from `1e-5` up to `1e16`,
always with a point, and with a signed exponent outside of that range.
-/
import ChainFeed.Json.Fault
import ChainFeed.Number.Text
import ChainFeed.Text.Hidden

namespace ChainFeed.Json

/-! ## Strings -/

/-- the hexadecimal digit of a number below 16 -/
def hexDigit (n : Nat) : Char :=
  if n < 10 then Char.ofNat (48 + n) else Char.ofNat (87 + n)

/-- a character inside quotes -/
def escapeChar (c : Char) : List Char :=
  if c = '"' then ['\\', '"']
  else if c = '\\' then ['\\', '\\']
  else if c = '\n' then ['\\', 'n']
  else if c = '\r' then ['\\', 'r']
  else if c = '\t' then ['\\', 't']
  else if c = '\x08' then ['\\', 'b']
  else if c = '\x0c' then ['\\', 'f']
  else if c.toNat < 32 then ['\\', 'u', '0', '0', hexDigit (c.toNat / 16), hexDigit (c.toNat % 16)]
  else [c]

/-- a string without its quotes -/
def escape (cs : List Char) : List Char :=
  cs.flatMap escapeChar

/-- a quoted string -/
def quote (s : String) : List Char :=
  '"' :: (escape s.toList ++ ['"'])

/-! ## Numbers -/

/-- Numbers from `1e-5` up to `1e16` are written positionally, and exponents with their sign. -/
def floatLayout : FloatLayout := ⟨.fewest, 16, 4, true⟩

/-- the text of a double; the doubles that are not finite have none and are written as `null` -/
def floatText (x : Float) : List Char :=
  (floatLayout.text? x).getD ['n', 'u', 'l', 'l']

/-- the text of a number -/
def Number.text : Number → List Char
  | .unsigned n => natText n.toNat
  | .negative i => intText i.toInt
  | .float x => floatText x

/-! ## Wording of faults -/

/-- a character of a quoted string as a fault shows it: one that does not show by itself as its code
point in hexadecimal -/
def shownChar (c : Char) : List Char :=
  if c = '"' then ['\\', '"']
  else if c = '\\' then ['\\', '\\']
  else if c = '\n' then ['\\', 'n']
  else if c = '\r' then ['\\', 'r']
  else if c = '\t' then ['\\', 't']
  else if c.toNat = 0 then ['\\', '0']
  else if isHidden c then '\\' :: 'u' :: '\x7b' :: (Nat.toDigits 16 c.toNat ++ ['\x7d'])
  else [c]

def Found.message : Found → String
  | .null => "null"
  | .boolean b => "boolean `" ++ (if b then "true" else "false") ++ "`"
  | .number (.float x) => "floating point `" ++ String.ofList (floatText x) ++ "`"
  | .number n => "integer `" ++ String.ofList n.text ++ "`"
  | .string s => "string \"" ++ String.ofList (s.toList.flatMap shownChar) ++ "\""
  | .sequence => "sequence"
  | .map => "map"

/-- a list of names as alternatives -/
def alternatives : List String → String
  | [] => "there are no variants"
  | [a] => "expected `" ++ a ++ "`"
  | [a, b] => "expected `" ++ a ++ "` or `" ++ b ++ "`"
  | names => "expected one of " ++ ", ".intercalate (names.map fun n => "`" ++ n ++ "`")

def Cause.message : Cause → String
  | endInValue => "EOF while parsing a value"
  | endInObject => "EOF while parsing an object"
  | endInList => "EOF while parsing a list"
  | endInString => "EOF while parsing a string"
  | expectedValue => "expected value"
  | expectedIdent => "expected ident"
  | expectedColon => "expected `:`"
  | expectedCommaOrBracket => "expected `,` or `]`"
  | expectedCommaOrBrace => "expected `,` or `\x7d`"
  | invalidNumber => "invalid number"
  | numberOutOfRange => "number out of range"
  | invalidEscape => "invalid escape"
  | loneSurrogate => "lone leading surrogate in hex escape"
  | unexpectedEscapeEnd => "unexpected end of hex escape"
  | controlCharacter => "control character (\\u0000-\\u001F) found while parsing a string"
  | keyNotString => "key must be a string"
  | trailingComma => "trailing comma"
  | trailingCharacters => "trailing characters"
  | tooDeep => "recursion limit exceeded"
  | wrongType found expected => "invalid type: " ++ found.message ++ ", expected " ++ expected
  | wrongInteger i expected =>
    "invalid value: integer `" ++ String.ofList (intText i) ++ "`, expected " ++ expected
  | missingField name => "missing field `" ++ name ++ "`"
  | duplicateField name => "duplicate field `" ++ name ++ "`"
  | unknownVariant name known => "unknown variant `" ++ name ++ "`, " ++ alternatives known
  | wrongLength n expected =>
    "invalid length " ++ String.ofList (natText n) ++ ", expected " ++ expected
  | badSocketAddress => "invalid socket address syntax"

/-- the wording of a fault with its place in the text -/
def Fault.message (f : Fault) (text : Input) : String :=
  let (line, column) := f.position text
  f.cause.message ++ " at line " ++ toString line ++ " column " ++ toString column

end ChainFeed.Json
