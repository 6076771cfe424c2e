/-
The words of a JSON text: blanks, keywords, strings and numbers, each read from the start of the text.

Strings and numbers are read in two ways: for their value, and only to be skipped. The second way
accepts more, since nothing is asked of what an ignored value stands for.
-/
import ChainFeed.Json.Text
import ChainFeed.Number.Reading

namespace ChainFeed.Json

/-- the four characters that may stand between the words of a text -/
def isSpace (c : Char) : Bool :=
  c = ' ' || c = '\n' || c = '\t' || c = '\r'

/-- the text after leading blanks -/
def skipSpace (cs : Input) : Input :=
  cs.dropWhile isSpace

/-- reads the rest of a keyword whose first letter is known -/
def scanIdent : List Char → Input → Except Fault Input
  | [], cs => .ok cs
  | _ :: _, [] => .error (.here .endInValue [])
  | w :: word, c :: cs =>
    if c = w then scanIdent word cs else .error (.onNext .expectedIdent (c :: cs))

/-! ## Strings -/

/-- the value of four hexadecimal digits -/
def hexFour? : Input → Option (Nat × Input)
  | a :: b :: c :: d :: rest =>
    match hexValue? a, hexValue? b, hexValue? c, hexValue? d with
    | some a, some b, some c, some d => some (((a * 16 + b) * 16 + c) * 16 + d, rest)
    | _, _, _, _ => none
  | _ => none

/-- reads four hexadecimal digits -/
def scanHex (cs : Input) : Except Fault (Nat × Input) :=
  match hexFour? cs with
  | some r => .ok r
  | none =>
    if byteCount cs < 4 then .error (.here .endInString []) else .error ⟨.invalidEscape, cs, 4⟩

/-- reads an escape after `\u`: one code unit, or two that make a surrogate pair -/
def scanUnicode (cs : Input) : Except Fault (Char × Input) := do
  let (unit, cs) ← scanHex cs
  if 0xDC00 ≤ unit ∧ unit ≤ 0xDFFF then .error (.here .loneSurrogate cs)
  else if unit < 0xD800 ∨ 0xDBFF < unit then .ok (Char.ofNat unit, cs)
  else
    match cs with
    | '\\' :: 'u' :: rest =>
      let (low, rest) ← scanHex rest
      if low < 0xDC00 ∨ 0xDFFF < low then .error (.here .loneSurrogate rest)
      else .ok (Char.ofNat ((unit - 0xD800) * 0x400 + (low - 0xDC00) + 0x10000), rest)
    | ['\\'] => .error (.here .endInString [])
    | '\\' :: rest => .error (.onNext .unexpectedEscapeEnd rest)
    | [] => .error (.here .endInString [])
    | rest => .error (.onNext .unexpectedEscapeEnd rest)

/-- reads an escape after the backslash -/
def scanEscape : Input → Except Fault (Char × Input)
  | [] => .error (.here .endInString [])
  | '"' :: cs => .ok ('"', cs)
  | '\\' :: cs => .ok ('\\', cs)
  | '/' :: cs => .ok ('/', cs)
  | 'b' :: cs => .ok ('\x08', cs)
  | 'f' :: cs => .ok ('\x0c', cs)
  | 'n' :: cs => .ok ('\n', cs)
  | 'r' :: cs => .ok ('\r', cs)
  | 't' :: cs => .ok ('\t', cs)
  | 'u' :: cs => scanUnicode cs
  | cs => .error (.onNext .invalidEscape cs)

/-- reads the characters of a string up to its closing quote, `fuel` of them at most -/
def scanChars : Nat → List Char → Input → Except Fault (List Char × Input)
  | 0, _, cs => .error (.here .endInString cs)
  | _ + 1, _, [] => .error (.here .endInString [])
  | fuel + 1, read, c :: cs =>
    if c = '"' then .ok (read.reverse, cs)
    else if c = '\\' then
      match scanEscape cs with
      | .ok (d, rest) => scanChars fuel (d :: read) rest
      | .error f => .error f
    else if c.toNat < 32 then .error (.onNext .controlCharacter (c :: cs))
    else scanChars fuel (c :: read) cs

/-- reads a string after its opening quote -/
def scanString (cs : Input) : Except Fault (String × Input) :=
  (scanChars (cs.length + 1) [] cs).map fun (s, rest) => (String.ofList s, rest)

/-- skips an escape after the backslash -/
def skipEscape : Input → Except Fault Input
  | [] => .error (.here .endInString [])
  | 'u' :: cs => (scanHex cs).map Prod.snd
  | c :: cs =>
    if "\"\\/bfnrt".toList.contains c then .ok cs else .error (.onNext .invalidEscape (c :: cs))

/-- skips the characters of a string up to its closing quote, `fuel` of them at most -/
def skipChars : Nat → Input → Except Fault Input
  | 0, cs => .error (.here .endInString cs)
  | _ + 1, [] => .error (.here .endInString [])
  | fuel + 1, c :: cs =>
    if c = '"' then .ok cs
    else if c = '\\' then
      match skipEscape cs with
      | .ok rest => skipChars fuel rest
      | .error f => .error f
    else if c.toNat < 32 then .error (.here .controlCharacter (c :: cs))
    else skipChars fuel cs

/-- skips a string after its opening quote -/
def skipString (cs : Input) : Except Fault Input :=
  skipChars (cs.length + 1) cs

/-! ## Numbers -/

/-- the largest exponent that is read digit by digit -/
def exponentLimit : Nat := 2147483647

/-- reads exponent digits while the exponent stays within the limit: the exponent, and whether the
last digit read took it beyond -/
def scanExponentDigits : Nat → Input → Nat × Bool × Input
  | n, [] => (n, false, [])
  | n, c :: cs =>
    if isDigit c then
      let n' := n * 10 + (c.toNat - 48)
      if exponentLimit < n' then (n', true, cs) else scanExponentDigits n' cs
    else (n, false, c :: cs)

/-- the greatest power of ten that a double is scaled by at once -/
def maxPower : Nat := 308

/-- a power of ten, as the nearest double -/
def powerOfTen (n : Nat) : Float :=
  (ofDecimal? false 1 n).getD (infinite false)

/-- A double times a power of ten. It is scaled up once, and down in steps of at most `10 ^ 308`, so that the
result may miss the nearest double by a little; `none` beyond the largest double. -/
def scaled? : Nat → Float → Int → Option Float
  | 0, x, _ => some x
  | steps + 1, x, exponent =>
    if exponent.natAbs ≤ maxPower then
      if 0 ≤ exponent then
        let y := x * powerOfTen exponent.natAbs
        if y.isInf then none else some y
      else some (x / powerOfTen exponent.natAbs)
    else if x == 0.0 then some x
    else if 0 ≤ exponent then none
    else scaled? steps (x / powerOfTen maxPower) (exponent + maxPower)

/-- the float `± digits * 10 ^ exponent`, refused beyond the largest double -/
def floatOf (negative : Bool) (digits : Nat) (exponent : Int) (rest : Input) :
    Except Fault (Number × Input) :=
  match scaled? 4 (floatOfUInt64 (UInt64.ofNat digits)) exponent with
  | some x => .ok (.float (if negative then -x else x), rest)
  | none => .error (.here .numberOutOfRange rest)

/-- the number that digits add to those read before, as far as it stays within 64 bits, and how many digits
are left out -/
def leadingDigits (n : Nat) : List Char → Nat × Nat
  | [] => (n, 0)
  | c :: cs =>
    let n' := n * 10 + (c.toNat - 48)
    if n' < UInt64.size then leadingDigits n' cs else (n, cs.length + 1)

/-- reads the part after `e` of a number whose digits and fraction length are known -/
def scanExponent (negative : Bool) (digits : Nat) (shift : Int) (cs : Input) :
    Except Fault (Number × Input) :=
  let (down, cs) :=
    match cs with
    | '+' :: rest => (false, rest)
    | '-' :: rest => (true, rest)
    | rest => (false, rest)
  match cs with
  | [] => .error (.here .endInValue [])
  | c :: _ =>
    if isDigit c then
      let (n, beyond, rest) := scanExponentDigits 0 cs
      if beyond then
        if digits ≠ 0 ∧ down = false then .error (.here .numberOutOfRange rest)
        else floatOf negative 0 0 (rest.dropWhile isDigit)
      else floatOf negative digits (shift + (if down then -(n : Int) else n)) rest
    else .error (.onNext .invalidNumber cs)

/-- reads the part after the point of a number with the digits before it, of which `left` are left out -/
def scanFraction (negative : Bool) (whole left : Nat) (cs : Input) : Except Fault (Number × Input) :=
  let fraction := cs.takeWhile isDigit
  let rest := cs.dropWhile isDigit
  let (digits, dropped) := leadingDigits whole fraction
  let shift : Int := (left : Int) - (fraction.length - dropped : Nat)
  match fraction, rest with
  | [], [] => .error (.here .endInValue [])
  | [], rest => .error (.onNext .invalidNumber rest)
  | _, 'e' :: rest => scanExponent negative digits shift rest
  | _, 'E' :: rest => scanExponent negative digits shift rest
  | _, rest => floatOf negative digits shift rest

/-- a whole number of which `left` digits are left out: in 64 bits where it fits, else a float; minus zero is
a float -/
def wholeNumber (negative : Bool) (n left : Nat) (rest : Input) : Except Fault (Number × Input) :=
  if left ≠ 0 then floatOf negative n left rest
  else if !negative then .ok (.unsigned (UInt64.ofNat n), rest)
  else if n ≠ 0 ∧ n ≤ 9223372036854775808 then .ok (.negative (Int64.ofInt (-n)), rest)
  else floatOf true n 0 rest

/-- reads a number after its sign -/
def scanNumber (negative : Bool) (cs : Input) : Except Fault (Number × Input) :=
  match cs with
  | [] => .error (.here .endInValue [])
  | c :: _ =>
    if isDigit c then
      let whole := if c = '0' then ['0'] else cs.takeWhile isDigit
      let (n, left) := leadingDigits 0 whole
      let rest := cs.drop whole.length
      match rest with
      | '.' :: rest => scanFraction negative n left rest
      | 'e' :: rest => scanExponent negative n left rest
      | 'E' :: rest => scanExponent negative n left rest
      | d :: _ =>
        if isDigit d then .error (.onNext .invalidNumber rest) else wholeNumber negative n left rest
      | [] => wholeNumber negative n left []
    else .error (.onNext .invalidNumber cs)

/-- skips the part after `e` of a number -/
def skipExponent (cs : Input) : Except Fault Input :=
  let cs :=
    match cs with
    | '+' :: rest => rest
    | '-' :: rest => rest
    | rest => rest
  match cs with
  | [] => .error (.here .invalidNumber [])
  | c :: rest =>
    if isDigit c then .ok (rest.dropWhile isDigit) else .error (.onNext .invalidNumber cs)

/-- skips the part after the point of a number -/
def skipFraction (cs : Input) : Except Fault Input :=
  let rest := cs.dropWhile isDigit
  if rest.length = cs.length then .error (.onNext .invalidNumber rest)
  else
    match rest with
    | 'e' :: rest => skipExponent rest
    | 'E' :: rest => skipExponent rest
    | rest => .ok rest

/-- skips a number after its sign -/
def skipNumber (cs : Input) : Except Fault Input :=
  match cs with
  | [] => .error (.here .invalidNumber [])
  | c :: _ =>
    if isDigit c then
      let rest := if c = '0' then cs.drop 1 else cs.dropWhile isDigit
      match rest with
      | '.' :: rest => skipFraction rest
      | 'e' :: rest => skipExponent rest
      | 'E' :: rest => skipExponent rest
      | d :: _ =>
        if c = '0' && isDigit d then .error (.onNext .invalidNumber rest) else .ok rest
      | [] => .ok []
    else .error (.onNext .invalidNumber cs)

end ChainFeed.Json
