/-
Codecs: how values of one type are written as JSON text and read back.

A reader takes its value from the start of a text and leaves the rest. It refuses a text at the first
thing that is wrong in reading order.
-/
import ChainFeed.Json.Skip

namespace ChainFeed.Json

/-- how values of a type are written and read -/
structure Codec (α : Type) where
  write : α → List Char
  read : Reader α

/-- the fault of a value that has another type than the expected one, at the value's first character -/
def mismatch (expected : String) : Input → Fault
  | [] => .here .endInValue []
  | 'n' :: cs => named .null ['u', 'l', 'l'] cs
  | 't' :: cs => named (.boolean true) ['r', 'u', 'e'] cs
  | 'f' :: cs => named (.boolean false) ['a', 'l', 's', 'e'] cs
  | '-' :: cs => numbered (scanNumber true cs)
  | '"' :: cs =>
    match scanString cs with
    | .ok (s, cs) => .here (.wrongType (.string s) expected) cs
    | .error f => f
  | '[' :: cs => .here (.wrongType .sequence expected) ('[' :: cs)
  | '\x7b' :: cs => .here (.wrongType .map expected) ('\x7b' :: cs)
  | c :: cs =>
    if isDigit c then numbered (scanNumber false (c :: cs))
    else .onNext .expectedValue (c :: cs)
where
  named (found : Found) (word : List Char) (cs : Input) : Fault :=
    match scanIdent word cs with
    | .ok cs => .here (.wrongType found expected) cs
    | .error f => f
  numbered : Except Fault (Number × Input) → Fault
    | .ok (n, cs) => .here (.wrongType (.number n) expected) cs
    | .error f => f

/-! ## Numbers -/

/-- reads a number and takes it as a value of a type, or tells why it is none -/
def readNumber (expected : String) (take : Number → Except Cause α) : Reader α := fun cs =>
  let taken : Except Fault (Number × Input) → Except Fault (α × Input)
    | .ok (n, cs) =>
      match take n with
      | .ok a => .ok (a, cs)
      | .error cause => .error (.here cause cs)
    | .error f => .error f
  match skipSpace cs with
  | '-' :: cs => taken (scanNumber true cs)
  | c :: cs =>
    if isDigit c then taken (scanNumber false (c :: cs)) else .error (mismatch expected (c :: cs))
  | [] => .error (.here .endInValue [])

/-- an integer as a number -/
def Number.ofInt (i : Int) : Number :=
  if 0 ≤ i then .unsigned (UInt64.ofNat i.toNat) else .negative (Int64.ofInt i)

/-- the integer that a number is, if it is none that has a point or an exponent -/
def Number.toInt? : Number → Option Int
  | .unsigned n => some n.toNat
  | .negative i => some i.toInt
  | .float _ => none

/-- takes a number as an integer from `lo` up to `hi` -/
def takeInt (expected : String) (lo hi : Int) (ofInt : Int → α) (n : Number) : Except Cause α :=
  match n.toInt? with
  | none => .error (.wrongType (.number n) expected)
  | some i => if lo ≤ i ∧ i ≤ hi then .ok (ofInt i) else .error (.wrongInteger i expected)

/-- integers of a bounded type -/
def boundedInt (expected : String) (lo hi : Int) (ofInt : Int → α) (toInt : α → Int) : Codec α where
  write a := intText (toInt a)
  read := readNumber expected (takeInt expected lo hi ofInt)

def uint8 : Codec UInt8 :=
  boundedInt "u8" 0 255 (fun i => UInt8.ofNat i.toNat) (fun n => n.toNat)

def uint16 : Codec UInt16 :=
  boundedInt "u16" 0 65535 (fun i => UInt16.ofNat i.toNat) (fun n => n.toNat)

def uint32 : Codec UInt32 :=
  boundedInt "u32" 0 4294967295 (fun i => UInt32.ofNat i.toNat) (fun n => n.toNat)

def uint64 : Codec UInt64 :=
  boundedInt "u64" 0 18446744073709551615 (fun i => UInt64.ofNat i.toNat) (fun n => n.toNat)

/-- sizes, of the same range as 64-bit numbers -/
def size : Codec UInt64 :=
  boundedInt "usize" 0 18446744073709551615 (fun i => UInt64.ofNat i.toNat) (fun n => n.toNat)

def int64 : Codec Int64 :=
  boundedInt "i64" Int64.minValue.toInt Int64.maxValue.toInt Int64.ofInt Int64.toInt

/-- a number as a double: an integer gives the nearest one -/
def Number.toFloat : Number → Float
  | .unsigned n => floatOfUInt64 n
  | .negative i => floatOfInt64 i
  | .float x => x

def float : Codec Float where
  write := floatText
  read := readNumber "f64" fun n => .ok n.toFloat

/-! ## Booleans, strings, lists -/

def bool : Codec Bool where
  write b := if b then ['t', 'r', 'u', 'e'] else ['f', 'a', 'l', 's', 'e']
  read cs :=
    match skipSpace cs with
    | [] => .error (.here .endInValue [])
    | 't' :: cs => (scanIdent ['r', 'u', 'e'] cs).map fun cs => (true, cs)
    | 'f' :: cs => (scanIdent ['a', 'l', 's', 'e'] cs).map fun cs => (false, cs)
    | cs => .error (mismatch "a boolean" cs)

/-- reads a string and takes it as a value of a type, or tells why it is none -/
def readString (expected : String) (take : String → Except Cause α) : Reader α := fun cs =>
  match skipSpace cs with
  | [] => .error (.here .endInValue [])
  | '"' :: cs =>
    match scanString cs with
    | .error f => .error f
    | .ok (s, cs) =>
      match take s with
      | .ok a => .ok (a, cs)
      | .error cause => .error (.here cause cs)
  | cs => .error (mismatch expected cs)

def string : Codec String where
  write := quote
  read := readString "a string" .ok

/-- a value that may be absent, written as `null` -/
def optional (c : Codec α) : Codec (Option α) where
  write
    | none => ['n', 'u', 'l', 'l']
    | some a => c.write a
  read cs :=
    match skipSpace cs with
    | 'n' :: cs => (scanIdent ['u', 'l', 'l'] cs).map fun cs => (none, cs)
    | cs => (c.read cs).map fun (a, cs) => (some a, cs)

/-- what stands before the next element of a list: its closing bracket, or the element -/
def nextElement (first : Bool) (cs : Input) : Except Fault (Bool × Input) :=
  match skipSpace cs with
  | [] => .error (.here .endInList [])
  | ']' :: cs => .ok (false, ']' :: cs)
  | c :: cs =>
    if first then .ok (true, c :: cs)
    else if c = ',' then
      match skipSpace cs with
      | [] => .error (.here .endInValue [])
      | ']' :: cs => .error (.onNext .trailingComma (']' :: cs))
      | cs => .ok (true, cs)
    else .error (.onNext .expectedCommaOrBracket (c :: cs))

/-- reads the closing bracket of a list -/
def endList (cs : Input) : Except Fault Input :=
  match skipSpace cs with
  | [] => .error (.here .endInList [])
  | ']' :: cs => .ok cs
  | ',' :: cs =>
    match skipSpace cs with
    | ']' :: cs => .error (.onNext .trailingComma (']' :: cs))
    | cs => .error (.onNext .trailingCharacters cs)
  | cs => .error (.onNext .trailingCharacters cs)

/-- reads elements up to the closing bracket, `fuel` of them at most -/
def readElements (read : Reader α) : Nat → Bool → List α → Reader (List α)
  | 0, _, _, cs => .error (.here .endInList cs)
  | fuel + 1, first, done, cs =>
    match nextElement first cs with
    | .error f => .error f
    | .ok (false, cs) => .ok (done.reverse, cs)
    | .ok (true, cs) =>
      match read cs with
      | .error f => .error f
      | .ok (a, cs) => readElements read fuel false (a :: done) cs

/-- the written forms of elements, separated by commas -/
def separated : List (List Char) → List Char
  | [] => []
  | [a] => a
  | a :: b :: rest => a ++ ',' :: separated (b :: rest)

def list (c : Codec α) : Codec (List α) where
  write as := '[' :: (separated (as.map c.write) ++ [']'])
  read cs :=
    match skipSpace cs with
    | [] => .error (.here .endInValue [])
    | '[' :: cs =>
      match readElements c.read (cs.length + 1) true [] cs with
      | .error f => .error f
      | .ok (as, cs) => (endList cs).map fun cs => (as, cs)
    | cs => .error (mismatch "a sequence" cs)

/-! ## Names of a fixed set -/

/-- takes a name as one of the given values -/
def takeVariant (variants : List (String × α)) (name : String) : Except Cause α :=
  match variants.lookup name with
  | some a => .ok a
  | none => .error (.unknownVariant name (variants.map Prod.fst))

/-- reads the colon after a key -/
def readColon (cs : Input) : Except Fault Input :=
  match skipSpace cs with
  | [] => .error (.here .endInObject [])
  | ':' :: cs => .ok cs
  | cs => .error (.onNext .expectedColon cs)

/-- reads `null` -/
def readNull (cs : Input) : Except Fault Input :=
  match skipSpace cs with
  | [] => .error (.here .endInValue [])
  | 'n' :: cs => scanIdent ['u', 'l', 'l'] cs
  | cs => .error (mismatch "unit" cs)

/-- what stands before the name in the object form: nothing but the quote of the name -/
def nameStart (cs : Input) : Except Fault Input :=
  match skipSpace cs with
  | [] => .error (.here .endInObject [])
  | '"' :: cs => .ok ('"' :: cs)
  | '\x7d' :: cs => .error (.onNext .expectedValue ('\x7d' :: cs))
  | cs => .error (.onNext .keyNotString cs)

/-- values that are written by name; the object form with the name as its one key and `null` is read
as well -/
def variant (variants : List (String × α)) (name : α → String) : Codec α where
  write a := quote (name a)
  read cs := do
    let readName := readString "variant identifier" (takeVariant variants)
    match skipSpace cs with
    | [] => .error (.here .endInValue [])
    | '"' :: cs => readName ('"' :: cs)
    | '\x7b' :: cs =>
      let (a, cs) ← readName (← nameStart cs)
      let cs ← readNull (← readColon cs)
      match skipSpace cs with
      | [] => .error (.here .endInObject [])
      | '\x7d' :: cs => .ok (a, cs)
      | cs => .error (.here .expectedValue cs)
    | cs => .error (.onNext .expectedValue cs)

/-! ## Whole texts -/

namespace Codec

/-- the text of a value -/
def text (c : Codec α) (a : α) : String :=
  String.ofList (c.write a)

/-- reads a text that holds one value and nothing else -/
def readAll (c : Codec α) (cs : Input) : Except Fault α :=
  match c.read cs with
  | .error f => .error f
  | .ok (a, rest) =>
    match skipSpace rest with
    | [] => .ok a
    | rest => .error (.onNext .trailingCharacters rest)

/-- reads a text that holds one value and nothing else -/
def parse (c : Codec α) (s : String) : Except Fault α :=
  c.readAll s.toList

end Codec

end ChainFeed.Json
