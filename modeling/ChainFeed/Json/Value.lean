/-
JSON values of any shape, with objects kept in key order.

Values are read with at most 127 brackets around any part, and written either on one line or with two
blanks of indentation per level.
-/
import ChainFeed.Json.Record

namespace ChainFeed.Json

/-- a JSON value -/
inductive Value where
  | null
  | bool (b : Bool)
  | number (n : Number)
  | string (s : String)
  | array (items : List Value)
  | object (members : List (String × Value))

namespace Value

/-! ## Objects -/

/-- puts a member into a list of members in key order, in place of one with the same key -/
def insertMember (key : String) (value : Value) : List (String × Value) → List (String × Value)
  | [] => [(key, value)]
  | (k, v) :: rest =>
    if key < k then (key, value) :: (k, v) :: rest
    else if key = k then (key, value) :: rest
    else (k, v) :: insertMember key value rest

/-- the object with the given members; of two with one key the later one counts -/
def ofMembers (members : List (String × Value)) : Value :=
  .object (members.foldl (fun sorted (k, v) => insertMember k v sorted) [])

/-- the member of an object with the given key -/
def get? (value : Value) (key : String) : Option Value :=
  match value with
  | .object members => members.lookup key
  | _ => none

/-- what a value is, for the wording of faults -/
def found : Value → Found
  | .null => .null
  | .bool b => .boolean b
  | .number n => .number n
  | .string s => .string s
  | .array _ => .sequence
  | .object _ => .map

/-! ## Writing -/

mutual

/-- a value on one line -/
def write : Value → List Char
  | .null => ['n', 'u', 'l', 'l']
  | .bool b => Json.bool.write b
  | .number n => n.text
  | .string s => quote s
  | .array items => '[' :: (separated (writeItems items) ++ [']'])
  | .object members => '\x7b' :: (separated (writeMembers members) ++ ['\x7d'])

def writeItems : List Value → List (List Char)
  | [] => []
  | v :: rest => write v :: writeItems rest

def writeMembers : List (String × Value) → List (List Char)
  | [] => []
  | (k, v) :: rest => (quote k ++ ':' :: write v) :: writeMembers rest

end

/-- a line break and the indentation of a level -/
def lineBreak (level : Nat) : List Char :=
  '\n' :: List.replicate (2 * level) ' '

/-- parts between brackets, one to a line, or the bare brackets if there are none -/
def block (opening closing : Char) (level : Nat) (parts : List (List Char)) : List Char :=
  match parts with
  | [] => [opening, closing]
  | parts =>
    opening :: (lineBreak (level + 1) ++ separated (spread parts) ++ lineBreak level ++ [closing])
where
  spread : List (List Char) → List (List Char)
    | [] => []
    | part :: rest => part :: rest.map fun p => lineBreak (level + 1) ++ p

mutual

/-- a value over several lines, at a level of indentation -/
def writeIndented (level : Nat) : Value → List Char
  | .array items => block '[' ']' level (indentedItems (level + 1) items)
  | .object members => block '\x7b' '\x7d' level (indentedMembers (level + 1) members)
  | .null => ['n', 'u', 'l', 'l']
  | .bool b => Json.bool.write b
  | .number n => n.text
  | .string s => quote s

def indentedItems (level : Nat) : List Value → List (List Char)
  | [] => []
  | v :: rest => writeIndented level v :: indentedItems level rest

def indentedMembers (level : Nat) : List (String × Value) → List (List Char)
  | [] => []
  | (k, v) :: rest => (quote k ++ ':' :: ' ' :: writeIndented level v) :: indentedMembers level rest

end

/-- the text of a value on one line -/
def text (v : Value) : String :=
  String.ofList v.write

/-- the text of a value over several lines -/
def indentedText (v : Value) : String :=
  String.ofList (v.writeIndented 0)

/-! ## Reading -/

/-- reads the members of an object up to its closing brace, `fuel` of them at most -/
def readMembers (read : Reader Value) :
    Nat → Bool → List (String × Value) → Reader (List (String × Value))
  | 0, _, _, cs => .error (.here .endInObject cs)
  | fuel + 1, first, done, cs =>
    match nextMember first cs with
    | .error f => .error f
    | .ok (false, cs) => .ok (done, cs)
    | .ok (true, cs) =>
      match scanString cs with
      | .error f => .error f
      | .ok (key, cs) =>
        match readColon cs with
        | .error f => .error f
        | .ok cs =>
          match read cs with
          | .error f => .error f
          | .ok (v, cs) => readMembers read fuel false (insertMember key v done) cs

/-- reads a value with fewer than `levels` brackets around any part -/
def readWithin : Nat → Reader Value
  | 0, cs => .error (.onNext .tooDeep (skipSpace cs))
  | levels + 1, cs =>
    match skipSpace cs with
    | [] => .error (.here .endInValue [])
    | 'n' :: cs => (scanIdent ['u', 'l', 'l'] cs).map fun cs => (.null, cs)
    | 't' :: cs => (scanIdent ['r', 'u', 'e'] cs).map fun cs => (.bool true, cs)
    | 'f' :: cs => (scanIdent ['a', 'l', 's', 'e'] cs).map fun cs => (.bool false, cs)
    | '-' :: cs => (scanNumber true cs).map fun (n, cs) => (.number n, cs)
    | '"' :: cs => (scanString cs).map fun (s, cs) => (.string s, cs)
    | '[' :: rest =>
      if levels = 0 then .error (.onNext .tooDeep ('[' :: rest))
      else
        match readElements (readWithin levels) (rest.length + 1) true [] rest with
        | .error f => .error f
        | .ok (items, cs) => (endList cs).map fun cs => (.array items, cs)
    | '\x7b' :: rest =>
      if levels = 0 then .error (.onNext .tooDeep ('\x7b' :: rest))
      else
        match readMembers (readWithin levels) (rest.length + 1) true [] rest with
        | .error f => .error f
        | .ok (members, cs) => (endObject cs).map fun cs => (.object members, cs)
    | c :: cs =>
      if isDigit c then (scanNumber false (c :: cs)).map fun (n, cs) => (.number n, cs)
      else .error (.onNext .expectedValue (c :: cs))

/-- how many brackets may stand around a part of a text, plus one -/
def levels : Nat := 128

/-- values in a place that has some brackets around it already -/
def codecWithin (levels : Nat) : Codec Value where
  write := write
  read := readWithin levels

/-- values as whole texts -/
def codec : Codec Value := codecWithin levels

/-! ## Taking a value as another type -/

/-- takes a value as a 64-bit number -/
def toUInt64 : Value → Except Cause UInt64
  | .number n => takeInt "u64" 0 18446744073709551615 (fun i => UInt64.ofNat i.toNat) n
  | v => .error (.wrongType v.found "u64")

/-- takes a value as a string -/
def toText : Value → Except Cause String
  | .string s => .ok s
  | v => .error (.wrongType v.found "a string")

/-- takes a value as a list of strings -/
def toTexts : Value → Except Cause (List String)
  | .array items => items.mapM toText
  | v => .error (.wrongType v.found "a sequence")

end Value

end ChainFeed.Json
