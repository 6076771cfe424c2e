/-
YAML scalars, and what the text of a scalar stands for: by its tag, or else by its look.
-/
import ChainFeed.Number.Reading

namespace ChainFeed.Yaml

/-- a single value -/
inductive Scalar where
  | null
  | bool (b : Bool)
  | int (i : Int64)
  /-- a number that is no whole number of 64 bits, as it is written -/
  | real (text : String)
  | text (s : String)
  /-- a text that its tag does not allow, or a name for a value that is not read to its end -/
  | invalid
deriving DecidableEq

/-- the words for the numbers that are not finite -/
def wordsForReals : List String :=
  [".inf", ".Inf", ".INF", "+.inf", "+.Inf", "+.INF", "-.inf", "-.Inf", "-.INF",
   ".nan", "NaN", ".NaN", ".NAN"]

/-- whether a text is a number that need not be whole; a text without a digit is one of the words -/
def isReal (cs : List Char) : Bool :=
  wordsForReals.contains (String.ofList cs) || (cs.any isDigit && (readFloat? cs).isSome)

/-- a whole number: in base 16 after `0x`, in base 8 after `0o`, otherwise in base 10, where a plus
may stand before it -/
def wholeNumber? : List Char → Option Int64
  | '0' :: 'x' :: cs => readInt64? 16 cs
  | '0' :: 'o' :: cs => readInt64? 8 cs
  | '+' :: cs => readInt64? 10 cs
  | cs => readInt64? 10 cs

namespace Scalar

/-- what a text without quotes and tag stands for -/
def ofPlain (cs : List Char) : Scalar :=
  match wholeNumber? cs with
  | some i => .int i
  | none =>
    let s := String.ofList cs
    if s = "" || s = "~" || s = "null" then .null
    else if s = "true" then .bool true
    else if s = "false" then .bool false
    else if isReal cs then .real s
    else .text s

/-- how the tags of the common kinds start -/
def commonKinds : String := "tag:yaml.org,2002:"

/-- what a text stands for as one of the common kinds; other kinds are texts -/
def ofKind (kind : String) (cs : List Char) : Scalar :=
  let s := String.ofList cs
  if kind = "bool" then
    if s = "true" then .bool true else if s = "false" then .bool false else .invalid
  else if kind = "int" then
    match readInt64? 10 cs with
    | some i => .int i
    | none => .invalid
  else if kind = "float" then if isReal cs then .real s else .invalid
  else if kind = "null" then if s = "~" || s = "null" then .null else .invalid
  else .text s

/-- what a text without quotes stands for, with its tag, if it has one: the start of its kind and the
rest of it -/
def ofTagged (tag : Option (String × String)) (cs : List Char) : Scalar :=
  match tag with
  | none => ofPlain cs
  | some (start, kind) =>
    if start = commonKinds then ofKind kind cs else .text (String.ofList cs)

/-- the text of a scalar as a key; nothing has no text -/
def key? : Scalar → Option String
  | null => none
  | bool b => some (if b then "true" else "false")
  | int i => some (toString i.toInt)
  | real s => some s
  | text s => some s
  | invalid => none

end Scalar

end ChainFeed.Yaml
