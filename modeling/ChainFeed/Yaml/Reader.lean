/-
Reading a YAML text of one document.

The tokens of the text nest as values do, and each reader takes the tokens of one value and gives what
follows them. What is missing where a value may stand is nothing. A value may have a name, by which it can
be used again after its end, and a tag, which says what the text of a scalar stands for.

Each reader takes a bound on its steps: between two tokens there are at most five of them.
-/
import ChainFeed.Yaml.Basic
import ChainFeed.Yaml.Tokens

namespace ChainFeed.Yaml

/-! ## Names and tags -/

/-- the tokens that are left, and the names and handles that are known -/
structure Reading where
  tokens : List Token
  /-- how the tags of the declared handles start -/
  handles : List (String × String) := []
  /-- how many names have been given -/
  count : Nat := 0
  /-- the number of the value that a name stands for, last one first -/
  names : List (String × Nat) := []
  /-- the values that are read, by number -/
  values : List (Nat × Yaml) := []

namespace Reading

def skip (r : Reading) : Reading :=
  { r with tokens := r.tokens.drop 1 }

/-- whether one of the given tokens comes next -/
def startsWith (r : Reading) (ts : List Token) : Bool :=
  r.tokens.head?.any ts.contains

/-- gives a name to the value that comes next, and tells its number -/
def name (r : Reading) (s : String) : Nat × Reading :=
  (r.count, { r with count := r.count + 1, names := (s, r.count) :: r.names })

/-- keeps a value under its number -/
def keep (r : Reading) (number : Option Nat) (y : Yaml) : Reading :=
  match number with
  | some n => { r with values := (n, y) :: r.values }
  | none => r

/-- the value of a name; one that is not read to its end is invalid -/
def value? (r : Reading) (s : String) : Option Yaml :=
  (r.names.lookup s).map fun n => (r.values.lookup n).getD (.scalar .invalid)

/-- the start of the kind that a handle stands for -/
def start? (r : Reading) (handle : String) : Option String :=
  match r.handles.lookup handle with
  | some start => some start
  | none =>
    if handle = "!!" then some Scalar.commonKinds
    else if isHandle handle.toList then none
    else some handle

/-- what stands before a value -/
structure Properties where
  number : Option Nat := none
  tag : Option (String × String) := none

/-- reads a name and a tag in either order, if they are there -/
def properties? (r : Reading) : Option (Properties × Reading) :=
  let tag? (handle rest : String) (number : Option Nat) (r : Reading) :=
    (r.start? handle).map fun start => (Properties.mk number (start, rest), r.skip)
  match r.tokens with
  | .anchor s :: .tag handle rest :: _ =>
    let (n, r) := r.skip.name s
    tag? handle rest n r
  | .anchor s :: _ =>
    let (n, r) := r.skip.name s
    some ({ number := n }, r)
  | .tag handle rest :: .anchor s :: _ => do
    let (p, r) ← tag? handle rest none r
    let (n, r) := r.skip.name s
    some ({ p with number := n }, r)
  | .tag handle rest :: _ => tag? handle rest none r
  | _ => some ({}, r)

end Reading

/-! ## Values -/

/-- where a value stands -/
inductive Place where
  /-- in brackets -/
  | inside
  /-- in a block -/
  | block
  /-- at a key of a block, where the dashes of items may stand in the column of the key -/
  | atKey
deriving DecidableEq

mutual

/-- reads a value -/
def readValue (place : Place) : (fuel : Nat) → Reading → Option (Yaml × Reading)
  | 0, _ => none
  | fuel + 1, r =>
    match r.tokens with
    | .reference s :: _ => (r.value? s).map fun y => (y, r.skip)
    | _ => do
      let (p, r) ← r.properties?
      let (y, r) ← readContent place p fuel r
      some (y, r.keep p.number y)

/-- reads a value after its name and tag; with one of them it may be missing -/
def readContent (place : Place) (p : Reading.Properties) :
    (fuel : Nat) → Reading → Option (Yaml × Reading)
  | 0, _ => none
  | fuel + 1, r =>
    let missing :=
      if p.number.isSome || p.tag.isSome then some (.scalar (.ofTagged p.tag []), r) else none
    match r.tokens with
    | .scalar true text :: _ => some (.scalar (.ofTagged p.tag text), r.skip)
    | .scalar false text :: _ => some (.scalar (.text (String.ofList text)), r.skip)
    | .listStart :: _ => readItems true fuel [] r.skip
    | .mapStart :: _ => readPairs true fuel [] r.skip
    | .blockList :: _ => if place = .inside then missing else readEntries fuel [] r.skip
    | .blockMap :: _ => if place = .inside then missing else readKeys fuel [] r.skip
    | .entry :: _ => if place = .atKey then readDashes fuel [] r else missing
    | _ => missing

/-- reads a value, or nothing where one of the given tokens comes next -/
def readOptional (place : Place) (ends : List Token) : (fuel : Nat) → Reading → Option (Yaml × Reading)
  | 0, _ => none
  | fuel + 1, r => if r.startsWith ends then some (empty, r) else readValue place fuel r

/-- reads the value after the given token, or nothing where another token comes next -/
def readAfter (mark : Token) (place : Place) (ends : List Token) :
    (fuel : Nat) → Reading → Option (Yaml × Reading)
  | 0, _ => none
  | fuel + 1, r =>
    if r.startsWith [mark] then readOptional place ends fuel r.skip else some (empty, r)

/-- reads the items of a block up to its end -/
def readEntries : (fuel : Nat) → List Yaml → Reading → Option (Yaml × Reading)
  | 0, _, _ => none
  | fuel + 1, items, r =>
    match r.tokens with
    | .blockEnd :: _ => some (.list items.reverse, r.skip)
    | .entry :: _ => do
      let (y, r) ← readOptional .block [.entry, .blockEnd] fuel r.skip
      readEntries fuel (y :: items) r
    | _ => none

/-- reads the items in the column of a key -/
def readDashes : (fuel : Nat) → List Yaml → Reading → Option (Yaml × Reading)
  | 0, _, _ => none
  | fuel + 1, items, r =>
    match r.tokens with
    | .entry :: _ => do
      let (y, r) ← readOptional .block [.entry, .key, .value, .blockEnd] fuel r.skip
      readDashes fuel (y :: items) r
    | _ => some (.list items.reverse, r)

/-- reads the keys and values of a block up to its end -/
def readKeys : (fuel : Nat) → List Yaml → Reading → Option (Yaml × Reading)
  | 0, _, _ => none
  | fuel + 1, turns, r =>
    match r.tokens with
    | .blockEnd :: _ => (ofTurns? turns.reverse).map fun y => (y, r.skip)
    | _ => do
      if !r.startsWith [.key, .value] then none
      let (k, r) ← readAfter .key .atKey [.key, .value, .blockEnd] fuel r
      let (v, r) ← readAfter .value .atKey [.key, .value, .blockEnd] fuel r
      readKeys fuel (v :: k :: turns) r

/-- reads the keys and values in braces; a value may stand there without a colon -/
def readPairs (first : Bool) : (fuel : Nat) → List Yaml → Reading → Option (Yaml × Reading)
  | 0, _, _ => none
  | fuel + 1, turns, r =>
    if r.startsWith [.mapEnd] then (ofTurns? turns.reverse).map fun y => (y, r.skip)
    else do
      if !first && !r.startsWith [.comma] then none
      let r := if first then r else r.skip
      if r.startsWith [.mapEnd] then (ofTurns? turns.reverse).map fun y => (y, r.skip)
      else if r.startsWith [.key, .value] then
        let (k, r) ← readAfter .key .inside [.value, .comma, .mapEnd] fuel r
        let (v, r) ← readAfter .value .inside [.comma, .mapEnd] fuel r
        readPairs false fuel (v :: k :: turns) r
      else
        let (k, r) ← readValue .inside fuel r
        readPairs false fuel (empty :: k :: turns) r

/-- reads the items in brackets; a key makes a mapping of one entry -/
def readItems (first : Bool) : (fuel : Nat) → List Yaml → Reading → Option (Yaml × Reading)
  | 0, _, _ => none
  | fuel + 1, items, r =>
    if r.startsWith [.listEnd] then some (.list items.reverse, r.skip)
    else do
      if !first && !r.startsWith [.comma] then none
      let r := if first then r else r.skip
      if r.startsWith [.listEnd] then some (.list items.reverse, r.skip)
      else if r.startsWith [.key] then
        let r := r.skip
        let (k, r) ←
          if r.startsWith [.value, .comma, .listEnd] then some (empty, r.skip)
          else readValue .inside fuel r
        let (v, r) ← readAfter .value .inside [.comma, .listEnd] fuel r
        readItems false fuel ((← ofTurns? [k, v]) :: items) r
      else
        let (y, r) ← readValue .inside fuel r
        readItems false fuel (y :: items) r

end

/-! ## Documents -/

/-- reads the directives before a document; the last one alone counts for the tags -/
def readDirectives? (version : Bool) (handles : List (String × String)) :
    List Token → Option Reading
  | .version :: rest => if version then none else readDirectives? true [] rest
  | .handle handle start :: rest => readDirectives? version [(handle, start)] rest
  | tokens => some { tokens, handles }

/-- reads the document at the start of the tokens; one without content before its end is nothing -/
def readDocument? (tokens : List Token) : Option (Yaml × Reading) := do
  let fuel := 5 * tokens.length + 5
  let r ← readDirectives? false [] tokens
  if r.startsWith [.documentStart] then
    let r := r.skip
    if r.tokens.isEmpty || r.startsWith [.documentStart, .documentEnd] then some (empty, r)
    else readValue .block fuel r
  else if r.tokens.length = tokens.length then readValue .block fuel r
  else none

/-- a text with one character for each line end -/
def unifyLineEnds : List Char → List Char
  | '\r' :: '\n' :: rest => '\n' :: unifyLineEnds rest
  | '\r' :: rest => '\n' :: unifyLineEnds rest
  | c :: rest => c :: unifyLineEnds rest
  | [] => []

/-- a text without the mark of byte order at its start -/
def dropByteOrder : List Char → List Char
  | '\ufeff' :: rest => rest
  | cs => cs

/-- reads a text, which ends at the first zero character; one without a document is an empty mapping -/
def parse? (s : String) : Option Yaml := do
  let tokens ← tokens? (unifyLineEnds ((dropByteOrder s.toList).takeWhile (· ≠ '\x00')))
  match tokens.dropWhile (· = .documentEnd) with
  | [] => some (.map [])
  | tokens =>
    let (y, r) ← readDocument? tokens
    if r.tokens.all (· = .documentEnd) then some y else none

end ChainFeed.Yaml
