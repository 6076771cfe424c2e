/-
Values of settings before their types are known, and what they are taken for.

A source gives a truth value, a number or a text, and each is taken for another where that makes sense:
`true`, `on` and `yes` for 1, a float for the whole number nearest to it, a number for its text. A group
of settings is a table of its members, or a list of them in their order.
-/
import ChainFeed.Node.SocketAddress
import ChainFeed.Number.Checked
import ChainFeed.Yaml.Reader

namespace ChainFeed

/-- the value of a setting as a source gives it -/
inductive Setting where
  | nothing
  | bool (b : Bool)
  | int (i : Int64)
  | float (x : Float)
  | text (s : String)
  | list (items : List Setting)
  | table (entries : List (String × Setting))

namespace Setting

/-! ## Single values -/

/-- what a word stands for, in letters of either case -/
def ofWord? (s : String) : Option Bool :=
  let word := s.map Char.toLower
  if word = "true" || word = "on" || word = "yes" then some true
  else if word = "false" || word = "off" || word = "no" then some false
  else none

def toBool? : Setting → Option Bool
  | bool b => some b
  | int i => some (i ≠ 0)
  | float x => some (x != 0.0)
  | text s => (ofWord? s).or (if s = "1" then some true else if s = "0" then some false else none)
  | _ => none

/-- a whole number; one below zero is refused, but a float is taken for the nearest of the 64-bit
numbers -/
def toUInt64? : Setting → Option UInt64
  | bool b => some (if b then 1 else 0)
  | int i => if i < 0 then none else some i.toUInt64
  | float x => some (roundToUInt64 x)
  | text s =>
    match ofWord? s with
    | some b => some (if b then 1 else 0)
    | none => readUInt64? s.toList
  | _ => none

/-- the text of a double without an exponent, and without a point where it is whole -/
def floatText (x : Float) : String :=
  match Binary64.ofFloat x with
  | .nan => "NaN"
  | .infinite negative => if negative then "-inf" else "inf"
  | .finite .. =>
    let cs := (FloatLayout.text? ⟨.fewest, 400, 400, false⟩ x).getD []
    match cs.reverse with
    | '0' :: '.' :: whole => String.ofList whole.reverse
    | _ => String.ofList cs

def toText? : Setting → Option String
  | bool b => some (if b then "true" else "false")
  | int i => some (String.ofList (intText i.toInt))
  | float x => some (floatText x)
  | text s => some s
  | _ => none

/-- a text that may be missing -/
def toOptionalText? : Setting → Option (Option String)
  | nothing => some none
  | s => s.toText?.map some

def toAddress? (s : Setting) : Option SocketAddress :=
  s.toText?.bind SocketAddress.parse?

/-! ## Groups -/

/-- a member of a group of settings: its name, and how a value for it is put into the group -/
structure Member (α : Type) where
  name : String
  put? : Setting → α → Option α

/-- the member with the given name, reading and place in the group -/
def Member.of {α β : Type} (name : String) (read : Setting → Option β) (set : β → α → α) :
    Member α :=
  ⟨name, fun s group => (read s).map fun v => set v group⟩

/-- reads a group, in which the members that are not given stay as they are in `base` -/
def toGroup? {α : Type} (members : List (Member α)) (base : α) : Setting → Option α
  | table entries =>
    members.foldlM
      (fun group m => match entries.lookup m.name with
        | some s => m.put? s group
        | none => some group)
      base
  | list items => (members.zip items).foldlM (fun group (m, s) => m.put? s group) base
  | _ => none

/-! ## From a file -/

/-- what a scalar of a file gives; a number that does not read as one is refused -/
def ofScalar? : Yaml.Scalar → Option Setting
  | .null => some nothing
  | .invalid => some nothing
  | .bool b => some (bool b)
  | .int i => some (int i)
  | .real s => (readFloat? s.toList).map float
  | .text s => some (text s)

/-- the entries with a value for a name, in the place of the value that the name had -/
def assign (name : String) (value : Setting) : List (String × Setting) → List (String × Setting)
  | [] => [(name, value)]
  | (n, v) :: rest => if n = name then (n, value) :: rest else (n, v) :: assign name value rest

mutual

/-- what a value of a file gives -/
def ofYaml? : Yaml → Option Setting
  | .scalar s => ofScalar? s
  | .list items => (ofItems? items).map list
  | .map entries => (ofEntries? [] entries).map table

def ofItems? : List Yaml → Option (List Setting)
  | [] => some []
  | y :: rest => do
    let v ← ofYaml? y
    let vs ← ofItems? rest
    some (v :: vs)

/-- adds entries to those read before; a key is a scalar, and of two keys with one text the later one
counts -/
def ofEntries? (read : List (String × Setting)) :
    List (Yaml × Yaml) → Option (List (String × Setting))
  | [] => some read
  | (.scalar k, y) :: rest => do
    let v ← ofYaml? y
    let name ← k.key?
    ofEntries? (assign name v read) rest
  | _ => none

end

/-! ## From the environment -/

/-- what the text of a variable gives: a truth value, a number, or else the text itself -/
def ofVariable (s : String) : Setting :=
  let word := s.map Char.toLower
  if word = "true" then bool true
  else if word = "false" then bool false
  else
    match readInt64? 10 s.toList with
    | some i => int i
    | none =>
      match readFloat? s.toList with
      | some x => float x
      | none => text s

/-! ## Laying values over each other -/

/-- the members of a table; other values have none -/
def entries : Setting → List (String × Setting)
  | table entries => entries
  | _ => []

/-- the items of a list; other values have none -/
def items : Setting → List Setting
  | list items => items
  | _ => []

mutual

/-- a value laid over another: a table over the members of another table, and anything else in place
of what was there -/
def laidOn : Setting → Setting → Setting
  | table upper, lower => table (entriesLaidOn upper lower.entries)
  | upper, _ => upper

def entriesLaidOn : List (String × Setting) → List (String × Setting) → List (String × Setting)
  | [], lower => lower
  | (name, v) :: rest, lower =>
    entriesLaidOn rest (assign name (v.laidOn ((lower.lookup name).getD nothing)) lower)

end

/-! ## Paths -/

/-- a step on the path to a setting -/
inductive Step where
  | member (name : String)
  /-- an item of a list, by its index, which counts from the end if it is below zero -/
  | item (index : Int)
deriving DecidableEq, Repr

/-- changes the item with an index; the items that are missing up to it are nothing -/
def changeItem (change : Setting → Setting) (items : List Setting) : Int → List Setting
  | .ofNat n =>
    (items ++ List.replicate (n + 1 - items.length) nothing).modify n change
  | .negSucc n =>
    let items := List.replicate (n + 1 - items.length) nothing ++ items
    items.modify (items.length - (n + 1)) change

/-- a value with another one laid over what is at the end of a path; what is on the path and is neither a
table nor a list, as the step asks for, gives way to one -/
def put (value : Setting) : List Step → Setting → Setting
  | [], lower => value.laidOn lower
  | .member name :: path, lower =>
    table (assign name (put value path ((lower.entries.lookup name).getD nothing)) lower.entries)
  | .item index :: path, lower => list (changeItem (put value path) lower.items index)

end Setting

end ChainFeed
