/-
Records: JSON objects with named fields of fixed types.

A record is written as an object with its fields in order. It is read from an object with the fields in
any order and unknown keys skipped, or from a list of the values in field order. A field that is absent
takes its default, and is refused if it has none.
-/
import ChainFeed.Json.Codec

namespace ChainFeed.Json

/-- one field of a record -/
structure Field (α : Type) where
  key : String
  codec : Codec α
  /-- the value in an object that lacks the key; `none` if the field has to be there -/
  absent : Option α
  /-- the value in a list that ends before the field -/
  beyond : Option α
  /-- whether a value is left out of the object -/
  omitted : α → Bool

namespace Field

/-- a field that has to be there -/
def required (key : String) (codec : Codec α) : Field α :=
  ⟨key, codec, none, none, fun _ => false⟩

/-- a field with a default -/
def defaulting (key : String) (codec : Codec α) (default : α) : Field α :=
  ⟨key, codec, some default, some default, fun _ => false⟩

/-- a field that may be absent from an object, but not from a list -/
def optional (key : String) (codec : Codec α) : Field (Option α) :=
  ⟨key, Json.optional codec, some none, none, fun _ => false⟩

/-- a field with the default `none`, left out of the object when it is `none` -/
def omitting (key : String) (codec : Codec α) : Field (Option α) :=
  ⟨key, Json.optional codec, some none, some none, Option.isNone⟩

end Field

/-- the fields of a record, in order, with the types of their values -/
inductive Fields : List Type → Type 1 where
  | nil : Fields []
  | cons {α : Type} {types : List Type} (field : Field α) (rest : Fields types) :
      Fields (α :: types)

/-- one value for each field -/
def Row : List Type → Type
  | [] => Unit
  | α :: types => α × Row types

/-- the values of the fields that have been read -/
def Slots : List Type → Type
  | [] => Unit
  | α :: types => Option α × Slots types

namespace Fields

/-- no field read yet -/
def blank : {types : List Type} → Fields types → Slots types
  | _, nil => ()
  | _, cons _ rest => (none, rest.blank)

/-- what a key of an object means for the fields read so far -/
inductive Meaning (types : List Type) where
  | unknown
  | duplicate
  /-- a field to be read now -/
  | field (read : Reader (Slots types))

/-- the meaning of a key -/
def meaning : {types : List Type} → Fields types → Slots types → String → Meaning types
  | _, nil, _, _ => .unknown
  | _, cons field rest, (slot, slots), key =>
    if field.key = key then
      match slot with
      | some _ => .duplicate
      | none => .field fun cs => (field.codec.read cs).map fun (a, cs) => ((some a, slots), cs)
    else
      match rest.meaning slots key with
      | .unknown => .unknown
      | .duplicate => .duplicate
      | .field read => .field fun cs => (read cs).map fun (slots, cs) => ((slot, slots), cs)

/-- the row of a record whose object has ended -/
def complete : {types : List Type} → Fields types → Slots types → Except Cause (Row types)
  | _, nil, _ => .ok ()
  | _, cons field rest, (slot, slots) =>
    match slot.or field.absent with
    | none => .error (.missingField field.key)
    | some a => (rest.complete slots).map fun row => (a, row)

/-- the number of fields -/
def count : {types : List Type} → Fields types → Nat
  | _, nil => 0
  | _, cons _ rest => rest.count + 1

/-- the members of the written object, without those left out -/
def members : {types : List Type} → Fields types → Row types → List (List Char)
  | _, nil, _ => []
  | _, cons field rest, (a, row) =>
    if field.omitted a then rest.members row
    else (quote field.key ++ ':' :: field.codec.write a) :: rest.members row

end Fields

/-- what stands before the next member of an object: its closing brace, or the key after its quote -/
def nextMember (first : Bool) (cs : Input) : Except Fault (Bool × Input) :=
  match skipSpace cs with
  | [] => .error (.here .endInObject [])
  | '\x7d' :: cs => .ok (false, '\x7d' :: cs)
  | c :: cs =>
    if first then
      if c = '"' then .ok (true, cs) else .error (.onNext .keyNotString (c :: cs))
    else if c = ',' then
      match skipSpace cs with
      | [] => .error (.here .endInValue [])
      | '"' :: cs => .ok (true, cs)
      | '\x7d' :: cs => .error (.onNext .trailingComma ('\x7d' :: cs))
      | cs => .error (.onNext .keyNotString cs)
    else .error (.onNext .expectedCommaOrBrace (c :: cs))

/-- reads the closing brace of an object -/
def endObject (cs : Input) : Except Fault Input :=
  match skipSpace cs with
  | [] => .error (.here .endInObject [])
  | '\x7d' :: cs => .ok cs
  | ',' :: cs => .error (.onNext .trailingComma (',' :: cs))
  | cs => .error (.onNext .trailingCharacters cs)

/-- a fault of a whole object, which is placed after its closing brace if that comes next -/
def objectFault (cause : Cause) (cs : Input) : Fault :=
  match skipSpace cs with
  | '\x7d' :: cs => .here cause cs
  | cs => .here cause cs

/-- a fault of a whole list, which is placed after its closing bracket if that comes next -/
def listFault (cause : Cause) (cs : Input) : Fault :=
  match skipSpace cs with
  | ']' :: cs => .here cause cs
  | cs => .here cause cs

namespace Fields

/-- reads members up to the closing brace, `fuel` of them at most -/
def readMembers (fields : Fields types) : Nat → Bool → Slots types → Reader (Slots types)
  | 0, _, _, cs => .error (.here .endInObject cs)
  | fuel + 1, first, slots, cs =>
    match nextMember first cs with
    | .error f => .error f
    | .ok (false, cs) => .ok (slots, cs)
    | .ok (true, cs) =>
      match scanString cs with
      | .error f => .error f
      | .ok (key, cs) =>
        match fields.meaning slots key with
        | .duplicate => .error (objectFault (.duplicateField key) cs)
        | .unknown =>
          match readColon cs with
          | .error f => .error f
          | .ok cs =>
            match skipValue cs with
            | .error f => .error f
            | .ok cs => readMembers fields fuel false slots cs
        | .field read =>
          match readColon cs with
          | .error f => .error f
          | .ok cs =>
            match read cs with
            | .error f => .error f
            | .ok (slots, cs) => readMembers fields fuel false slots cs

/-- reads the values of a list in field order; `index` fields have been read -/
def readValues (expected : String) : {types : List Type} → Fields types → Nat → Reader (Row types)
  | _, nil, _, cs => .ok ((), cs)
  | _, cons field rest, index, cs =>
    match nextElement (index == 0) cs with
    | .error f => .error f
    | .ok (false, cs) =>
      match field.beyond with
      | none => .error (listFault (.wrongLength index expected) cs)
      | some a => (rest.readValues expected (index + 1) cs).map fun (row, cs) => ((a, row), cs)
    | .ok (true, cs) =>
      match field.codec.read cs with
      | .error f => .error f
      | .ok (a, cs) =>
        (rest.readValues expected (index + 1) cs).map fun (row, cs) => ((a, row), cs)

/-- the fault text of a list that is too short -/
def expectedLength (title : String) (fields : Fields types) : String :=
  "struct " ++ title ++ " with " ++ toString fields.count ++
    (if fields.count = 1 then " element" else " elements")

/-- reads a record -/
def readRow (title : String) (fields : Fields types) : Reader (Row types) := fun cs =>
  match skipSpace cs with
  | [] => .error (.here .endInValue [])
  | '[' :: cs =>
    match fields.readValues (fields.expectedLength title) 0 cs with
    | .error f => .error f
    | .ok (row, cs) => (endList cs).map fun cs => (row, cs)
  | '\x7b' :: cs =>
    match fields.readMembers (cs.length + 1) true fields.blank cs with
    | .error f => .error f
    | .ok (slots, cs) =>
      match fields.complete slots with
      | .error cause => .error (objectFault cause cs)
      | .ok row => (endObject cs).map fun cs => (row, cs)
  | cs => .error (mismatch ("struct " ++ title) cs)

/-- writes a record -/
def writeRow (fields : Fields types) (row : Row types) : List Char :=
  '\x7b' :: (separated (fields.members row) ++ ['\x7d'])

end Fields

/-- the codec of a record type, given by its title, its fields and its correspondence with rows -/
def record (title : String) (fields : Fields types) (make : Row types → α) (row : α → Row types) :
    Codec α where
  write a := fields.writeRow (row a)
  read cs := (fields.readRow title cs).map fun (r, cs) => (make r, cs)

/-- the text of an object whose members are given as texts, in this order -/
def objectText (members : List (String × List Char)) : String :=
  String.ofList <|
    '\x7b' :: (separated (members.map fun (key, value) => quote key ++ ':' :: value) ++ ['\x7d'])

end ChainFeed.Json
