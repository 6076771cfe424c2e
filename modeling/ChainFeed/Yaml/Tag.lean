/-
Names and tags of YAML values, and directives.

A tag stands between `!<` and `>`, or is a handle with the rest of the tag after it; a handle is a word
between two `!`, or one or two of these signs alone. A percent sign and two hexadecimal digits stand for
a byte.
-/
import ChainFeed.Number.Reading
import ChainFeed.Yaml.Cursor
import ChainFeed.Yaml.Token

namespace ChainFeed.Yaml

/-! ## Characters -/

/-- whether a character may stand in the word of a handle or of a directive -/
def isWordChar (c : Char) : Bool :=
  c.isAlphanum || c = '_' || c = '-'

/-- whether a character may stand in the name of a value -/
def isNameChar (c : Char) : Bool :=
  !(isGap c || c = '\n' || c = '\ufeff' || isBracket c)

/-- whether a character may stand in a tag, once it is not an escape -/
def isUriChar (c : Char) : Bool :=
  c.isAlphanum || "-#;/?:@&=+$,_.!~*'()[]%".toList.contains c

/-- whether a character may stand in a tag after its handle -/
def isTagChar (c : Char) : Bool :=
  isUriChar c && !isBracket c && c ≠ '!'

/-! ## Escapes -/

/-- how many bytes a character has, by the first of them -/
def byteCount? (byte : Nat) : Option Nat :=
  if byte < 0x80 then some 1
  else if byte < 0xc0 then none
  else if byte < 0xe0 then some 2
  else if byte < 0xf0 then some 3
  else if byte < 0xf8 then some 4
  else none

/-- the byte of an escape -/
def escapedByte? : List Char → Option (Nat × List Char)
  | '%' :: a :: b :: rest => do some ((← hexValue? a) * 16 + (← hexValue? b), rest)
  | _ => none

/-- the character that further bytes of escapes make up, each of them added in base 256 -/
def escapedTail? (code : Nat) : (count : Nat) → List Char → Option (Char × List Char)
  | 0, cs => if code.isValidChar then some (Char.ofNat code, cs) else none
  | count + 1, cs => do
    let (byte, rest) ← escapedByte? cs
    if 0x80 ≤ byte && byte < 0xc0 then escapedTail? (code * 256 + byte) count rest else none

/-- the character of one escape or more -/
def escapedChar? (cs : List Char) : Option (Char × List Char) := do
  let (byte, rest) ← escapedByte? cs
  escapedTail? byte ((← byteCount? byte) - 1) rest

/-- reads the characters with a property, and the escapes among them -/
def readUri? (p : Char → Bool) : (fuel : Nat) → List Char → Cursor → Option (List Char × Cursor)
  | 0, _, _ => none
  | fuel + 1, read, c =>
    match c.next with
    | some '%' => do
      let (d, rest) ← escapedChar? c.rest
      readUri? p fuel (d :: read) (c.advance (c.rest.length - rest.length))
    | some d => if p d then readUri? p fuel (d :: read) (c.advance 1) else some (read.reverse, c)
    | none => some (read.reverse, c)

def Cursor.uri? (c : Cursor) (p : Char → Bool) : Option (List Char × Cursor) :=
  readUri? p (c.rest.length + 1) [] c

/-! ## Names and tags -/

/-- the name after its sign -/
def readName? (c : Cursor) : Option (String × Cursor) :=
  let (name, c) := (c.advance 1).span isNameChar
  if name.isEmpty then none else some (String.ofList name, c)

/-- reads as far as a handle may reach -/
def readHandle (c : Cursor) : List Char × Cursor :=
  let (word, c) := (c.advance 1).span isWordChar
  if c.next = some '!' then ('!' :: word ++ ['!'], c.advance 1) else ('!' :: word, c)

/-- whether a text is a handle with a sign at either end -/
def isHandle (cs : List Char) : Bool :=
  2 ≤ cs.length && cs.head? = some '!' && cs.getLast? = some '!'

/-- reads a tag at its sign; a sign alone is the rest of a tag without a handle -/
def readTag? (inside : Bool) (c : Cursor) : Option (Token × Cursor) := do
  let (handle, rest, c) ←
    if (c.rest.drop 1).head? = some '<' then do
      let (uri, c) ← (c.advance 2).uri? isUriChar
      if c.next = some '>' then some ([], uri, c.advance 1) else none
    else do
      let (handle, c) := readHandle c
      let (rest, c) ← c.uri? isTagChar
      if isHandle handle then if rest.isEmpty then none else some (handle, rest, c)
      else
        let rest := handle.drop 1 ++ rest
        some (if rest.isEmpty then ([], ['!'], c) else (['!'], rest, c))
  if isBreak c.rest || (inside && isBracketed c.rest) then
    some (.tag (String.ofList handle) (String.ofList rest), c)
  else none

/-! ## Directives -/

/-- reads a part of a version, which has at most nine digits -/
def readVersionPart? (c : Cursor) : Option Cursor :=
  let (digits, c) := c.span isDigit
  if digits.isEmpty || 9 < digits.length then none else some c

/-- reads how the tags of a handle start -/
def readHandleRule? (c : Cursor) : Option (Token × Cursor) := do
  if c.next ≠ some '!' then none
  let (handle, c) := readHandle c
  if handle ≠ ['!'] && !isHandle handle then none
  let c := c.blanks (c.rest.takeWhile isGap).length
  let (start, c) ←
    if c.next = some '!' then do
      let (start, c) ← (c.advance 1).uri? isUriChar
      some ('!' :: start, c)
    else if c.next.any isTagChar then c.uri? isUriChar
    else none
  if isBreak c.rest then some (.handle (String.ofList handle) (String.ofList start), c) else none

/-- reads a directive at its percent sign, up to its line end; those of an unknown name declare nothing -/
def readDirective? (c : Cursor) : Option (Token × Cursor) := do
  let (word, c) := (c.advance 1).span isWordChar
  if word.isEmpty || !isBreak c.rest then none
  let value := c.blanks (c.rest.takeWhile isGap).length
  let (t, c) ←
    if word = "YAML".toList then do
      let c ← readVersionPart? value
      if c.next = some '.' then some (Token.version, ← readVersionPart? (c.advance 1)) else none
    else if word = "TAG".toList then readHandleRule? value
    else some (.handle "" "", (c.span (· ≠ '\n')).2)
  let (_, c) ← c.passLine?
  if c.atLineEnd then some (t, c) else none

end ChainFeed.Yaml
