/-
Reading the tokens of a YAML text.

Each step reads the token at a place by the sign that stands there, with what it means for the levels
and keys around it.
-/
import ChainFeed.Yaml.Layout
import ChainFeed.Yaml.Literal
import ChainFeed.Yaml.Tag
import ChainFeed.Yaml.Text

namespace ChainFeed.Yaml

namespace Layout

/-! ## Brackets -/

/-- how many brackets may be open at once -/
def maxBrackets : Nat := 255

def openBracket? (s : Layout) (t : Token) : Option Layout := do
  if maxBrackets ≤ s.outer.length then none
  let s := s.markKey.indent
  let (_, cursor) ← (s.cursor.advance 1).passLine?
  some <| push { s with
    cursor
    key := none
    outer := s.key :: s.outer
    keyAllowed := true
    mapping := s.mapping || t = .mapStart } t

def closeBracket? (s : Layout) (t : Token) : Option Layout := do
  let s ← s.dropKey?
  let s := match s.outer with
    | key :: outer => { s with key, outer }
    | [] => s
  let (_, cursor) ← (s.cursor.advance 1).passLine?
  let adjacent := if s.inside then some (cursor.line, cursor.column) else s.adjacent
  some <| push { s.endEntry with cursor, adjacent, keyAllowed := false } t

def comma? (s : Layout) : Option Layout := do
  let s ← s.dropKey?
  let (_, cursor) ← (s.cursor.advance 1).passLine?
  some <| push { s.endEntry with cursor, keyAllowed := true } .comma

/-! ## Entries, keys and values -/

/-- reads the dash before an item of a block -/
def dash? (s : Layout) : Option Layout := do
  if s.inside || !s.keyAllowed then none
  if s.property && s.cursor.column = 0 && !s.levels.isEmpty then none
  let (blanks, cursor) ← (s.cursor.advance 1).passLine?
  if blanks.contains '\t' && isMark '-' cursor.rest then none
  let s := s.openBlock s.cursor.column s.tokens.length .blockList
  let s := if cursor.next = some '\n' || isBracketed cursor.rest then s.indent else s
  let s ← s.dropKey?
  some <| push { s with cursor, keyAllowed := true } .entry

/-- reads the question mark before a key -/
def question? (s : Layout) : Option Layout := do
  if !s.inside && !s.keyAllowed then none
  let s ← (s.openBlock s.cursor.column s.tokens.length .blockMap).dropKey?
  let start := s.cursor.advance 1
  let (_, cursor) ← start.pass? { tabs := false }
  if start.rest.isEmpty || cursor.next = some '\t' then none
  some <| push { s with cursor, keyAllowed := !s.inside, mapping := s.mapping || s.inside } .key

/-- reads the colon after a key, or after nothing; if a key may have started, its tokens are put in -/
def colon? (s : Layout) : Option Layout := do
  let start := s.cursor.advance 1
  let (blanks, cursor) ← if start.next = some '\t' then start.passLine? else some ([], start)
  if start.next = some '\t' && !blanks.contains ' ' && cursor.next.any isWordChar then none
  let entry := s.inside && !s.mapping
  let place := s.cursor
  let s := { s with cursor, entry }
  match s.key with
  | some k =>
    if entry && k.line < place.line then none
    let s := s.insert k.position .key
    let s := if entry then s.insert k.position .mapStart else s
    let s := (s.openBlock k.column k.position .blockMap).indent
    some <| push { s with key := none, keyAllowed := false } .value
  | none =>
    if !s.inside && !s.keyAllowed then none
    let s := if entry then s.push .mapStart else s
    let s := (s.openBlock place.column s.tokens.length .blockMap).indent
    some <| push { s with keyAllowed := !s.inside } .value

/-! ## Scalars and their properties -/

/-- reads a name or a tag -/
def property? (s : Layout) (read : Cursor → Option (Token × Cursor)) : Option Layout := do
  let (t, cursor) ← read s.cursor
  some { push { s.markKey with cursor, keyAllowed := false } t with property := s.cursor.column = 0 }

def literal? (s : Layout) (folded : Bool) : Option Layout := do
  let s := s.markKey.outdent
  let (text, cursor) ← readLiteral? folded s.margin s.cursor
  some <| push { s with cursor, keyAllowed := true } (.scalar false text)

/-- reads a scalar in quotes; after it may come the line end, a colon, or the sign after an item in
brackets -/
def quoted? (s : Layout) (mark : Char) : Option Layout := do
  let (text, c) ← readQuoted? mark s.margin s.cursor
  let (_, c) ← c.passLine?
  let closes :=
    c.atLineEnd || (s.inside && (c.next = some ',' || c.next = some ']' || c.next = some '\x7d')) ||
      (c.next = some ':' && (s.inside || c.line = s.cursor.line))
  if !closes then none
  let s := { s.markKey with cursor := c, keyAllowed := false }
  let s ← s.toContent?
  some <| push { s with adjacent := some (s.cursor.line, s.cursor.column) } (.scalar false text)

def plain? (s : Layout) : Option Layout := do
  let s := s.markKey.outdent
  if s.inside && s.cursor.column < s.margin then none
  let (text, cursor) ← readPlain s.inside s.margin (s.cursor.rest.length + 1) {} s.cursor
  some <| push { s with cursor, keyAllowed := cursor.fresh } (.scalar true text)

/-! ## Lines between documents -/

/-- reads a line that starts or ends a document -/
def marker? (s : Layout) (t : Token) : Option Layout := do
  let s ← (s.close 0).dropKey?
  let after := s.cursor.advance 3
  let (_, cursor) ← if t = .documentEnd then after.passLine? else some ([], after)
  if t = .documentEnd && !cursor.atLineEnd then none
  some <| push { s with cursor, keyAllowed := false } t

def directive? (s : Layout) : Option Layout := do
  let s ← (s.close 0).dropKey?
  let (t, cursor) ← readDirective? s.cursor
  some <| push { s with cursor := cursor.newLine, keyAllowed := false } t

/-! ## All tokens -/

/-- whether the colon that stands here is one between a key and its value -/
def atColon (s : Layout) : Bool :=
  isColon s.inside s.cursor.rest ||
    (s.inside && s.cursor.next = some ':' && s.adjacent = some (s.cursor.line, s.cursor.column))

/-- reads the token that starts with a character -/
def read? (s : Layout) (c : Char) : Option Layout :=
  if c = '[' then s.openBracket? .listStart
  else if c = '\x7b' then s.openBracket? .mapStart
  else if c = ']' then s.closeBracket? .listEnd
  else if c = '\x7d' then s.closeBracket? .mapEnd
  else if c = ',' then s.comma?
  else if isMark '-' s.cursor.rest then s.dash?
  else if isMark '?' s.cursor.rest then s.question?
  else if s.atColon then s.colon?
  else if c = '*' then s.property? fun c => (readName? c).map fun (name, c) => (.reference name, c)
  else if c = '&' then s.property? fun c => (readName? c).map fun (name, c) => (.anchor name, c)
  else if c = '!' then s.property? (readTag? s.inside)
  else if (c = '|' || c = '>') && !s.inside then s.literal? (c = '>')
  else if c = '\'' || c = '"' then s.quoted? c
  else if c = '%' || c = '@' || c = '\x60' then none
  else s.plain?

/-- reads the next token of a text, at its first character -/
def next? (s : Layout) (c : Char) : Option Layout :=
  if s.cursor.column = 0 && c = '%' then s.directive?
  else if s.cursor.atMarker then s.marker? (if c = '-' then .documentStart else .documentEnd)
  else if s.cursor.column + 1 < s.margin then none
  else s.read? c

/-- reads the tokens of the rest of a text -/
def tokens? : (fuel : Nat) → Layout → Option (List Token)
  | 0, _ => none
  | fuel + 1, s => do
    let s ← s.toContent?
    let s ← s.expireKey?
    match s.cursor.next with
    | some c => tokens? fuel (← (s.close (s.cursor.column + 1)).next? c)
    | none => (s.close 0).dropKey?.map fun s => s.tokens.reverse

end Layout

/-- the tokens of a text; every token has a character at least -/
def tokens? (cs : List Char) : Option (List Token) :=
  Layout.tokens? (cs.length + 1) { cursor := { rest := cs } }

end ChainFeed.Yaml
