/-
What is open at a place in a YAML text: the levels of blocks and brackets around it, and the places at
which a key may have started.

That a value is a key shows only at the colon after it, so the tokens before the key are put in then. In
blocks a key stands on one line, with its colon within 1024 characters; in brackets it may span lines.
-/
import ChainFeed.Yaml.Cursor
import ChainFeed.Yaml.Token

namespace ChainFeed.Yaml

/-- a level of indentation -/
structure Level where
  column : Nat
  /-- whether it is that of a block, and not of one value in a block -/
  block : Bool
deriving DecidableEq, Repr

/-- a place at which a key may have started -/
structure KeyPlace where
  /-- how many tokens stand before it -/
  position : Nat
  line : Nat
  column : Nat
  /-- whether nothing but a key may stand there -/
  required : Bool
deriving DecidableEq, Repr

/-- the tokens of a text up to a place, and what is open there -/
structure Layout where
  cursor : Cursor
  /-- the tokens, last one first -/
  tokens : List Token := []
  /-- the levels of indentation, innermost first -/
  levels : List Level := []
  key : Option KeyPlace := none
  /-- the places of keys outside the brackets that are open, innermost first -/
  outer : List (Option KeyPlace) := []
  /-- whether a key may start here -/
  keyAllowed : Bool := true
  /-- line and column of the place at which a colon needs nothing after it -/
  adjacent : Option (Nat × Nat) := none
  /-- whether keys in brackets are those of a mapping that is known to have started -/
  mapping : Bool := false
  /-- whether an entry of a mapping without braces is open in the brackets of a list -/
  entry : Bool := false
  /-- whether the last token is a name or a tag at the start of a line -/
  property : Bool := false

namespace Layout

/-- whether brackets are open -/
def inside (s : Layout) : Bool :=
  !s.outer.isEmpty

/-- the columns up to and with that of the innermost level -/
def margin (s : Layout) : Nat :=
  match s.levels with
  | [] => 0
  | l :: _ => l.column + 1

/-! ## Tokens -/

def push (s : Layout) (t : Token) : Layout :=
  { s with tokens := t :: s.tokens, property := false }

/-- puts a token in at a position -/
def insert (s : Layout) (position : Nat) (t : Token) : Layout :=
  let after := s.tokens.length - position
  { s with tokens := s.tokens.take after ++ t :: s.tokens.drop after }

/-! ## Levels -/

/-- ends the levels at a column and beyond; within brackets indentation does not count -/
def close (s : Layout) (column : Nat) : Layout :=
  if s.inside then s
  else
    let ended := (s.levels.takeWhile fun l => column ≤ l.column).filter (·.block)
    { s with
      tokens := ended.map (fun _ => .blockEnd) ++ s.tokens
      levels := s.levels.dropWhile fun l => column ≤ l.column }

/-- starts a block at a column that is beyond the blocks around it, with its token at a position -/
def openBlock (s : Layout) (column position : Nat) (t : Token) : Layout :=
  if s.inside then s
  else
    let s := match s.levels with
      | l :: rest => if l.column ≤ column && !l.block then { s with levels := rest } else s
      | [] => s
    if s.margin ≤ column then
      { s.insert position t with levels := ⟨column, true⟩ :: s.levels }
    else s

/-- starts the indentation of a value in the innermost block, one column beyond it -/
def indent (s : Layout) : Layout :=
  match s.levels with
  | l :: _ =>
    if l.block && !s.inside then { s with levels := ⟨l.column + 1, false⟩ :: s.levels } else s
  | [] => s

/-- ends the indentation of a value -/
def outdent (s : Layout) : Layout :=
  { s with levels := s.levels.dropWhile fun l => !l.block }

/-! ## Keys -/

/-- marks the place as one at which a key may start, if one may -/
def markKey (s : Layout) : Layout :=
  if s.keyAllowed then
    let required := !s.inside && s.levels.head? = some ⟨s.cursor.column, true⟩
    { s with key := some ⟨s.tokens.length, s.cursor.line, s.cursor.column, required⟩ }
  else s

/-- gives the place of a key up; refuses to where a key is required -/
def dropKey? (s : Layout) : Option Layout :=
  if s.key.any (·.required) then none else some { s with key := none }

/-- gives the place of a key up if it is too far away -/
def expireKey? (s : Layout) : Option Layout :=
  match s.key with
  | some k =>
    if !s.inside && (k.line < s.cursor.line || k.column + 1024 < s.cursor.column) then s.dropKey?
    else some s
  | none => some s

/-- ends an entry of a mapping without braces -/
def endEntry (s : Layout) : Layout :=
  if s.entry then { s.push .mapEnd with entry := false, mapping := false } else s

/-- moves on to the next content; at the start of a line in a block a key may start -/
def toContent? (s : Layout) : Option Layout := do
  let (_, cursor) ← s.cursor.pass? { width := s.margin - 1 }
  let allowed := s.keyAllowed || (!s.inside && s.cursor.line < cursor.line)
  some { s with cursor, keyAllowed := allowed }

end Layout

end ChainFeed.Yaml
