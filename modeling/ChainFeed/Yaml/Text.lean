/-
The text of YAML scalars on one line or on several: plain, or in quotes of one of the two kinds.

A line end within a scalar counts as a space, and each further one as a line end; blanks beside them
do not count. A backslash before a line end in double quotes takes that line end away.

A margin is the number of columns up to and with that of the innermost block: what belongs to a value in
the block starts beyond it.
-/
import ChainFeed.Number.Reading
import ChainFeed.Yaml.Cursor

namespace ChainFeed.Yaml

/-! ## Folding lines -/

/-- the text of a scalar as far as it is read -/
structure Folded where
  /-- the characters, last one first -/
  text : List Char := []
  /-- the blanks after them, last one first -/
  blanks : List Char := []
  /-- how many line ends follow them -/
  breaks : Nat := 0
  /-- whether the first of the line ends is taken away -/
  joined : Bool := false

namespace Folded

/-- the characters with what the blanks and line ends after them stand for, last one first -/
def chars (f : Folded) : List Char :=
  match f.breaks with
  | 0 => f.blanks ++ f.text
  | 1 => if f.joined then f.text else ' ' :: f.text
  | n + 1 => List.replicate n '\n' ++ f.text

def push (f : Folded) (c : Char) : Folded :=
  { text := c :: f.chars }

/-- adds a piece without blanks and line ends -/
def add (f : Folded) (piece : List Char) : Folded :=
  { text := piece.reverse ++ f.chars }

def blank (f : Folded) (c : Char) : Folded :=
  if f.breaks = 0 then { f with blanks := c :: f.blanks } else f

def lineEnd (f : Folded) : Folded :=
  { f with breaks := f.breaks + 1 }

/-- takes the next line end away -/
def join (f : Folded) : Folded :=
  { text := f.chars, breaks := 1, joined := true }

def toList (f : Folded) : List Char :=
  f.chars.reverse

end Folded

/-! ## Plain scalars -/

/-- whether a text starts with the colon between a key and its value; `inside` tells whether brackets
stand around it -/
def isColon (inside : Bool) : List Char → Bool
  | ':' :: rest => isBreak rest || (inside && isBracketed rest)
  | _ => false

/-- how many characters of a plain scalar stand before a blank or line end, where `n` of them stand before
the text -/
def plainLength (inside : Bool) (n : Nat) : List Char → Nat
  | [] => n
  | c :: rest =>
    if isBreak (c :: rest) || isColon inside (c :: rest) || (inside && isBracket c) then n
    else plainLength inside (n + 1) rest

/-- reads a plain scalar and the gap after it -/
def readPlain (inside : Bool) (margin : Nat) :
    (fuel : Nat) → Folded → Cursor → Option (List Char × Cursor)
  | 0, _, _ => none
  | fuel + 1, f, c =>
    if c.atMarker || c.next = some '#' then some (f.text.reverse, c)
    else if inside && c.next = some '-' && isBracketed (c.rest.drop 1) then none
    else
      let piece := c.rest.take (plainLength inside 0 c.rest)
      if piece.isEmpty then some (f.text.reverse, c)
      else do
        let f := f.add piece
        let c := c.advance piece.length
        let blanks := (c.rest.takeWhile isGap).reverse
        let (breaks, c) ← c.pass? { width := margin, comments := false }
        if c.rest.isEmpty || (!inside && c.column < margin) then some (f.text.reverse, c)
        else readPlain inside margin fuel { f with blanks, breaks } c

/-! ## Scalars in quotes -/

/-- how far an escape in double quotes is read -/
inductive Escape where
  | none
  | opened
  /-- so many hexadecimal digits are to come after those with the given value -/
  | hex (left value : Nat)

/-- the character of an escape of one letter -/
def escaped? (c : Char) : Option Char :=
  [('0', '\x00'), ('a', '\x07'), ('b', '\x08'), ('t', '\t'), ('\t', '\t'), ('n', '\n'),
   ('v', '\x0b'), ('f', '\x0c'), ('r', '\r'), ('e', '\x1b'), (' ', ' '), ('"', '"'), ('/', '/'),
   ('\\', '\\'), ('N', '\u0085'), ('_', '\u00a0'), ('L', '\u2028'), ('P', '\u2029')].lookup c

/-- how many hexadecimal digits the escape of a letter has -/
def escapeDigits? (c : Char) : Option Nat :=
  [('x', 2), ('u', 4), ('U', 8)].lookup c

/-- what has been read of a line of a scalar in quotes -/
inductive QuotedLine where
  /-- the line on which the scalar starts, or more than blanks -/
  | begun
  /-- only blanks, on a further line -/
  | blank
  /-- nothing, on a line whose line end before it is taken away -/
  | joined
deriving DecidableEq

/-- a scalar in quotes as far as it is read -/
structure Quoted where
  line : Nat
  column : Nat
  text : Folded := {}
  escape : Escape := .none
  state : QuotedLine := .begun

namespace Quoted

/-- moves on by a character with the given effect on the text -/
def take (q : Quoted) (text : Folded) (escape : Escape) : Quoted :=
  { q with column := q.column + 1, text, escape, state := .begun }

def newLine (q : Quoted) (text : Folded) (state : QuotedLine) : Quoted :=
  { line := q.line + 1, column := 0, text, state }

/-- moves on by a blank; refuses a tab in the indentation -/
def blank? (margin : Nat) (q : Quoted) (c : Char) : Option Quoted :=
  if c = '\t' && q.state ≠ .begun && q.column + 1 < margin then none
  else
    let state := if q.state = .begun then .begun else .blank
    some { q with column := q.column + 1, text := q.text.blank c, state }

/-- whether content may stand here -/
def allows (margin : Nat) (q : Quoted) (rest : List Char) : Bool :=
  q.state = .begun || (margin ≤ q.column + 1 && !Cursor.atMarker ⟨rest, q.line, q.column, true⟩)

/-- reads a character after a backslash -/
def afterBackslash (q : Quoted) (c : Char) : Option Quoted :=
  if c = '\n' then some (q.newLine q.text.join .joined)
  else
    match escapeDigits? c with
    | some n => some (q.take q.text (.hex n 0))
    | none => (escaped? c).map fun d => q.take (q.text.push d) .none

/-- reads one of the last `left` digits of an escape -/
def hexDigit (q : Quoted) (left value : Nat) (c : Char) : Option Quoted := do
  let value := value * 16 + (← hexValue? c)
  if 1 < left then some (q.take q.text (.hex (left - 1) value))
  else if value.isValidChar then some (q.take (q.text.push (Char.ofNat value)) .none)
  else none

/-- reads up to the closing quote -/
def read (mark : Char) (margin : Nat) : Quoted → List Char → Option (List Char × Cursor)
  | _, [] => none
  | q, c :: rest =>
    match q.escape with
    | .opened => (q.afterBackslash c).bind fun q => read mark margin q rest
    | .hex left value => (q.hexDigit left value c).bind fun q => read mark margin q rest
    | .none =>
      if c = '\n' then read mark margin (q.newLine q.text.lineEnd .blank) rest
      else if isGap c then (q.blank? margin c).bind fun q => read mark margin q rest
      else if !q.allows margin (c :: rest) && !(c = mark && q.state = .joined) then none
      else if c = mark then
        match rest with
        | d :: after =>
          if mark = '\'' && d = '\'' then
            read mark margin { q.take (q.text.push '\'') .none with column := q.column + 2 } after
          else some (q.text.toList, ⟨rest, q.line, q.column + 1, false⟩)
        | [] => some (q.text.toList, ⟨[], q.line, q.column + 1, false⟩)
      else if c = '\\' && mark = '"' then
        read mark margin (q.take { text := q.text.chars } .opened) rest
      else read mark margin (q.take (q.text.push c) .none) rest

end Quoted

/-- reads a scalar in quotes at its opening quote -/
def readQuoted? (mark : Char) (margin : Nat) (c : Cursor) : Option (List Char × Cursor) :=
  Quoted.read mark margin { line := c.line, column := c.column + 1 } (c.rest.drop 1)

end ChainFeed.Yaml
