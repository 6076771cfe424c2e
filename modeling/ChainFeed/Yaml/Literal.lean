/-
Literal and folded scalars: the text of the lines below a `|` or a `>`.

The lines share an indentation, which is given after the mark or else taken from the first line that is
not empty; deeper lines keep what is beyond it. In a folded scalar a line end between two lines that do
not start with a blank counts as a space, and each empty line as a line end. The line ends at the end are
all kept, or all but the first are dropped, or all of them.
-/
import ChainFeed.Number.Reading
import ChainFeed.Yaml.Cursor

namespace ChainFeed.Yaml

/-! ## The line of the mark -/

/-- what becomes of the line ends at the end -/
inductive Chomping where
  /-- the first one is kept -/
  | clip
  | strip
  | keep
deriving DecidableEq, Repr

def Chomping.ofSign? (c : Char) : Option Chomping :=
  if c = '-' then some .strip else if c = '+' then some .keep else none

/-- what the signs behind the mark of a literal scalar say -/
structure LiteralStyle where
  chomping : Chomping := .clip
  /-- how wide the indentation is beyond that of the block around, where that is given -/
  width : Option Nat := none

/-- reads a sign, if one of its kind has not been given before; a width of zero is refused -/
def LiteralStyle.sign? (style : LiteralStyle) (c : Cursor) : Option (LiteralStyle × Cursor) := do
  let sign := c.next.getD '\n'
  if isDigit sign && style.width.isNone then
    let n ← hexValue? sign
    if n = 0 then none else some ({ style with width := n }, c.advance 1)
  else
    match Chomping.ofSign? sign, style.chomping with
    | some chomping, .clip => some ({ style with chomping }, c.advance 1)
    | _, _ => some (style, c)

/-! ## Indentation -/

/-- the indentation of a line and the empty lines before it, as far as they are passed over -/
structure Indentation where
  line : Nat
  column : Nat
  /-- how many empty lines have been passed over -/
  empty : Nat := 0
  /-- how many spaces the widest of the lines starts with -/
  widest : Nat := 0

/-- passes over empty lines and the indentation of the next line; without a width, all its spaces count -/
def Indentation.pass (width : Option Nat) : Indentation → List Char → Indentation × List Char
  | g, [] => (g, [])
  | g, c :: rest =>
    if c = ' ' && width.all (g.column < ·) then
      pass width { g with column := g.column + 1, widest := max g.widest (g.column + 1) } rest
    else if c = '\n' then
      pass width { g with line := g.line + 1, column := 0, empty := g.empty + 1 } rest
    else (g, c :: rest)

/-- the indentation of the next line that is not empty, and its content -/
def Cursor.indentation (width : Option Nat) (c : Cursor) : Indentation × Cursor :=
  let (g, rest) := Indentation.pass width { line := c.line, column := c.column } c.rest
  (g, { rest, line := g.line, column := g.column, fresh := c.fresh })

/-! ## Lines -/

/-- the lines of a literal scalar as far as they are read -/
structure LiteralText where
  /-- the characters, last one first -/
  text : List Char := []
  /-- whether a line end follows them -/
  ended : Bool := false
  /-- how many empty lines follow -/
  empty : Nat := 0
  /-- whether the last line starts with a blank -/
  indented : Bool := false

namespace LiteralText

def lineEnds (t : LiteralText) : List Char :=
  List.replicate (t.empty + if t.ended then 1 else 0) '\n'

/-- adds a line after the line ends before it -/
def add (folded : Bool) (t : LiteralText) (line : List Char) : LiteralText :=
  let indented := line.head?.any isGap
  let ends :=
    if folded && t.ended && !t.indented && !indented then
      if t.empty = 0 then [' '] else List.replicate t.empty '\n'
    else t.lineEnds
  { text := line.reverse ++ ends ++ t.text, indented }

/-- reads the lines that start at a column -/
def read (folded : Bool) (width : Nat) : (fuel : Nat) → LiteralText → Cursor → LiteralText × Cursor
  | 0, t, c => (t, c)
  | fuel + 1, t, c =>
    if c.column ≠ width || c.rest.isEmpty || c.atMarker then (t, c)
    else
      let (line, c) := c.span (· ≠ '\n')
      let t := t.add folded line
      if c.rest.isEmpty then (t, c)
      else
        let (g, c) := c.newLine.indentation (some width)
        read folded width fuel { t with ended := true, empty := g.empty } c

/-- the text with what is left of the line ends after it; where the text ends within a line, a line end is
taken to follow -/
def toList (t : LiteralText) (chomping : Chomping) (cut : Bool) : List Char :=
  let last := (if t.ended then ['\n'] else []) ++ if cut then ['\n'] else []
  t.text.reverse ++
    match chomping with
    | .strip => []
    | .clip => last
    | .keep => last ++ List.replicate t.empty '\n'

end LiteralText

/-- reads a literal scalar at its mark and goes on to the next line that does not belong to it -/
def readLiteral? (folded : Bool) (margin : Nat) (c : Cursor) : Option (List Char × Cursor) := do
  let (style, c) ← LiteralStyle.sign? {} (c.advance 1)
  let (style, c) ← style.sign? c
  let (_, c) ← c.passLine?
  let ended := c.next = some '\n'
  let c := if ended then c.newLine else c
  if (!ended && !c.rest.isEmpty) || c.next = some '\t' then none
  let given := style.width.map fun n => margin - 1 + n
  let (g, c) := c.indentation given
  let width := given.getD (max g.widest margin)
  if c.rest.isEmpty then
    let breaks :=
      match style.chomping with
      | .strip => 0
      | .clip => 1
      | .keep => max g.empty 1
    some (List.replicate (if ended then breaks else 0) '\n', c)
  else if margin ≤ c.column && c.column < width then none
  else
    let (t, c) := LiteralText.read folded width (c.rest.length + 1) { empty := g.empty } c
    some (t.toList style.chomping (c.rest.isEmpty && max width 1 ≤ c.column), c)

end ChainFeed.Yaml
