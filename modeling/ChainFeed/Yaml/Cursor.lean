/-
Places in a YAML text, and the gaps between its tokens.

Blanks, line ends and comments separate tokens. Tabs are blanks, but the columns that a block's
indentation takes up may not hold one, unless nothing else but a comment stands on the line.
-/
namespace ChainFeed.Yaml

/-- a place in a text -/
structure Cursor where
  rest : List Char
  line : Nat := 0
  column : Nat := 0
  /-- whether nothing but blanks stands before it on its line -/
  fresh : Bool := true
deriving DecidableEq, Repr

def isGap (c : Char) : Bool :=
  c = ' ' || c = '\t'

/-- whether a text starts with a blank or a line end, or is empty -/
def isBreak : List Char → Bool
  | [] => true
  | c :: _ => isGap c || c = '\n'

/-- whether a character stands between or around the items of a bracketed collection -/
def isBracket (c : Char) : Bool :=
  c = ',' || c = '[' || c = ']' || c = '\x7b' || c = '\x7d'

/-- whether a text starts with a mark between or around the items of a bracketed collection -/
def isBracketed (cs : List Char) : Bool :=
  cs.head?.any isBracket

/-- whether a text starts with the given mark, apart from what follows -/
def isMark (mark : Char) : List Char → Bool
  | c :: rest => c = mark && isBreak rest
  | [] => false

namespace Cursor

def next (c : Cursor) : Option Char :=
  c.rest.head?

/-- whether the line ends here -/
def atLineEnd (c : Cursor) : Bool :=
  c.rest.isEmpty || c.next = some '\n'

/-- passes over characters that are no line ends -/
def advance (c : Cursor) (n : Nat) : Cursor :=
  { c with rest := c.rest.drop n, column := c.column + n, fresh := c.fresh && n = 0 }

/-- passes over blanks -/
def blanks (c : Cursor) (n : Nat) : Cursor :=
  { c with rest := c.rest.drop n, column := c.column + n }

/-- passes over a line end -/
def newLine (c : Cursor) : Cursor :=
  { rest := c.rest.drop 1, line := c.line + 1 }

/-- whether a line of three dashes starts here, or one of three points -/
def atMarker (c : Cursor) : Bool :=
  c.column = 0 &&
    match c.rest with
    | '-' :: '-' :: '-' :: rest => isBreak rest
    | '.' :: '.' :: '.' :: rest => isBreak rest
    | _ => false

/-- passes over the characters with a property -/
def span (c : Cursor) (p : Char → Bool) : List Char × Cursor :=
  let cs := c.rest.takeWhile p
  (cs, c.advance cs.length)

/-- passes over the blanks and the comment that may follow on the line, and gives the blanks; refuses a
comment that no blank stands before -/
def passLine? (c : Cursor) : Option (List Char × Cursor) :=
  let gap := c.rest.takeWhile isGap
  let after := c.blanks gap.length
  if after.next ≠ some '#' then some (gap, after)
  else if gap.isEmpty then none
  else some (gap, (after.span (· ≠ '\n')).2)

end Cursor

/-! ## Gaps over several lines -/

/-- what a gap may hold -/
structure GapRule where
  /-- how many columns of each line may not hold a tab -/
  width : Nat := 0
  tabs : Bool := true
  comments : Bool := true

/-- what has been passed over so far in a gap -/
structure Gap where
  line : Nat
  column : Nat
  /-- whether only blanks have been passed over on this line -/
  fresh : Bool
  /-- how many line ends have been passed over, without those after comments -/
  breaks : Nat := 0
  comment : Bool := false
  /-- whether a tab stands where none may stand before other content -/
  tabbed : Bool := false

namespace Gap

/-- passes over blanks, line ends and comments -/
def pass (rule : GapRule) : Gap → List Char → Gap × List Char
  | g, [] => ({ g with tabbed := false }, [])
  | g, c :: rest =>
    if c = '\n' then
      let breaks := if g.comment then g.breaks else g.breaks + 1
      pass rule { line := g.line + 1, column := 0, fresh := true, breaks } rest
    else if g.comment then pass rule { g with column := g.column + 1 } rest
    else if c = ' ' || (c = '\t' && (rule.tabs || g.tabbed)) then
      let tabbed := g.tabbed || (c = '\t' && g.fresh && g.column < rule.width)
      pass rule { g with column := g.column + 1, tabbed } rest
    else if c = '#' && (rule.comments || g.tabbed) then
      pass rule { g with column := g.column + 1, fresh := false, comment := true, tabbed := false } rest
    else (g, c :: rest)

end Gap

/-- passes over a gap, and tells how many line ends it holds -/
def Cursor.pass? (rule : GapRule) (c : Cursor) : Option (Nat × Cursor) :=
  let (gap, rest) := Gap.pass rule { line := c.line, column := c.column, fresh := c.fresh } c.rest
  if gap.tabbed then none
  else some (gap.breaks, { rest, line := gap.line, column := gap.column, fresh := gap.fresh })

end ChainFeed.Yaml
