/-
The tokens of a YAML text.

Blocks have tokens at their start and end, as if they stood in brackets; the tokens of keys and values
stand before them.
-/
namespace ChainFeed.Yaml

inductive Token where
  /-- a directive that gives a version -/
  | version
  /-- a directive that says how the tags of a handle start -/
  | handle (handle start : String)
  | documentStart
  | documentEnd
  | blockList
  | blockMap
  | blockEnd
  /-- the dash before an item of a block -/
  | entry
  | key
  | value
  | listStart
  | listEnd
  | mapStart
  | mapEnd
  | comma
  /-- a name for the value that follows -/
  | anchor (name : String)
  /-- a value given by its name -/
  | reference (name : String)
  | tag (handle rest : String)
  /-- a scalar; it is plain if it stands without quotes on the lines of other tokens -/
  | scalar (plain : Bool) (text : List Char)
deriving DecidableEq, Repr

end ChainFeed.Yaml
