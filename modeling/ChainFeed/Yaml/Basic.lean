/-
YAML values.

A mapping keeps its entries in their order and holds no key twice. A key may be any value; two keys are
the same if they have the same shape and the same scalars.
-/
import ChainFeed.Yaml.Scalar

namespace ChainFeed

/-- a value in a YAML text -/
inductive Yaml where
  | scalar (s : Yaml.Scalar)
  | list (items : List Yaml)
  | map (entries : List (Yaml × Yaml))

namespace Yaml

/-- nothing -/
def empty : Yaml := .scalar .null

mutual

/-- whether two values are the same -/
def same : Yaml → Yaml → Bool
  | .scalar a, .scalar b => a = b
  | .list a, .list b => sameItems a b
  | .map a, .map b => sameEntries a b
  | _, _ => false

def sameItems : List Yaml → List Yaml → Bool
  | [], [] => true
  | a :: as, b :: bs => same a b && sameItems as bs
  | _, _ => false

def sameEntries : List (Yaml × Yaml) → List (Yaml × Yaml) → Bool
  | [], [] => true
  | (k, a) :: as, (l, b) :: bs => same k l && same a b && sameEntries as bs
  | _, _ => false

end

/-- adds to the entries of a mapping, last one first, those of keys and values that take turns; an
invalid scalar is no key and is passed over, and a key without a value counts for nothing -/
def addEntries? (entries : List (Yaml × Yaml)) : List Yaml → Option (List (Yaml × Yaml))
  | [] => some entries
  | .scalar .invalid :: rest => addEntries? entries rest
  | [_] => some entries
  | k :: v :: rest =>
    if entries.any fun (other, _) => same other k then none
    else addEntries? ((k, v) :: entries) rest

/-- the mapping of keys and values that take turns; refuses a key that stands there twice -/
def ofTurns? (turns : List Yaml) : Option Yaml :=
  (addEntries? [] turns).map fun entries => .map entries.reverse

end Yaml

end ChainFeed
