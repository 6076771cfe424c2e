/-
Skipping a JSON value whose content nobody asks for. Nesting is not limited, and neither the size of
numbers nor the pairing of surrogates is looked at.
-/
import ChainFeed.Json.Scan

namespace ChainFeed.Json

/-- an open bracket -/
inductive Bracket where
  | list
  | object
deriving DecidableEq, Repr

namespace Bracket

def close : Bracket → Char
  | .list => ']'
  | .object => '\x7d'

/-- the fault of a text that ends inside -/
def early : Bracket → Cause
  | .list => .endInList
  | .object => .endInObject

/-- the fault of a member that no comma follows -/
def unseparated : Bracket → Cause
  | .list => .expectedCommaOrBracket
  | .object => .expectedCommaOrBrace

end Bracket

/-- where skipping stands -/
inductive Skipping where
  /-- before a value -/
  | value
  /-- before a member: in an object its key comes first -/
  | member
  /-- inside a bracket, `true` if a comma may come -/
  | inside (comma : Bool)
deriving DecidableEq, Repr

/-- skips a value after its first character -/
def skipScalar (c : Char) (cs : Input) : Except Fault Input :=
  if c = 'n' then scanIdent ['u', 'l', 'l'] cs
  else if c = 't' then scanIdent ['r', 'u', 'e'] cs
  else if c = 'f' then scanIdent ['a', 'l', 's', 'e'] cs
  else if c = '-' then skipNumber cs
  else if isDigit c then skipNumber (c :: cs)
  else if c = '"' then skipString cs
  else .error (.onNext .expectedValue (c :: cs))

/-- skips a key and its colon -/
def skipKey (cs : Input) : Except Fault Input :=
  match skipSpace cs with
  | [] => .error (.here .endInObject [])
  | '"' :: cs =>
    match skipString cs with
    | .error f => .error f
    | .ok cs =>
      match skipSpace cs with
      | [] => .error (.here .endInObject [])
      | ':' :: cs => .ok cs
      | cs => .error (.onNext .expectedColon cs)
  | cs => .error (.onNext .keyNotString cs)

/-- skips on, in the given open brackets from the innermost on, in `fuel` steps at most -/
def skipWithin : Nat → List Bracket → Skipping → Input → Except Fault Input
  | 0, _, _, cs => .error (.here .endInValue cs)
  | fuel + 1, stack, .value, cs =>
    match skipSpace cs with
    | [] => .error (.here .endInValue [])
    | '[' :: cs => skipWithin fuel (.list :: stack) (.inside false) cs
    | '\x7b' :: cs => skipWithin fuel (.object :: stack) (.inside false) cs
    | c :: cs =>
      match skipScalar c cs with
      | .ok cs => skipWithin fuel stack (.inside true) cs
      | .error f => .error f
  | fuel + 1, .object :: stack, .member, cs =>
    match skipKey cs with
    | .ok cs => skipWithin fuel (.object :: stack) .value cs
    | .error f => .error f
  | fuel + 1, stack, .member, cs => skipWithin fuel stack .value cs
  | _ + 1, [], .inside _, cs => .ok cs
  | fuel + 1, bracket :: stack, .inside comma, cs =>
    match skipSpace cs with
    | [] => .error (.here bracket.early [])
    | c :: cs =>
      if comma && c = ',' then skipWithin fuel (bracket :: stack) .member cs
      else if c = bracket.close then skipWithin fuel stack (.inside true) cs
      else if comma then .error (.onNext bracket.unseparated (c :: cs))
      else skipWithin fuel (bracket :: stack) .member (c :: cs)

/-- skips one value -/
def skipValue (cs : Input) : Except Fault Input :=
  skipWithin (3 * cs.length + 3) [] .value cs

end ChainFeed.Json
