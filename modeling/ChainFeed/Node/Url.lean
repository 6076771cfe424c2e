/-
Addresses of services that are asked by plain HTTP.
-/
import ChainFeed.Node.HostName

namespace ChainFeed

/-- a name and a password by which a service knows its user; a missing password is an empty one -/
structure Credentials where
  user : String
  password : Option String
deriving DecidableEq, Repr

/-- the address of a service -/
structure Url where
  /-- who asks, if the address says so -/
  credentials : Option Credentials
  host : HostName
  /-- what is asked for there: the path and the query -/
  target : String
deriving DecidableEq, Repr

namespace Url

/-- two hexadecimal digits after a percent sign -/
def percent (b : UInt8) : List Char :=
  ['%', digit (b.toNat / 16), digit (b.toNat % 16)]
where
  digit (n : Nat) : Char :=
    if n < 10 then Char.ofNat (48 + n) else Char.ofNat (55 + n)

/-- writes characters that cannot stand in a path or a query as their bytes -/
def encode (kept : Char → Bool) (cs : List Char) : List Char :=
  cs.flatMap fun c =>
    if 32 < c.toNat && c.toNat < 127 && kept c then [c]
    else (String.singleton c).toUTF8.toList.flatMap percent

/-- the credentials that stand before the host; nobody is meant by a missing name and password -/
def credentialsOf? (cs : List Char) : Option Credentials := do
  let user ← percentDecodeText? (cs.takeWhile (· ≠ ':'))
  let password :=
    match (cs.dropWhile (· ≠ ':')).drop 1 with
    | [] => none
    | p => percentDecodeText? p
  if user = "" && password.isNone then none else some ⟨user, password⟩

/-- a part of a path that says where to go, with points that may be written by percent signs -/
inductive Step where
  | stay
  | up

/-- the step that a part of a path stands for, if it names nothing -/
def stepOf? : List Char → Option Step
  | ['.'] => some .stay
  | ['%', '2', e] => if isE e then some .stay else none
  | ['.', '.'] => some .up
  | ['.', '%', '2', e] => if isE e then some .up else none
  | ['%', '2', e, '.'] => if isE e then some .up else none
  | ['%', '2', d, '%', '2', e] => if isE d && isE e then some .up else none
  | _ => none
where
  isE (c : Char) : Bool := c = 'e' || c = 'E'

/-- whether a part of a path is the name of a drive, which no step goes above -/
def isDrive : List Char → Bool
  | [c, d] => c.isAlpha && (d = ':' || d = '|')
  | _ => false

/-- the parts of a path above the latest one -/
def above : List (List Char) → List (List Char)
  | [] => []
  | p :: rest => if isDrive p then p :: rest else rest

/-- the parts of a path with the steps among them taken; `done` holds the latest part first -/
def resolve (done : List (List Char)) : List (List Char) → List (List Char)
  | [] => done.reverse
  | [p] =>
    match stepOf? p with
    | some .stay => ([] :: done).reverse
    | some .up => ([] :: above done).reverse
    | none => (p :: done).reverse
  | p :: rest =>
    match stepOf? p with
    | some .stay => resolve done rest
    | some .up => resolve (above done) rest
    | none => resolve (p :: done) rest

/-- the path and the query as they are asked for -/
def targetOf (cs : List Char) : List Char :=
  let cs := cs.takeWhile (· ≠ '#')
  let (path, query) := cs.span (· ≠ '?')
  let parts := splitAt '/' ((path.map fun c => if c = '\\' then '/' else c).drop 1)
  let path := (resolve [] parts).flatMap fun p =>
    '/' :: encode (fun c => !"\"#<>?`\x7b\x7d".toList.contains c) p
  path ++ encode (fun c => !"\"#<>'".toList.contains c) query

/-- whether a text is a port -/
def isPort (cs : List Char) : Bool :=
  cs.all isDigit && digitsValue cs < 65536

/-- the host, up to a colon outside of brackets, and what follows it -/
def spanHost (inside : Bool) : List Char → List Char × List Char
  | [] => ([], [])
  | c :: cs =>
    if c = ':' && !inside then ([], c :: cs)
    else
      let (host, rest) := spanHost (c = '[' || (inside && c ≠ ']')) cs
      (c :: host, rest)

/-- reads the part of an address after its scheme and slashes -/
def ofAuthority? (cs : List Char) : Option Url := do
  let isEnd (c : Char) := c = '/' || c = '\\' || c = '?' || c = '#'
  let (authority, rest) := cs.span fun c => !isEnd c
  let server := ((authority.reverse.takeWhile (· ≠ '@'))).reverse
  let before := authority.take (authority.length - server.length - 1)
  let (host, port) := spanHost false server
  let host ← HostName.parse? host
  if port = [] || (port.head? = some ':' && isPort (port.drop 1)) then
    some ⟨credentialsOf? before, host, String.ofList (targetOf rest)⟩
  else none

/-- reads an address of the scheme `http` -/
def parse? (s : String) : Option Url :=
  let isEdge (c : Char) : Bool := c.toNat ≤ 32
  let trimmed := (((s.toList.dropWhile isEdge).reverse.dropWhile isEdge).reverse).filter fun c =>
    c ≠ '\t' && c ≠ '\n' && c ≠ '\r'
  let (scheme, rest) := trimmed.span (· ≠ ':')
  if scheme.map Char.toLower = "http".toList && rest ≠ [] then
    ofAuthority? ((rest.drop 1).dropWhile fun c => c = '/' || c = '\\')
  else none

end Url

end ChainFeed
