/-
What an HTTP request asks for: a path with a query, a whole address, an authority alone, or `*`.
-/
namespace ChainFeed

/-- what a request asks for -/
structure RequestTarget where
  /-- the path as it is written, which an authority alone lacks -/
  path : String
  query : Option String := none
deriving DecidableEq, Repr

namespace RequestTarget

/-! ## Authorities -/

/-- what is known of the characters of an authority read so far -/
structure AuthorityScan where
  /-- the colons since the latest `@` or `]` -/
  colons : Nat := 0
  opened : Bool := false
  closed : Bool := false
  /-- whether there was a percent sign since the latest `@` or `]` -/
  percent : Bool := false
  /-- whether the latest character is `@` -/
  atSign : Bool := false

/-- the characters that stand for themselves in an authority -/
def isAuthorityChar (c : Char) : Bool :=
  c.isAlphanum || "!$&'()*+,-.;=_~".toList.contains c

/-- takes a character, `none` if it cannot stand there -/
def AuthorityScan.next (s : AuthorityScan) (c : Char) : Option AuthorityScan :=
  let s := { s with atSign := false }
  match c with
  | ':' => if 8 ≤ s.colons then none else some { s with colons := s.colons + 1 }
  | '[' => if s.percent || s.opened then none else some { s with opened := true }
  | ']' =>
    if !s.opened || s.closed then none
    else some { s with closed := true, colons := 0, percent := false }
  | '@' => some { s with atSign := true, colons := 0, percent := false }
  | '%' => some { s with percent := true }
  | c => if isAuthorityChar c then some s else none

/-- whether a text is an authority; it may be empty -/
def isAuthority (cs : List Char) : Bool :=
  match cs.foldlM AuthorityScan.next {} with
  | some s => s.opened == s.closed && s.colons ≤ 1 && !s.atSign && !s.percent
  | none => false

/-! ## Paths -/

/-- whether a character can stand in a path as it is -/
def isPathChar (c : Char) : Bool :=
  128 ≤ c.toNat || (32 < c.toNat && !"#<>?`".toList.contains c)

/-- whether a character can stand in a query as it is -/
def isQueryChar (c : Char) : Bool :=
  128 ≤ c.toNat || (32 < c.toNat && !"\"#<>".toList.contains c)

/-- reads a path with its query; what follows a `#` counts for nothing -/
def ofPath? (cs : List Char) : Option RequestTarget :=
  let cs := cs.takeWhile (· ≠ '#')
  let path := cs.takeWhile (· ≠ '?')
  let query := (cs.dropWhile (· ≠ '?')).drop 1
  if path.all isPathChar && query.all isQueryChar then
    some ⟨String.ofList path, if path.length < cs.length then some (String.ofList query) else none⟩
  else none

/-! ## Targets -/

/-- the scheme that a text starts with, before `://` -/
def scheme? (cs : List Char) : Option (List Char) :=
  let scheme := cs.takeWhile fun c => c.isAlphanum || c = '+' || c = '-' || c = '.'
  if "://".toList.isPrefixOf (cs.drop scheme.length) then some scheme else none

/-- the target after a scheme: an authority that is not empty, and a path, `/` if it is left out -/
def ofAddress? (cs : List Char) : Option RequestTarget :=
  let authority := cs.takeWhile fun c => c ≠ '/' && c ≠ '?' && c ≠ '#'
  if authority.isEmpty || !isAuthority authority then none
  else
    (ofPath? (cs.drop authority.length)).map fun t =>
      if t.path = "" then { t with path := "/" } else t

/-- reads a target, `none` if it is not well formed or too long -/
def parse? (s : String) : Option RequestTarget :=
  if 65534 < s.utf8ByteSize then none
  else
    match s.toList with
    | [] => none
    | ['*'] => some ⟨"*", none⟩
    | '/' :: rest => ofPath? ('/' :: rest)
    | cs =>
      match scheme? cs with
      | some scheme => if 64 < scheme.length then none else ofAddress? (cs.drop (scheme.length + 3))
      | none => if isAuthority cs then some ⟨"", none⟩ else none

end RequestTarget

end ChainFeed
