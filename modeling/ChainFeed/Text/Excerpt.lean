/-
Excerpts of client text for logs: the longest start of a text that ends on a character boundary and
has at most 40 bytes.
-/
namespace ChainFeed

/-- the number of bytes of a list of characters in UTF-8 -/
def byteCount (cs : List Char) : Nat :=
  cs.foldr (fun c n => c.utf8Size + n) 0

/-- whether byte `n` of the text starts a character or is its end -/
def isBoundary : List Char → Nat → Bool
  | _, 0 => true
  | [], _ + 1 => false
  | c :: cs, n + 1 => c.utf8Size ≤ n + 1 && isBoundary cs (n + 1 - c.utf8Size)

/-- the last character boundary at or before byte `n` -/
def boundaryBefore (cs : List Char) : Nat → Nat
  | 0 => 0
  | n + 1 => if isBoundary cs (n + 1) then n + 1 else boundaryBefore cs n

/-- the characters of the first `n` bytes -/
def takeBytes : List Char → Nat → List Char
  | [], _ => []
  | c :: cs, n => if c.utf8Size ≤ n then c :: takeBytes cs (n - c.utf8Size) else []

/-- the most bytes of client text that a log line shows -/
def excerptBytes : Nat := 40

/-- the start of a text that a log line shows -/
def excerpt (s : String) : String :=
  if byteCount s.toList ≤ excerptBytes then s
  else String.ofList (takeBytes s.toList (boundaryBefore s.toList excerptBytes))

end ChainFeed
