/-
Which texts are regular expressions: groups and classes are closed, what is repeated is there, and every
escape is known. Word boundaries, and repetitions with counts, are none here.
-/
namespace ChainFeed.Pattern

/-- whether a backslash makes a character stand for itself -/
def isQuotable (c : Char) : Bool :=
  32 < c.toNat && c.toNat < 127 && !c.isAlphanum && c ≠ '<' && c ≠ '>'

/-- what an escape stands for: one character, or a class -/
inductive Escape where
  | one (c : Char)
  | several

/-- reads an escape after its backslash -/
def readEscape? : List Char → Option (Escape × List Char)
  | [] => none
  | 'x' :: a :: b :: rest => if isHex a && isHex b then some (.several, rest) else none
  | 'p' :: c :: rest | 'P' :: c :: rest =>
    if "LMNPSZC".toList.contains c then some (.several, rest) else none
  | c :: rest =>
    if isQuotable c then some (.one c, rest)
    else if "dDsSwW".toList.contains c then some (.several, rest)
    else if "aftnrv".toList.contains c then some (.one '\x00', rest)
    else none
where
  isHex (c : Char) : Bool := c.isDigit || ('a' ≤ c.toLower && c.toLower ≤ 'f')

/-- Reads a class after what it starts with, up to its closing bracket. `latest` is the latest item, if a range
can start with it, and `first` tells that a closing bracket stands for itself. -/
def readClass? : Nat → (first : Bool) → (latest : Option Char) → List Char → Option (List Char)
  | 0, _, _, _ => none
  | _ + 1, _, _, [] => none
  | fuel + 1, first, latest, c :: rest =>
    match c with
    | ']' => if first then readClass? fuel false (some c) rest else some rest
    | '[' => (readClass? fuel true none (start rest)).bind (readClass? fuel false none)
    | '\\' =>
      match readEscape? rest with
      | some (.one d, rest) => readClass? fuel false (some d) rest
      | some (.several, rest) => readClass? fuel false none rest
      | none => none
    | '-' =>
      match latest, rest with
      | some _, ']' :: rest => some rest
      | some low, '\\' :: rest =>
        match readEscape? rest with
        | some (.one high, rest) => if low ≤ high then readClass? fuel false none rest else none
        | _ => none
      | some low, high :: rest =>
        if high ≠ '-' && high < low then none else readClass? fuel false none rest
      | _, rest => readClass? fuel false (some c) rest
    | c => readClass? fuel false (some c) rest
where
  start : List Char → List Char
    | '^' :: rest => rest
    | rest => rest

/-- reads the head of a group after `(?`: whether it opens a group, or only sets flags -/
def readGroupHead? (cs : List Char) : Option (Bool × List Char) :=
  match cs with
  | '<' :: rest | 'P' :: '<' :: rest =>
    let name := rest.takeWhile fun c => c.isAlphanum || c = '_'
    match name, rest.drop name.length with
    | c :: _, '>' :: rest => if c.isDigit then none else some (true, rest)
    | _, _ => none
  | cs =>
    let flags := cs.takeWhile fun c => "imsURux-".toList.contains c
    match cs.drop flags.length with
    | ':' :: rest => some (true, rest)
    | ')' :: rest => if flags.isEmpty then none else some (false, rest)
    | _ => none

/-- Whether the rest of a text can follow, with a number of groups open, and something that can be repeated
before it or not. -/
def follows : Nat → (depth : Nat) → (repeatable : Bool) → List Char → Bool
  | 0, _, _, _ => false
  | _ + 1, depth, _, [] => depth == 0
  | fuel + 1, depth, repeatable, c :: rest =>
    match c with
    | '\\' =>
      match readEscape? rest with
      | some (_, rest) => follows fuel depth true rest
      | none => match rest with
        | 'A' :: rest | 'z' :: rest => follows fuel depth true rest
        | _ => false
    | '(' =>
      match rest with
      | '?' :: rest =>
        match readGroupHead? rest with
        | some (opens, rest) => follows fuel (if opens then depth + 1 else depth) false rest
        | none => false
      | rest => follows fuel (depth + 1) false rest
    | ')' => depth ≠ 0 && follows fuel (depth - 1) true rest
    | '|' => follows fuel depth false rest
    | '*' | '+' | '?' => repeatable && follows fuel depth true rest
    | '[' =>
      match readClass? (rest.length + 1) true none (readClass?.start rest) with
      | some rest => follows fuel depth true rest
      | none => false
    | '\x7b' => false
    | _ => follows fuel depth true rest

/-- whether a text is a regular expression -/
def isPattern (cs : List Char) : Bool :=
  follows (cs.length + 1) 0 false cs

end ChainFeed.Pattern
