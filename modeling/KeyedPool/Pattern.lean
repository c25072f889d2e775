/-!
# Search patterns

A filter for the log may ask that the value of a field matches a pattern. What matters here is
whether a pattern can be used at all, so a pattern is kept as far as this depends on it: a literal
with the character it stands for, but a repetition without its bounds.

A pattern that can be read is still refused for one of two reasons. It may be nested too deeply. Or
it may ask for what only tables of all characters could tell: which characters are digits, blanks or
parts of a word, where a word ends, and which characters differ in case alone. Within the range of
ASCII all of this is known, so a pattern may ask for it there; but then nothing in it may match
anything less than a whole character.

* `KeyedPool.PatternSwitch`: what a pattern can switch on and off.
* `KeyedPool.CharSet`: a set of characters between brackets.
* `KeyedPool.Pattern`: a pattern.
* `KeyedPool.Pattern.depth`: how deeply a pattern is nested.
* `KeyedPool.Pattern.isUsable`: whether a pattern can be used.
-/

namespace KeyedPool

/-! ### Switches -/

/-- What a pattern can switch on and off. -/
inductive PatternSwitch where
  /-- Letters match in either case. -/
  | ignoreCase
  /-- The edges of a line count as edges of the text. -/
  | multiLine
  /-- Any character may be a line break, too. -/
  | dotAll
  /-- Repetitions are as short as they can be. -/
  | lazy
  /-- All characters are told apart, not those of ASCII alone. -/
  | unicode
  /-- A line may end with a carriage return. -/
  | carriageReturn
  /-- White space and comments in the pattern do not matter. -/
  | loose
deriving DecidableEq

/-- Switches with what they are set to, none of them twice. -/
abbrev PatternSwitches := List (PatternSwitch × Bool)

/-- The letter of a switch. -/
def PatternSwitch.ofLetter? : Char → Option PatternSwitch
  | 'i' => some .ignoreCase
  | 'm' => some .multiLine
  | 's' => some .dotAll
  | 'U' => some .lazy
  | 'u' => some .unicode
  | 'R' => some .carriageReturn
  | 'x' => some .loose
  | _ => none

/-- Those switches that decide whether a pattern can be used. -/
structure PatternMode where
  /-- Whether letters match in either case. -/
  ignoreCase : Bool := false
  /-- Whether all characters are told apart. -/
  unicode : Bool := true
deriving DecidableEq

/-- The mode after some switches were set. -/
def PatternMode.set (m : PatternMode) (s : PatternSwitches) : PatternMode where
  ignoreCase := (s.lookup .ignoreCase).getD m.ignoreCase
  unicode := (s.lookup .unicode).getD m.unicode

/-! ### Parts of a pattern -/

/-- A character that stands for itself. -/
structure PatternChar where
  /-- The character. -/
  char : Char
  /-- Whether it is given by the two digits of a byte. -/
  isByte : Bool := false

/-- A set of characters. -/
inductive CharSet where
  /-- No character. -/
  | empty
  /-- One character. -/
  | single (c : PatternChar)
  /-- The characters from one to another. -/
  | range (first last : PatternChar)
  /-- A set with a name, or its complement. -/
  | named (negated : Bool)
  /-- The digits, the blanks or the parts of a word, or the complement of these. -/
  | shorthand (negated : Bool)
  /-- A set in brackets of its own, or its complement. -/
  | bracketed (negated : Bool) (set : CharSet)
  /-- The characters of some sets together. -/
  | union (sets : List CharSet)
  /-- What two sets have in common, or what tells them apart. -/
  | operation (left right : CharSet)

/-- A pattern. -/
inductive Pattern where
  /-- Nothing. -/
  | empty
  /-- Switches for the rest of the group. -/
  | switches (s : PatternSwitches)
  /-- One character. -/
  | char (c : PatternChar)
  /-- Any character. -/
  | anyChar
  /-- An edge of the text. -/
  | edge
  /-- An edge of a word, or a place that is none. -/
  | wordEdge
  /-- A digit, a blank or a part of a word, or anything else. -/
  | shorthand (negated : Bool)
  /-- One character of a set, or of its complement. -/
  | set (negated : Bool) (s : CharSet)
  /-- A pattern any number of times. -/
  | repeated (p : Pattern)
  /-- A pattern in parentheses, with switches of its own. -/
  | group (s : PatternSwitches) (p : Pattern)
  /-- Patterns one after the other. -/
  | sequence (ps : List Pattern)
  /-- One pattern out of several. -/
  | choice (ps : List Pattern)

/-- Some sets as one. -/
def CharSet.together : List CharSet → CharSet
  | [] => .empty
  | [s] => s
  | sets => .union sets

/-- Some patterns one after the other, as one. -/
def Pattern.inSequence : List Pattern → Pattern
  | [] => .empty
  | [p] => p
  | ps => .sequence ps

/-! ### How deeply a pattern is nested -/

mutual

/-- How deeply a set is nested. -/
def CharSet.depth : CharSet → Nat
  | .bracketed _ s => s.depth + 1
  | .union sets => CharSet.depths sets + 1
  | .operation left right => max left.depth right.depth + 1
  | _ => 0

/-- How deeply the deepest of some sets is nested. -/
def CharSet.depths : List CharSet → Nat
  | [] => 0
  | s :: rest => max s.depth (CharSet.depths rest)

end

mutual

/-- **How deeply a pattern is nested.** -/
def Pattern.depth : Pattern → Nat
  | .set _ s => s.depth + 1
  | .repeated p => p.depth + 1
  | .group _ p => p.depth + 1
  | .sequence ps => Pattern.depths ps + 1
  | .choice ps => Pattern.depths ps + 1
  | _ => 0

/-- How deeply the deepest of some patterns is nested. -/
def Pattern.depths : List Pattern → Nat
  | [] => 0
  | p :: rest => max p.depth (Pattern.depths rest)

end

/-- How deeply a pattern may be nested. -/
def Pattern.depthLimit : Nat := 250

/-! ### What a pattern may ask for -/

/-- Whether a digit, a blank or a part of a word can be told, or what is none. -/
def PatternMode.tellsShorthand (m : PatternMode) (negated : Bool) : Bool := !m.unicode && !negated

/-- Whether a character can be matched. -/
def PatternChar.isUsable (m : PatternMode) (c : PatternChar) : Bool :=
  if m.unicode then !m.ignoreCase else !(c.isByte && 0x80 ≤ c.char.toNat)

/-- Whether a character can be in a set. -/
def PatternChar.isUsableInSet (m : PatternMode) (c : PatternChar) : Bool :=
  if m.unicode then !m.ignoreCase else c.char.toNat < 0x80

mutual

/-- Whether a set can be told. -/
def CharSet.isUsable (m : PatternMode) : CharSet → Bool
  | .empty => true
  | .single c => c.isUsableInSet m
  | .range first last => first.isUsableInSet m && last.isUsableInSet m
  | .named negated => if m.unicode then !m.ignoreCase else !negated
  | .shorthand negated => m.tellsShorthand negated
  | .bracketed negated s => s.isUsable m && (m.unicode || !negated)
  | .union sets => CharSet.areUsable m sets
  | .operation left right => left.isUsable m && right.isUsable m

/-- Whether each of some sets can be told. -/
def CharSet.areUsable (m : PatternMode) : List CharSet → Bool
  | [] => true
  | s :: rest => s.isUsable m && CharSet.areUsable m rest

end

mutual

/-- **The mode after a pattern**, if nothing in the pattern is beyond what can be told. Switches
hold to the end of the group in which they are set. -/
def Pattern.modeAfter? (m : PatternMode) : Pattern → Option PatternMode
  | .empty => some m
  | .switches s => some (m.set s)
  | .char c => if c.isUsable m then some m else none
  | .anyChar => if m.unicode then some m else none
  | .edge => some m
  | .wordEdge => if m.unicode then none else some m
  | .shorthand negated => if m.tellsShorthand negated then some m else none
  | .set negated s => if s.isUsable m && (m.unicode || !negated) then some m else none
  | .repeated p => p.modeAfter? m
  | .group s p => (p.modeAfter? (m.set s)).map fun _ => m
  | .sequence ps => Pattern.modeAfterAll? m ps
  | .choice ps => Pattern.modeAfterAll? m ps

/-- The mode after some patterns. -/
def Pattern.modeAfterAll? (m : PatternMode) : List Pattern → Option PatternMode
  | [] => some m
  | p :: rest => (p.modeAfter? m).bind fun m => Pattern.modeAfterAll? m rest

end

/-- **Whether a pattern can be used.** -/
def Pattern.isUsable (p : Pattern) : Bool :=
  p.depth ≤ Pattern.depthLimit && (p.modeAfter? {}).isSome

end KeyedPool
