import KeyedPool.Pattern
import KeyedPool.Text.Digits
import KeyedPool.Text.Numeral
import KeyedPool.Text.WhiteSpace

/-!
# Patterns as they are written

A pattern stands in a directive between a sign of equality and a brace that closes. Neither of these
occurs in it, nor does a comma, so whatever would need one is no pattern: a repetition with a count,
a character by its code point in braces, a test of what comes next.

* `KeyedPool.Pattern.escape`: what stands after a backslash.
* `KeyedPool.Pattern.setFrom`: a set of characters, after its bracket.
* `KeyedPool.Pattern.opening`: what stands after a parenthesis.
* `KeyedPool.Pattern.read?`: the pattern that a text writes.
-/

namespace KeyedPool.Pattern

/-- What stands at the front of a text, and the rest. -/
abbrev Reader (α : Type) := List Char → Option (α × List Char)

/-! ### Blanks -/

/-- A text without the white space and the comments in front of it, perhaps from within a comment. A
comment goes to the end of its line. -/
def skipLoose (inComment : Bool) : List Char → List Char
  | [] => []
  | c :: r =>
    if inComment then skipLoose (c != '\n') r
    else if Text.isWhiteSpace c then skipLoose false r
    else if c = '#' then skipLoose true r
    else c :: r

/-- A text without what does not matter in front of it. -/
def skip (loose : Bool) (cs : List Char) : List Char := if loose then skipLoose false cs else cs

/-- The first character that is not white space, after the sign of one comment at most. -/
def firstLoose? (inComment : Bool) : List Char → Option Char
  | [] => none
  | c :: r =>
    if Text.isWhiteSpace c then firstLoose? inComment r
    else if c = '#' ∧ !inComment then firstLoose? true r
    else some c

/-- The character that comes next, for a reader who wants to know it in advance. -/
def ahead? (loose : Bool) (cs : List Char) : Option Char :=
  if loose then (firstLoose? false cs).or cs.head? else cs.head?

/-- A text that must not be at its end. -/
def unended : List Char → Option (List Char)
  | [] => none
  | cs => some cs

/-! ### Characters -/

/-- A number of so many digits to base sixteen. -/
def hexNumber (loose : Bool) : Nat → Nat → Reader Nat
  | 0, n, cs => some (n, cs)
  | _ + 1, _, [] => none
  | places + 1, n, c :: r => do
    let digit ← Text.hexValue? c
    hexNumber loose places (n * 16 + digit) (skip loose r)

/-- A character by so many digits of its code point. -/
def hexChar (loose : Bool) (places : Nat) : Reader Pattern := fun cs => do
  let (n, cs) ← hexNumber loose places 0 (skip loose cs)
  if n.isValidChar then some (.char ⟨Char.ofNat n, places == 2⟩, cs) else none

/-- Whether a character stands for itself after a backslash: one of ASCII that is neither a
letter nor a digit. -/
def isEscapable (c : Char) : Bool := c.toNat < 0x80 && !c.isAlphanum

/-- **What stands after a backslash.** Properties of characters would need a table and are not
known. -/
def escape (loose : Bool) : Reader Pattern
  | [] => none
  | c :: r =>
    match c with
    | 'x' => hexChar loose 2 r
    | 'u' => hexChar loose 4 r
    | 'U' => hexChar loose 8 r
    | 'd' | 's' | 'w' => some (.shorthand false, r)
    | 'D' | 'S' | 'W' => some (.shorthand true, r)
    | 'a' => some (.char ⟨'\x07', false⟩, r)
    | 'f' => some (.char ⟨'\x0c', false⟩, r)
    | 't' => some (.char ⟨'\t', false⟩, r)
    | 'n' => some (.char ⟨'\n', false⟩, r)
    | 'r' => some (.char ⟨'\r', false⟩, r)
    | 'v' => some (.char ⟨'\x0b', false⟩, r)
    | 'A' | 'z' => some (.edge, r)
    | 'b' | 'B' | '<' | '>' => some (.wordEdge, r)
    | c => if isEscapable c then some (.char ⟨c, false⟩, r) else none

/-- A pattern of one character or one edge. -/
def single (loose : Bool) : Reader Pattern
  | [] => none
  | '\\' :: r => escape loose r
  | '.' :: r => some (.anyChar, r)
  | '^' :: r => some (.edge, r)
  | '$' :: r => some (.edge, r)
  | c :: r => some (.char ⟨c, false⟩, r)

/-! ### Sets -/

/-- The sets that have a name. -/
def setNames : List String :=
  ["alnum", "alpha", "ascii", "blank", "cntrl", "digit", "graph", "lower", "print", "punct",
   "space", "upper", "word", "xdigit"]

/-- A set by its name between colons, after its bracket. -/
def namedSet : Reader CharSet
  | ':' :: r =>
    let negated := r.head? == some '^'
    let r := if negated then r.drop 1 else r
    match r.dropWhile (· != ':') with
    | ':' :: ']' :: rest =>
      if setNames.contains (String.ofList (r.takeWhile (· != ':'))) then some (.named negated, rest)
      else none
    | _ => none
  | _ => none

/-- One end of a range. -/
def setItem (loose : Bool) : Reader Pattern
  | [] => none
  | '\\' :: r => escape loose r
  | c :: r => some (.char ⟨c, false⟩, r)

/-- What a pattern of one character adds to a set. -/
def toSet? : Pattern → Option CharSet
  | .char c => some (.single c)
  | .shorthand negated => some (.shorthand negated)
  | _ => none

/-- The characters between two. -/
def rangeSet? : Pattern → Pattern → Option CharSet
  | .char first, .char last => if first.char ≤ last.char then some (.range first last) else none
  | _, _ => none

/-- One character of a set, or the characters from one to another. A hyphen in front of another one
or of the closing bracket makes no range. -/
def setRange (loose : Bool) : Reader CharSet := fun cs => do
  let (first, cs) ← setItem loose cs
  match skip loose cs with
  | [] => none
  | '-' :: r =>
    if ahead? loose r = some ']' ∨ ahead? loose r = some '-' then do
      some (← toSet? first, '-' :: r)
    else do
      let (last, cs) ← setItem loose (skip loose r)
      some (← rangeSet? first last, cs)
  | cs => do some (← toSet? first, cs)

/-- The hyphens at the beginning of a set, at most so many, which stand for themselves. -/
def hyphens (loose : Bool) (read : List CharSet) : Nat → Reader (List CharSet)
  | 0, _ => none
  | fuel + 1, cs =>
    match cs with
    | '-' :: r => do hyphens loose (.single ⟨'-', false⟩ :: read) fuel (← unended (skip loose r))
    | cs => some (read, cs)

/-- The beginning of a set, after its bracket: whether its complement is meant, and the hyphens
or the closing bracket in front, which stand for themselves. -/
def beginSet (loose : Bool) : Reader (Bool × List CharSet) := fun cs => do
  let cs ← unended (skip loose cs)
  let negated := cs.head? == some '^'
  let cs ← if negated then unended (skip loose (cs.drop 1)) else some cs
  match ← hyphens loose [] (cs.length + 1) cs with
  | ([], ']' :: r) => some ((negated, [.single ⟨']', false⟩]), ← unended (skip loose r))
  | (read, cs) => some ((negated, read), cs)

/-- What was read of a set, the last item first, as one: a part that stands to the left of an
operator goes with it. -/
def closeSet (left : Option CharSet) (read : List CharSet) : CharSet :=
  let right := CharSet.together read.reverse
  left.elim right fun left => .operation left right

/-- **The rest of a set**, after what was read of it already. -/
def setFrom (loose : Bool) (left : Option CharSet) (read : List CharSet) : Nat → Reader CharSet
  | 0, _ => none
  | fuel + 1, cs =>
    match skip loose cs with
    | [] => none
    | '[' :: r =>
      match namedSet r with
      | some (named, r) => setFrom loose left (named :: read) fuel r
      | none => do
        let ((negated, inside), r) ← beginSet loose r
        let (inner, r) ← setFrom loose none inside fuel r
        setFrom loose left (.bracketed negated inner :: read) fuel r
    | ']' :: r => some (closeSet left read, r)
    | '&' :: '&' :: r => setFrom loose (some (closeSet left read)) [] fuel r
    | '-' :: '-' :: r => setFrom loose (some (closeSet left read)) [] fuel r
    | '~' :: '~' :: r => setFrom loose (some (closeSet left read)) [] fuel r
    | cs => do
      let (item, cs) ← setRange loose cs
      setFrom loose left (item :: read) fuel cs

/-- A set, after its bracket. -/
def bracketSet (loose : Bool) : Reader Pattern := fun cs => do
  let ((negated, inside), cs) ← beginSet loose cs
  let (s, cs) ← setFrom loose none inside (cs.length + 1) cs
  some (.set negated s, cs)

/-! ### Groups -/

/-- How a group begins. -/
inductive Opening where
  /-- It is no group, but switches for the rest of the one around it. -/
  | switches (s : PatternSwitches)
  /-- With switches of its own, and perhaps with a name. -/
  | group (s : PatternSwitches) (name : Option String)

/-- Whether a character may stand in the name of a group, or at the front of it. -/
def isNameChar (front : Bool) (c : Char) : Bool :=
  if front then c == '_' || Text.isAlphabetic c
  else c == '_' || c == '.' || c == '[' || c == ']' || Text.isAlphanumeric c

/-- The name of a group, up to the angle bracket behind it. -/
def groupName : Reader Opening := fun cs =>
  match cs.takeWhile (· != '>'), cs.dropWhile (· != '>') with
  | c :: name, '>' :: r =>
    if isNameChar true c && name.all (isNameChar false) then
      some (.group [] (some (String.ofList (c :: name))), r)
    else none
  | _, _ => none

/-- Switches up to a colon or a parenthesis. Those after the hyphen are switched off. No switch
may be given twice, something must follow the hyphen, and without a group there must be a
switch. -/
def switchesFrom (on dangling : Bool) (read : PatternSwitches) : Reader Opening
  | [] => none
  | ':' :: r => if dangling then none else some (.group read none, r)
  | ')' :: r => if dangling || read.isEmpty then none else some (.switches read, r)
  | '-' :: r => if on then switchesFrom false true read r else none
  | c :: r => do
    let s ← PatternSwitch.ofLetter? c
    if (read.lookup s).isSome then none else switchesFrom on false ((s, on) :: read) r

/-- **What stands after a parenthesis.** -/
def opening (loose : Bool) (cs : List Char) : Option (Opening × List Char) :=
  match skip loose cs with
  | '?' :: 'P' :: '<' :: r => groupName r
  | '?' :: '<' :: r => groupName r
  | '?' :: r => switchesFrom true false [] r
  | cs => some (.group [] none, cs)

/-- Whether blanks matter after some switches were set. -/
def loosened (loose : Bool) (s : PatternSwitches) : Bool := (s.lookup .loose).getD loose

/-- What was read of a group, as one: its alternatives, and the parts of the last one, the last one
first in both. -/
def closeGroup (alternatives read : List Pattern) : Pattern :=
  let last := Pattern.inSequence read.reverse
  if alternatives.isEmpty then last else .choice (last :: alternatives).reverse

/-- A pattern and the names that its groups have. -/
structure Named where
  /-- The pattern. -/
  pattern : Pattern
  /-- The names, none of them twice. -/
  names : List String

/-- The rest of a group up to its closing parenthesis, or to the end of the text, after what was
read of it already. -/
def groupFrom (loose : Bool) (names : List String) (alternatives read : List Pattern) :
    Nat → Reader Named
  | 0, _ => none
  | fuel + 1, cs =>
    match skip loose cs with
    | [] => some (⟨closeGroup alternatives read, names⟩, [])
    | ')' :: r => some (⟨closeGroup alternatives read, names⟩, ')' :: r)
    | '|' :: r =>
      groupFrom loose names (Pattern.inSequence read.reverse :: alternatives) [] fuel r
    | '(' :: r => do
      match ← opening loose r with
      | (.switches s, r) =>
        groupFrom (loosened loose s) names alternatives (.switches s :: read) fuel r
      | (.group s name, r) =>
        if name.any names.contains then none
        else
          match ← groupFrom (loosened loose s) (name.toList ++ names) [] [] fuel r with
          | (inner, ')' :: r) =>
            groupFrom loose inner.names alternatives (.group s inner.pattern :: read) fuel r
          | _ => none
    | '[' :: r => do
      let (s, r) ← bracketSet loose r
      groupFrom loose names alternatives (s :: read) fuel r
    | '\x7b' :: _ => none
    | c :: r =>
      if c = '?' ∨ c = '*' ∨ c = '+' then
        let r := if r.head? = some '?' then r.drop 1 else r
        match read with
        | [] => none
        | .switches _ :: _ => none
        | p :: read => groupFrom loose names alternatives (.repeated p :: read) fuel r
      else do
        let (p, r) ← single loose (c :: r)
        groupFrom loose names alternatives (p :: read) fuel r

/-- **The pattern that a text writes**, if it is one. -/
def read? (cs : List Char) : Option Pattern :=
  match groupFrom false [] [] [] (cs.length + 1) cs with
  | some (p, []) => some p.pattern
  | _ => none

end KeyedPool.Pattern
