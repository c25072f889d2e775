import KeyedPool.Document
import KeyedPool.Text.Digits

/-!
# JSON

Documents in JSON notation. The reader keeps a whole number apart from one that is written with a
fraction or an exponent; of two members with one name it keeps the last.

* `KeyedPool.Json.read?`: the document that a text writes.
* `KeyedPool.Json.write`: the text of a document.
-/

namespace KeyedPool.Json

/-- A reader takes something from the front of a text and leaves the rest. -/
abbrev Reader (α : Type) := List Char → Option (α × List Char)

/-- How deep lists and maps may be nested. -/
def depthLimit : Nat := 127

/-! ### Reading -/

/-- Whether a character may stand between the parts of a text. -/
def isBlank (c : Char) : Bool := c == ' ' || c == '\t' || c == '\n' || c == '\r'

/-- A text without blanks in front. -/
def skipBlanks (cs : List Char) : List Char := cs.dropWhile isBlank

/-- Whether a number is the first half of a pair that stands for one character. -/
def isHighHalf (n : Nat) : Bool := 0xd800 ≤ n && n ≤ 0xdbff

/-- Whether a number is the second half of a pair that stands for one character. -/
def isLowHalf (n : Nat) : Bool := 0xdc00 ≤ n && n ≤ 0xdfff

/-- The character of an escape with a letter. -/
def letterEscape? : Char → Option Char
  | '"' => some '"'
  | '\\' => some '\\'
  | '/' => some '/'
  | 'b' => some '\x08'
  | 'f' => some '\x0c'
  | 'n' => some '\n'
  | 'r' => some '\r'
  | 't' => some '\t'
  | _ => none

/-- The number that four digits to base sixteen write. -/
def hex4? (a b c d : Char) : Option Nat := do
  let a ← Text.hexValue? a
  let b ← Text.hexValue? b
  let c ← Text.hexValue? c
  let d ← Text.hexValue? d
  some (((a * 16 + b) * 16 + c) * 16 + d)

/-- The rest of a quoted text, after the characters that were read already, the last one first.
After the first half of a pair the second must follow at once. -/
def quotedFrom (read : List Char) (half : Option Nat) : Reader String
  | [] => none
  | '"' :: r => if half.isSome then none else some (String.ofList read.reverse, r)
  | '\\' :: 'u' :: a :: b :: c :: d :: r =>
    match hex4? a b c d, half with
    | none, _ => none
    | some n, some h =>
      if isLowHalf n then
        quotedFrom (Char.ofNat (0x10000 + (h - 0xd800) * 0x400 + (n - 0xdc00)) :: read) none r
      else none
    | some n, none =>
      if isHighHalf n then quotedFrom read (some n) r
      else if isLowHalf n then none
      else quotedFrom (Char.ofNat n :: read) none r
  | '\\' :: e :: r =>
    if half.isSome then none
    else
      match letterEscape? e with
      | none => none
      | some c => quotedFrom (c :: read) none r
  | c :: r => if half.isSome || c.toNat < 0x20 then none else quotedFrom (c :: read) none r

/-- A quoted text. -/
def quoted : Reader String
  | '"' :: r => quotedFrom [] none r
  | _ => none

/-- One digit or more. -/
def digits (cs : List Char) : Option (List Char × List Char) :=
  let run := cs.takeWhile Text.isDigit
  if run.isEmpty then none else some (run, cs.dropWhile Text.isDigit)

/-- A fraction, with its point; nothing if there is none. -/
def fraction : Reader (List Char)
  | '.' :: r => (digits r).map fun d => ('.' :: d.1, d.2)
  | cs => some ([], cs)

/-- An exponent, with its letter; nothing if there is none. -/
def exponent : Reader (List Char)
  | e :: r =>
    if e = 'e' ∨ e = 'E' then
      match r with
      | '+' :: r => (digits r).map fun d => (e :: '+' :: d.1, d.2)
      | '-' :: r => (digits r).map fun d => (e :: '-' :: d.1, d.2)
      | r => (digits r).map fun d => (e :: d.1, d.2)
    else some ([], e :: r)
  | [] => some ([], [])

/-- A number without its sign. A whole number has no zero in front. The negative of zero is no whole
number. -/
def unsigned (negative : Bool) (cs : List Char) : Option (Document × List Char) := do
  let (whole, cs) ← digits cs
  if whole.head? = some '0' ∧ whole.length ≠ 1 then none
  else
    let (part, cs) ← fraction cs
    let (scale, cs) ← exponent cs
    let n := Text.ofDigits 10 whole
    if part.isEmpty ∧ scale.isEmpty ∧ ¬(negative ∧ n = 0) then
      some (.int (if negative then -n else n), cs)
    else
      let sign := if negative then ['-'] else []
      some (.real (String.ofList (sign ++ whole ++ part ++ scale)), cs)

/-- A number. -/
def number : Reader Document
  | '-' :: r => unsigned true r
  | cs => unsigned false cs

/-- A text that must stand at the front. -/
def expect (word : List Char) (cs : List Char) : Option (List Char) :=
  if word.isPrefixOf cs then some (cs.drop word.length) else none

/-- A map with one more entry, in place of one with the same name. -/
def putEntry (entries : List (String × Document)) (name : String) (value : Document) :
    List (String × Document) :=
  entries.filter (·.1 != name) ++ [(name, value)]

/-- The rest of a list that holds at least one more value. -/
def itemsFrom (value : Reader Document) (read : List Document) :
    Nat → Reader (List Document)
  | 0, _ => none
  | fuel + 1, cs => do
    let (item, cs) ← value (skipBlanks cs)
    match skipBlanks cs with
    | ',' :: r => itemsFrom value (item :: read) fuel r
    | ']' :: r => some ((item :: read).reverse, r)
    | _ => none

/-- A list, after its bracket. -/
def items (value : Reader Document) (cs : List Char) : Option (List Document × List Char) :=
  match skipBlanks cs with
  | ']' :: r => some ([], r)
  | cs => itemsFrom value [] cs.length cs

/-- The rest of a map that holds at least one more member. -/
def membersFrom (value : Reader Document) (read : List (String × Document)) :
    Nat → Reader (List (String × Document))
  | 0, _ => none
  | fuel + 1, cs => do
    let (name, cs) ← quoted (skipBlanks cs)
    let cs ← expect [':'] (skipBlanks cs)
    let (item, cs) ← value (skipBlanks cs)
    let read := putEntry read name item
    match skipBlanks cs with
    | ',' :: r => membersFrom value read fuel r
    | '\x7d' :: r => some (read, r)
    | _ => none

/-- A map, after its brace. -/
def members (value : Reader Document) (cs : List Char) :
    Option (List (String × Document) × List Char) :=
  match skipBlanks cs with
  | '\x7d' :: r => some ([], r)
  | cs => membersFrom value [] cs.length cs

/-- A value, at most so deep. -/
def value : Nat → Reader Document
  | depth, cs =>
    match cs with
    | '"' :: r => (quotedFrom [] none r).map fun s => (.text s.1, s.2)
    | 'n' :: _ => (expect "null".toList cs).map (.null, ·)
    | 't' :: _ => (expect "true".toList cs).map (.bool true, ·)
    | 'f' :: _ => (expect "false".toList cs).map (.bool false, ·)
    | '[' :: r =>
      match depth with
      | 0 => none
      | depth + 1 => (items (value depth) r).map fun l => (.list l.1, l.2)
    | '\x7b' :: r =>
      match depth with
      | 0 => none
      | depth + 1 => (members (value depth) r).map fun m => (.map m.1, m.2)
    | cs => number cs

/-- **The document that a text writes**, if it is JSON. -/
def read? (s : String) : Option Document := do
  let (d, rest) ← value depthLimit (skipBlanks s.toList)
  if (skipBlanks rest).isEmpty then some d else none

/-! ### Writing -/

/-- How one character is written between quotes. -/
def writeChar (c : Char) : String :=
  if c = '"' then "\\\""
  else if c = '\\' then "\\\\"
  else if c.toNat < 0x20 then
    "\\u" ++ String.ofList (List.replicate (4 - (Text.hexDigits c.toNat).length) '0') ++
      Text.hexDigits c.toNat
  else c.toString

/-- A text between quotes. -/
def writeText (s : String) : String := "\"" ++ String.join (s.toList.map writeChar) ++ "\""

mutual

/-- **The text of a document.** A date is written as a text. -/
def write : Document → String
  | .null => "null"
  | .bool b => if b then "true" else "false"
  | .int n => toString n
  | .real written => written
  | .text s => writeText s
  | .date written => writeText written
  | .list items => "[" ++ ",".intercalate (writeItems items) ++ "]"
  | .map entries => "\x7b" ++ ",".intercalate (writeEntries entries) ++ "\x7d"

/-- The texts of the values of a list. -/
def writeItems : List Document → List String
  | [] => []
  | d :: ds => write d :: writeItems ds

/-- The texts of the members of a map. -/
def writeEntries : List (String × Document) → List String
  | [] => []
  | (name, d) :: es => (writeText name ++ ":" ++ write d) :: writeEntries es

end

end KeyedPool.Json
