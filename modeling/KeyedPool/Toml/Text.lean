import KeyedPool.Text.Digits

/-!
# Blanks, comments, keys and texts of TOML

* `KeyedPool.Toml.endLine`: the end of a line, with the comment that may stand there.
* `KeyedPool.Toml.quotedText`: a text in any of the four kinds of quotes.
* `KeyedPool.Toml.path`: a key of one or more parts between dots.
-/

namespace KeyedPool.Toml

/-- A reader takes something from the front of a text and leaves the rest. -/
abbrev Reader (α : Type) := List Char → Option (α × List Char)

/-! ### Characters -/

/-- Whether a character is a blank within a line. -/
def isBlank (c : Char) : Bool := c == ' ' || c == '\t'

/-- Whether a character may stand in a comment: no control character but the tab. -/
def isCommentChar (c : Char) : Bool := c == '\t' || (0x20 ≤ c.toNat && c.toNat != 0x7f)

/-- Whether a character may stand for itself between double quotes. -/
def isPlain (c : Char) : Bool := isCommentChar c && c != '"' && c != '\\'

/-- Whether a character may stand for itself between single quotes. -/
def isLiteral (c : Char) : Bool := isCommentChar c && c != '\''

/-- Whether a character may stand in a key without quotes. -/
def isBare (c : Char) : Bool :=
  ('a' ≤ c && c ≤ 'z') || ('A' ≤ c && c ≤ 'Z') || ('0' ≤ c && c ≤ '9') || c == '_' || c == '-'

/-! ### Blanks and lines -/

/-- A text without blanks in front. -/
def skipBlanks (cs : List Char) : List Char := cs.dropWhile isBlank

/-- A line break at the front of a text. -/
def lineBreak? : List Char → Option (List Char)
  | '\n' :: r => some r
  | '\x0d' :: '\n' :: r => some r
  | _ => none

/-- A text without the comment in front of it, if there is one. -/
def skipComment : List Char → List Char
  | '#' :: r => r.dropWhile isCommentChar
  | cs => cs

/-- The end of a line: blanks, a comment, and a line break or the end of the text. -/
def endLine (cs : List Char) : Option (List Char) :=
  match skipComment (skipBlanks cs) with
  | [] => some []
  | cs => lineBreak? cs

/-- A text without blanks, comments and line breaks in front, at most `fuel` of them. -/
def skipLinesFrom : Nat → List Char → List Char
  | 0, cs => cs
  | fuel + 1, cs =>
    match skipComment (skipBlanks cs) with
    | '\n' :: r => skipLinesFrom fuel r
    | '\x0d' :: '\n' :: r => skipLinesFrom fuel r
    | cs => cs

/-- A text without blanks, comments and line breaks in front. -/
def skipLines (cs : List Char) : List Char := skipLinesFrom cs.length cs

/-! ### Texts in quotes -/

/-- The character with a code point, if there is one. -/
def ofCodePoint? (n : Nat) : Option Char := if n.isValidChar then some (Char.ofNat n) else none

/-- The character that some digits to base sixteen stand for. -/
def codePoint? (digits : List Char) : Option Char := do
  let values ← digits.mapM Text.hexValue?
  ofCodePoint? (values.foldl (fun n v => n * 16 + v) 0)

/-- The character of an escape with a letter. -/
def letterEscape? : Char → Option Char
  | 'b' => some '\x08'
  | 't' => some '\t'
  | 'n' => some '\n'
  | 'f' => some '\x0c'
  | 'r' => some '\x0d'
  | '"' => some '"'
  | '\\' => some '\\'
  | _ => none

/-- The rest of a text in double quotes on one line, after the characters that were read
already, the last one first. -/
def plainFrom (read : List Char) : Reader String
  | [] => none
  | '"' :: r => some (String.ofList read.reverse, r)
  | '\\' :: 'u' :: a :: b :: c :: d :: r =>
    match codePoint? [a, b, c, d] with
    | none => none
    | some x => plainFrom (x :: read) r
  | '\\' :: 'U' :: a :: b :: c :: d :: e :: f :: g :: h :: r =>
    match codePoint? [a, b, c, d, e, f, g, h] with
    | none => none
    | some x => plainFrom (x :: read) r
  | '\\' :: e :: r =>
    match letterEscape? e with
    | none => none
    | some x => plainFrom (x :: read) r
  | c :: r => if isPlain c then plainFrom (c :: read) r else none

/-- The rest of a text in single quotes on one line. -/
def literalFrom (read : List Char) : Reader String
  | [] => none
  | '\'' :: r => some (String.ofList read.reverse, r)
  | c :: r => if isLiteral c then literalFrom (c :: read) r else none

/-- Where a text over several lines stands. -/
inductive Joint where
  /-- Between two characters. -/
  | none
  /-- After a backslash and blanks: a line break must follow. -/
  | awaited
  /-- After such a line break: blanks and line breaks do not count. -/
  | passed
deriving DecidableEq

/-- The rest of a text in three double quotes. Up to two quotes in a row belong to the text, in
front of the closing ones too. A backslash at the end of a line joins it to the next character
that is not blank. -/
def longPlainFrom (joint : Joint) (read : List Char) : Reader String
  | [] => none
  | '\n' :: r =>
    match joint with
    | .none => longPlainFrom .none ('\n' :: read) r
    | _ => longPlainFrom .passed read r
  | '\x0d' :: '\n' :: r =>
    match joint with
    | .none => longPlainFrom .none ('\n' :: read) r
    | _ => longPlainFrom .passed read r
  | ' ' :: r => longPlainFrom joint (if joint = .none then ' ' :: read else read) r
  | '\t' :: r => longPlainFrom joint (if joint = .none then '\t' :: read else read) r
  | '"' :: '"' :: '"' :: '"' :: '"' :: r =>
    if joint = .awaited then none else some (String.ofList ('"' :: '"' :: read).reverse, r)
  | '"' :: '"' :: '"' :: '"' :: r =>
    if joint = .awaited then none else some (String.ofList ('"' :: read).reverse, r)
  | '"' :: '"' :: '"' :: r =>
    if joint = .awaited then none else some (String.ofList read.reverse, r)
  | '\\' :: 'u' :: a :: b :: c :: d :: r =>
    match joint, codePoint? [a, b, c, d] with
    | .awaited, _ => none
    | _, none => none
    | _, some x => longPlainFrom .none (x :: read) r
  | '\\' :: 'U' :: a :: b :: c :: d :: e :: f :: g :: h :: r =>
    match joint, codePoint? [a, b, c, d, e, f, g, h] with
    | .awaited, _ => none
    | _, none => none
    | _, some x => longPlainFrom .none (x :: read) r
  | '\\' :: '\n' :: r =>
    if joint = .awaited then none else longPlainFrom .passed read r
  | '\\' :: '\x0d' :: '\n' :: r =>
    if joint = .awaited then none else longPlainFrom .passed read r
  | '\\' :: e :: r =>
    if joint = .awaited then none
    else if isBlank e then longPlainFrom .awaited read r
    else
      match letterEscape? e with
      | none => none
      | some x => longPlainFrom .none (x :: read) r
  | c :: r =>
    if joint = .awaited then none
    else if isPlain c || c == '"' then longPlainFrom .none (c :: read) r
    else none

/-- The rest of a text in three single quotes. Up to two quotes in a row belong to the text, in
front of the closing ones too. -/
def longLiteralFrom (read : List Char) : Reader String
  | [] => none
  | '\n' :: r => longLiteralFrom ('\n' :: read) r
  | '\x0d' :: '\n' :: r => longLiteralFrom ('\n' :: read) r
  | '\'' :: '\'' :: '\'' :: '\'' :: '\'' :: r =>
    some (String.ofList ('\'' :: '\'' :: read).reverse, r)
  | '\'' :: '\'' :: '\'' :: '\'' :: r => some (String.ofList ('\'' :: read).reverse, r)
  | '\'' :: '\'' :: '\'' :: r => some (String.ofList read.reverse, r)
  | c :: r => if isLiteral c || c == '\'' then longLiteralFrom (c :: read) r else none

/-- A text without a line break at its front. -/
def skipLineBreak (cs : List Char) : List Char := (lineBreak? cs).getD cs

/-- **A text in quotes**, of any kind. -/
def quotedText : Reader String
  | '"' :: '"' :: '"' :: r => longPlainFrom .none [] (skipLineBreak r)
  | '"' :: r => plainFrom [] r
  | '\'' :: '\'' :: '\'' :: r => longLiteralFrom [] (skipLineBreak r)
  | '\'' :: r => literalFrom [] r
  | _ => none

/-! ### Keys -/

/-- How many parts a key may have. -/
def pathLimit : Nat := 79

/-- One part of a key: in quotes on one line, or of bare characters. -/
def keyPart : Reader String
  | '"' :: r => plainFrom [] r
  | '\'' :: r => literalFrom [] r
  | cs =>
    let bare := cs.takeWhile isBare
    if bare.isEmpty then none else some (String.ofList bare, cs.dropWhile isBare)

/-- A key of at most so many parts, with blanks around each. -/
def pathFrom : Nat → Reader (List String)
  | 0, _ => none
  | limit + 1, cs => do
    let (part, cs) ← keyPart (skipBlanks cs)
    match skipBlanks cs with
    | '.' :: r => (pathFrom limit r).map fun more => (part :: more.1, more.2)
    | cs => some ([part], cs)

/-- **A key** of one or more parts between dots. -/
def path (cs : List Char) : Option (List String × List Char) := pathFrom pathLimit cs

end KeyedPool.Toml
