import KeyedPool.Toml.Value

/-!
# TOML

Files in TOML notation, version 1.0.

* `KeyedPool.Toml.Line`: what a line of a file does.
* `KeyedPool.Toml.read?`: the document that a text writes.
-/

namespace KeyedPool.Toml

/-- What a line of a file does. -/
inductive Line where
  /-- Nothing. -/
  | blank
  /-- It begins a table. -/
  | table (path : List String)
  /-- It begins the next table of a list. -/
  | item (path : List String)
  /-- It gives a key its value. -/
  | entry (path : List String) (value : Document)

/-- One line, which may go over several lines of the text where its value does. -/
def line (cs : List Char) : Option (Line × List Char) :=
  match skipBlanks cs with
  | '[' :: '[' :: r => do
    let (path, cs) ← path r
    let cs ← mark ']' cs
    let cs ← mark ']' cs
    some (.item path, ← endLine cs)
  | '[' :: r => do
    let (path, cs) ← path r
    let cs ← mark ']' cs
    some (.table path, ← endLine cs)
  | cs =>
    match endLine cs with
    | some rest => some (.blank, rest)
    | none => do
      let (path, cs) ← path cs
      let cs ← mark '=' cs
      let (item, cs) ← value depthLimit (skipBlanks cs)
      some (.entry path item, ← endLine cs)

/-- The lines of a text, at most so many. -/
def linesFrom (read : List Line) : Nat → List Char → Option (List Line)
  | _, [] => some read.reverse
  | 0, _ => none
  | fuel + 1, cs => do
    let (l, cs) ← line cs
    linesFrom (l :: read) fuel cs

/-- The file that a list of lines builds, after a part of it was built and a table was begun at some
path. -/
def build (file : Node) (current : List String) : List Line → Option Node
  | [] => some file
  | .blank :: ls => build file current ls
  | .table path :: ls => do build (← file.openTable path) path ls
  | .item path :: ls => do build (← file.openItem path) path ls
  | .entry path value :: ls => do
    build (← Node.descend .implied (Node.define path value) current file) current ls

/-- A text without the mark that tells the order of its bytes. -/
def skipByteOrderMark : List Char → List Char
  | '\ufeff' :: r => r
  | cs => cs

/-- **The document that a text writes**, if it is TOML. -/
def read? (s : String) : Option Document := do
  let cs := skipByteOrderMark s.toList
  let lines ← linesFrom [] cs.length cs
  let file ← build .empty [] lines
  some file.toDocument

end KeyedPool.Toml
