import KeyedPool.Toml.Node
import KeyedPool.Toml.Number

/-!
# Values of TOML

* `KeyedPool.Toml.value`: a value of any kind.
-/

namespace KeyedPool.Toml

/-- How deep lists and tables within a value may be nested. -/
def depthLimit : Nat := 79

/-- The rest of a list that was begun, after the values that were read already, the last one
first. A comma may stand after the last value; blanks, comments and line breaks may stand
anywhere. -/
def itemsFrom (value : Reader Document) (read : List Document) :
    Nat → Reader (List Document)
  | 0, _ => none
  | fuel + 1, cs =>
    match skipLines cs with
    | ']' :: r => some (read.reverse, r)
    | cs => do
      let (item, cs) ← value cs
      match skipLines cs with
      | ',' :: r => itemsFrom value (item :: read) fuel r
      | ']' :: r => some ((item :: read).reverse, r)
      | _ => none

/-- The rest of a table on one line that holds at least one more entry. No comma may stand after
the last entry. -/
def entriesFrom (value : Reader Document) (read : Node) : Nat → Reader Node
  | 0, _ => none
  | fuel + 1, cs => do
    let (path, cs) ← path cs
    let cs ← mark '=' cs
    let (item, cs) ← value (skipBlanks cs)
    let read ← read.define path item
    match skipBlanks cs with
    | ',' :: r => entriesFrom value read fuel r
    | '\x7d' :: r => some (read, r)
    | _ => none

/-- A table on one line, after its brace. -/
def inlineTable (value : Reader Document) (cs : List Char) : Option (Document × List Char) :=
  match skipBlanks cs with
  | '\x7d' :: r => some (.map [], r)
  | cs => (entriesFrom value .empty cs.length cs).map fun t => (t.1.toDocument, t.2)

/-- A word that stands for a value. -/
def word (w : String) (value : Document) (cs : List Char) : Option (Document × List Char) :=
  if w.toList.isPrefixOf cs then some (value, cs.drop w.length) else none

/-- **A value** whose lists and tables are nested at most so deep. -/
def value : Nat → Reader Document
  | depth, cs =>
    match cs with
    | [] => none
    | '"' :: _ => (quotedText cs).map fun t => (.text t.1, t.2)
    | '\'' :: _ => (quotedText cs).map fun t => (.text t.1, t.2)
    | '[' :: r =>
      match depth with
      | 0 => none
      | depth + 1 => (itemsFrom (value depth) [] cs.length r).map fun l => (.list l.1, l.2)
    | '\x7b' :: r =>
      match depth with
      | 0 => none
      | depth + 1 => inlineTable (value depth) r
    | 't' :: _ => word "true" (.bool true) cs
    | 'f' :: _ => word "false" (.bool false) cs
    | cs => if beginsDate cs || beginsTime cs then dateOrTime cs else number cs

end KeyedPool.Toml
