import KeyedPool.Document

/-!
# Tables under construction

A TOML file builds its tables piece by piece, and most pieces may be given only once. A node
remembers how a table came to be, which decides what may still be added to it. A table with a header
of its own is not given another, nor is it reached by a key of several parts; a table that such a
key made gets no header, though a table inside it may; and a table that only the header of an inner
one implied may get its own later, once.

* `KeyedPool.Toml.Node`: a value, a table, or tables one after the other.
* `KeyedPool.Toml.Node.define`: a key gets its value.
* `KeyedPool.Toml.Node.openTable`, `KeyedPool.Toml.Node.openItem`: a header begins a table, or
  the next one of a list.
* `KeyedPool.Toml.Node.toDocument`: what was built.
-/

namespace KeyedPool.Toml

/-- How a table came to be. -/
inductive Origin where
  /-- A header of its own, or the file itself. -/
  | stated
  /-- The header of a table inside. -/
  | implied
  /-- A key of several parts. -/
  | dotted
deriving DecidableEq

/-- Something under construction. -/
inductive Node where
  /-- A value, to which nothing can be added. -/
  | leaf (value : Document)
  /-- A table. -/
  | table (origin : Origin) (entries : List (String × Node))
  /-- Tables one after the other. -/
  | tables (items : List Node)
deriving Inhabited

namespace Node

/-- The file before its first line. -/
def empty : Node := .table .stated []

/-- Entries with one of them in place of those with the same name. -/
def replace (entries : List (String × Node)) (name : String) (node : Node) :
    List (String × Node) :=
  entries.map fun e => if e.1 = name then (name, node) else e

/-- **Changes the table at the end of a path.** A table that is missing on the way is put there,
with the origin `made`. In a list of tables the way leads into the last one. It does not lead
into a value, nor, for a key of several parts, into a table with a header of its own. -/
def descend (made : Origin) (f : Node → Option Node) : List String → Node → Option Node
  | [], node => f node
  | part :: path, .table origin entries =>
    match entries.lookup part with
    | none => do
      let child ← descend made f path (.table made [])
      some (.table origin (entries ++ [(part, child)]))
    | some (.leaf _) => none
    | some (.tables items) => do
      let child ← descend made f path (items.getLastD empty)
      some (.table origin (replace entries part (.tables (items.dropLast ++ [child]))))
    | some (.table childOrigin childEntries) =>
      if made = .dotted ∧ childOrigin = .stated then none
      else do
        let child ← descend made f path (.table childOrigin childEntries)
        some (.table origin (replace entries part child))
  | _ :: _, _ => none

/-- Gives a key its value in a table that was reached through a path. At the end of a path of
several parts there must be a table that such a path made, and only there. -/
def assign (throughPath : Bool) (name : String) (value : Document) : Node → Option Node
  | .table origin entries =>
    if (origin == .dotted) != throughPath then none
    else if (entries.lookup name).isSome then none
    else some (.table origin (entries ++ [(name, .leaf value)]))
  | _ => none

/-- **A key of one or more parts gets its value.** -/
def define (path : List String) (value : Document) (node : Node) : Option Node :=
  match path.getLast? with
  | none => none
  | some name =>
    descend .dotted (assign (1 < path.length) name value) path.dropLast node

/-- **A header begins a table.** There may be a table already, but only one that the header of a
table inside has brought about. -/
def openTable (path : List String) (node : Node) : Option Node :=
  match path.getLast? with
  | none => none
  | some name =>
    let enter : Node → Option Node
      | .table origin entries =>
        match entries.lookup name with
        | none => some (.table origin (entries ++ [(name, empty)]))
        | some (.table .implied inner) =>
          some (.table origin (replace entries name (.table .stated inner)))
        | some _ => none
      | _ => none
    descend .implied enter path.dropLast node

/-- **A header begins the next table of a list.** -/
def openItem (path : List String) (node : Node) : Option Node :=
  match path.getLast? with
  | none => none
  | some name =>
    let enter : Node → Option Node
      | .table origin entries =>
        match entries.lookup name with
        | none => some (.table origin (entries ++ [(name, .tables [empty])]))
        | some (.tables items) =>
          some (.table origin (replace entries name (.tables (items ++ [empty]))))
        | some _ => none
      | _ => none
    descend .implied enter path.dropLast node

mutual

/-- **What was built.** -/
def toDocument : Node → Document
  | .leaf value => value
  | .table _ entries => .map (toEntries entries)
  | .tables items => .list (toItems items)

/-- What the entries of a table have become. -/
def toEntries : List (String × Node) → List (String × Document)
  | [] => []
  | (name, node) :: rest => (name, toDocument node) :: toEntries rest

/-- What the tables of a list have become. -/
def toItems : List Node → List Document
  | [] => []
  | node :: rest => toDocument node :: toItems rest

end

end Node

end KeyedPool.Toml
