import KeyedPool.Settings.Document
import KeyedPool.Toml

/-!
# Settings in a file

Settings are read from a file in TOML notation. An example file can be written, which gives the
defaults and names every setting.

* `KeyedPool.Place`: what there is under a path.
* `KeyedPool.Settings.load`: the settings in a file.
* `KeyedPool.Settings.writeExample`: writing the example.
-/

namespace KeyedPool

/-- What there is under a path. -/
inductive Place where
  /-- Nothing, and nothing can be put there. -/
  | missing
  /-- A directory. -/
  | directory
  /-- A file, or the place for one. -/
  | file (content : ByteArray)

/-- Why settings cannot be loaded. -/
inductive LoadError where
  /-- The file is not a document of settings. -/
  | unreadable
  /-- The file cannot be read, or a program cannot run with its settings. -/
  | refused (e : PoolError)

namespace Place

/-- What is reported where there is nothing. -/
def missingText : String := "No such file or directory (os error 2)"

/-- What is reported where there is a directory. -/
def directoryText : String := "Is a directory (os error 21)"

/-- What is reported of a file that is not a text. -/
def notTextText : String := "stream did not contain valid UTF-8"

/-- The text of a file. -/
def readText : Place → Except PoolError String
  | .missing => .error (.file missingText)
  | .directory => .error (.file directoryText)
  | .file content =>
    match String.fromUTF8? content with
    | none => .error (.file notTextText)
    | some text => .ok text

/-- What there is after a text was written, in place of what there was before. -/
def writeText (text : String) : Place → Except PoolError Place
  | .missing => .error (.file missingText)
  | .directory => .error (.file directoryText)
  | .file _ => .ok (.file text.toUTF8)

end Place

namespace Settings

/-- The settings that a text gives. Values of a list beyond the last setting do not matter. -/
def parse? (text : String) : Option Settings := (Toml.read? text).bind (ofDocument? .ignored)

/-- **The settings in a file**, if a program can run with them. -/
def load (p : Place) : Except LoadError Settings :=
  match p.readText with
  | .error e => .error (.refused e)
  | .ok text =>
    match parse? text with
    | none => .error .unreadable
    | some s =>
      match s.check with
      | .error e => .error (.refused e)
      | .ok _ => .ok s

/-- An example of a file of settings. -/
def exampleText : String :=
  "[pool]\n" ++
  "dbname = \"postgres\"\n" ++
  "# max_connections = 10  # Unset means no cap\n" ++
  "connection_timeout_ms = 5000\n" ++
  "idle_connection_timeout_ms = 60000\n" ++
  "poll_interval_ms = 10\n" ++
  "# prune_interval_ms = 30000  # Unset means prune only on acquire\n" ++
  "\n" ++
  "[logging]\n" ++
  "level = \"info\"  # Options: \"trace\", \"debug\", \"info\", \"warn\", \"error\"\n" ++
  "format = \"pretty\"  # Options: \"pretty\", \"json\"\n"

/-- Writes the example to a place. -/
def writeExample (p : Place) : Except PoolError Place := p.writeText exampleText

end Settings

end KeyedPool
