/-!
# Lines of the log

* `KeyedPool.Severity`: how serious a line is.
* `KeyedPool.LogLine`: a line, and how it is written.
-/

namespace KeyedPool

/-- How serious a line of the log is. -/
inductive Severity where
  /-- Of interest when looking for a fault. -/
  | trace
  /-- Of interest to a developer. -/
  | debug
  /-- Something to look at. -/
  | warn
  /-- Something that went wrong. -/
  | error
deriving DecidableEq

/-- The name of a severity in the log. -/
def Severity.name : Severity → String
  | .trace => "TRACE"
  | .debug => "DEBUG"
  | .warn => "WARN"
  | .error => "ERROR"

/-- One line of the log. -/
structure LogLine where
  /-- How serious it is. -/
  severity : Severity
  /-- What it says. -/
  message : String

/-- A line of the log as it is written. -/
def LogLine.written (l : LogLine) : String := l.severity.name ++ " " ++ l.message

/-- Texts in the order of their characters. -/
def sortTexts (texts : List String) : List String := texts.mergeSort fun a b => decide (a ≤ b)

/-- Lines of the log as they are written, in the order of their characters. -/
def LogLine.sorted (lines : List LogLine) : List String := sortTexts (lines.map LogLine.written)

end KeyedPool
