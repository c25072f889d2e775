import KeyedPool.LogFilter
import KeyedPool.Settings

/-!
# Setting up the log

A program has one log, which can be set up once.

* `KeyedPool.LogSetupError`: why the log cannot be set up.
* `KeyedPool.LogSettings.install`: setting it up.
-/

namespace KeyedPool

/-- Why the log cannot be set up. -/
inductive LogSetupError where
  /-- The level is not a filter. -/
  | level
  /-- The format is not known. -/
  | format (e : PoolError)
  /-- There is a log already. -/
  | installed

/-- **Sets the log up**, unless there is one already. The level is looked at first, then the
format. -/
def LogSettings.install (s : LogSettings) (installed : Bool) : Except LogSetupError Unit :=
  match LogFilter.read? s.level with
  | none => .error .level
  | some _ =>
    match LogFormat.ofName s.format with
    | .error e => .error (.format e)
    | .ok _ => if installed then .error .installed else .ok ()

/-- The results of setting the log up several times, one after the other. -/
def installAll (installed : Bool) : List LogSettings → List (Except LogSetupError Unit)
  | [] => []
  | s :: rest =>
    let result := s.install installed
    result :: installAll (installed || (match result with | .ok _ => true | .error _ => false)) rest

end KeyedPool
