import KeyedPool.Failure
import KeyedPool.Text.WhiteSpace

/-!
# Settings

How a pool is set up, and where its log goes. Durations are kept as whole milliseconds that fit a
64-bit word.

* `KeyedPool.PoolSettings`: the settings of a pool, with one function per setting that changes
  it and one that reads it.
* `KeyedPool.PoolSettings.check`: whether a pool can run with them.
* `KeyedPool.LogSettings`: level and format of the log.
* `KeyedPool.Settings`: both together.
-/

namespace KeyedPool

/-- The settings of a pool. Durations are in milliseconds. -/
structure PoolSettings where
  /-- The database of the pool's own connection. -/
  database : String := "postgres"
  /-- How many connections may be open at a time; no limit if absent. -/
  maxConnections : Option Nat := none
  /-- How long an acquire waits if it does not say so itself. -/
  connectionTimeout : Nat := 5000
  /-- How long the pool's own connection lives when it is idle. -/
  idleTimeout : Nat := 60000
  /-- The pause between two attempts of a waiting acquire. -/
  pollInterval : Nat := 10
  /-- The period of pruning in the background; none if absent or zero. -/
  pruneInterval : Option Nat := none
deriving DecidableEq, Inhabited

namespace PoolSettings

/-! ### Changing a setting -/

/-- The settings with a limit on open connections. -/
def withMaxConnections (s : PoolSettings) (limit : Nat) : PoolSettings :=
  { s with maxConnections := some limit }

/-- The settings with a waiting time for acquires. -/
def withConnectionTimeout (s : PoolSettings) (d : Duration) : PoolSettings :=
  { s with connectionTimeout := d.wholeMillis }

/-- The settings with a time to live for the pool's own connection. -/
def withIdleTimeout (s : PoolSettings) (d : Duration) : PoolSettings :=
  { s with idleTimeout := d.wholeMillis }

/-- The settings with a pause between attempts. -/
def withPollInterval (s : PoolSettings) (d : Duration) : PoolSettings :=
  { s with pollInterval := d.wholeMillis }

/-- The settings with a period of pruning in the background. -/
def withPruneInterval (s : PoolSettings) (d : Duration) : PoolSettings :=
  { s with pruneInterval := some d.wholeMillis }

/-! ### Reading a setting -/

/-- How long an acquire waits if it does not say so itself. -/
def acquireTimeout (s : PoolSettings) : Duration := .ofMillis s.connectionTimeout

/-- How long the pool's own connection lives when it is idle. -/
def mainTimeToLive (s : PoolSettings) : Duration := .ofMillis s.idleTimeout

/-- The pause between two attempts: at least a millisecond, whatever is set. -/
def retryPause (s : PoolSettings) : Duration := .ofMillis (max s.pollInterval 1)

/-- The period of pruning in the background, if there is to be any. -/
def prunePeriod? (s : PoolSettings) : Option Duration :=
  (s.pruneInterval.filter (0 < ·)).map .ofMillis

/-! ### Checking the settings -/

/-- Whether a text has nothing but white space. -/
def isBlank (s : String) : Bool := s.toList.all Text.isWhiteSpace

/-- **Whether a pool can run with the settings.** A blank name, a limit of zero and a pause of zero
are refused, in this order. -/
def check (s : PoolSettings) : Except PoolError Unit :=
  if isBlank s.database then .error (.settings "pool.dbname cannot be empty")
  else if s.maxConnections = some 0 then
    .error (.settings "pool.max_connections must be greater than 0")
  else if s.pollInterval = 0 then
    .error (.settings "pool.poll_interval_ms must be greater than 0")
  else .ok ()

end PoolSettings

/-! ### The log -/

/-- Level and format of the log. -/
structure LogSettings where
  /-- Which events are logged. -/
  level : String := "info"
  /-- The format of the log, by name. -/
  format : String := "pretty"
deriving DecidableEq, Inhabited

/-- The formats that a log can have. -/
inductive LogFormat where
  /-- Lines for a reader. -/
  | pretty
  /-- One document per line. -/
  | json
deriving DecidableEq

/-- The log format with a name, or what is reported for a name that no format has. -/
def LogFormat.ofName (name : String) : Except PoolError LogFormat :=
  if name = "pretty" then .ok .pretty
  else if name = "json" then .ok .json
  else .error (.settings s!"Invalid log format: {name}. Must be 'pretty' or 'json'")

/-! ### All settings -/

/-- All settings. -/
structure Settings where
  /-- The pool. -/
  pool : PoolSettings := {}
  /-- The log. -/
  log : LogSettings := {}
deriving DecidableEq, Inhabited

/-- Whether a program can run with the settings: first the pool, then the format of the log. -/
def Settings.check (s : Settings) : Except PoolError Unit := do
  s.pool.check
  let _ ← LogFormat.ofName s.log.format

end KeyedPool
