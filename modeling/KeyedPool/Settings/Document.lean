import KeyedPool.Document
import KeyedPool.Settings

/-!
# Settings as documents

Settings are written as a map with every field, and read with a default for every field that is left
out.

* `KeyedPool.PoolSettings.toDocument`, `KeyedPool.PoolSettings.ofDocument?`: the settings of a pool.
* `KeyedPool.LogSettings.toDocument`, `KeyedPool.LogSettings.ofDocument?`: the settings of the log.
* `KeyedPool.Settings.toDocument`, `KeyedPool.Settings.ofDocument?`: all settings.
* `KeyedPool.Settings.ofDocument?_toDocument`: settings are read as they were written.
-/

namespace KeyedPool

open Document (Surplus)

namespace PoolSettings

/-- The names of the settings of a pool, in their order. -/
def fieldNames : List String :=
  ["dbname", "max_connections", "connection_timeout_ms", "idle_connection_timeout_ms",
   "poll_interval_ms", "prune_interval_ms"]

/-- The document of the settings of a pool. -/
def toDocument (s : PoolSettings) : Document :=
  .map (fieldNames.zip
    [.text s.database, .ofOptional s.maxConnections, .int s.connectionTimeout,
     .int s.idleTimeout, .int s.pollInterval, .ofOptional s.pruneInterval])

/-- The settings of a pool that a document gives. -/
def ofDocument? (surplus : Surplus) (d : Document) : Option PoolSettings := do
  let missing : PoolSettings := {}
  match ← d.fields? surplus fieldNames with
  | [database, limit, timeout, idle, poll, prune] =>
    some {
      database := ← Document.orElse? missing.database Document.text? database
      maxConnections := ← Document.orElse? none (Document.optional? Document.count?) limit
      connectionTimeout := ← Document.orElse? missing.connectionTimeout Document.count? timeout
      idleTimeout := ← Document.orElse? missing.idleTimeout Document.count? idle
      pollInterval := ← Document.orElse? missing.pollInterval Document.count? poll
      pruneInterval := ← Document.orElse? none (Document.optional? Document.count?) prune }
  | _ => none

/-- Whether every number of the settings fits a document. -/
def IsStorable (s : PoolSettings) : Prop :=
  (∀ n ∈ s.maxConnections, n ≤ Document.countMax) ∧ s.connectionTimeout ≤ Document.countMax ∧
    s.idleTimeout ≤ Document.countMax ∧ s.pollInterval ≤ Document.countMax ∧
    ∀ n ∈ s.pruneInterval, n ≤ Document.countMax

/-- **Settings are read as they were written.** -/
theorem ofDocument?_toDocument (surplus : Surplus) {s : PoolSettings} (h : s.IsStorable) :
    ofDocument? surplus s.toDocument = some s := by
  obtain ⟨hlimit, htimeout, hidle, hpoll, hprune⟩ := h
  simp [ofDocument?, toDocument, Document.fields?, fieldNames, List.lookup_cons, Document.orElse?,
    Document.optional?_ofOptional hlimit, Document.count?_int htimeout,
    Document.count?_int hidle, Document.count?_int hpoll, Document.optional?_ofOptional hprune]

end PoolSettings

namespace LogSettings

/-- The names of the settings of the log, in their order. -/
def fieldNames : List String := ["level", "format"]

/-- The document of the settings of the log. -/
def toDocument (s : LogSettings) : Document :=
  .map (fieldNames.zip [.text s.level, .text s.format])

/-- The settings of the log that a document gives. -/
def ofDocument? (surplus : Surplus) (d : Document) : Option LogSettings := do
  let missing : LogSettings := {}
  match ← d.fields? surplus fieldNames with
  | [level, format] =>
    some {
      level := ← Document.orElse? missing.level Document.text? level
      format := ← Document.orElse? missing.format Document.text? format }
  | _ => none

/-- **Settings are read as they were written.** -/
theorem ofDocument?_toDocument (surplus : Surplus) (s : LogSettings) :
    ofDocument? surplus s.toDocument = some s := by
  simp [ofDocument?, toDocument, Document.fields?, fieldNames, List.lookup_cons,
    Document.orElse?]

end LogSettings

namespace Settings

/-- The names of the two parts of the settings, in their order. -/
def fieldNames : List String := ["pool", "logging"]

/-- The document of all settings. -/
def toDocument (s : Settings) : Document :=
  .map (fieldNames.zip [s.pool.toDocument, s.log.toDocument])

/-- All settings that a document gives. -/
def ofDocument? (surplus : Surplus) (d : Document) : Option Settings := do
  match ← d.fields? surplus fieldNames with
  | [pool, log] =>
    some {
      pool := ← Document.orElse? {} (PoolSettings.ofDocument? surplus) pool
      log := ← Document.orElse? {} (LogSettings.ofDocument? surplus) log }
  | _ => none

/-- **Settings are read as they were written.** -/
theorem ofDocument?_toDocument (surplus : Surplus) {s : Settings} (h : s.pool.IsStorable) :
    ofDocument? surplus s.toDocument = some s := by
  simp [ofDocument?, toDocument, Document.fields?, fieldNames, List.lookup_cons,
    Document.orElse?, PoolSettings.ofDocument?_toDocument surplus h,
    LogSettings.ofDocument?_toDocument]

end Settings

end KeyedPool
