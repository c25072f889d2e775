import KeyedPool.Time.Written

/-!
# Failures

What can go wrong in a pool, and the failures that callers and connections hand to it. A failure
comes from a library of errors that the pool knows nothing of, so it is described by what the pool
can learn of it: its messages, and the error of the pool for which the library takes it, if any. The
two types refer to each other: a pool error may be caused by any failure, and a failure may be taken
for a pool error.

* `KeyedPool.PoolError`: the causes that the pool itself reports.
* `KeyedPool.Failure`: what can be learned of a failure of any kind.
* `KeyedPool.PoolError.message`: what a user reads.
* `KeyedPool.Failure.chain`: the messages from the outermost context down to the first cause.
* `KeyedPool.Failure.plain`, `KeyedPool.Failure.pool`, `KeyedPool.Failure.context`: the failures
  that callers make of a text, of a pool error, and of another failure.
* `KeyedPool.PoolError.isInterruption`, `KeyedPool.Failure.isInterruption`: whether the surrounding
  operation was cancelled rather than merely failed.
-/

namespace KeyedPool

mutual

/-- The errors that a pool reports. -/
inductive PoolError where
  /-- No place became free in a pool of `limit` connections before the timeout. -/
  | full (limit : Nat) (timeout : Duration)
  /-- The connection of `database` was held by others until the timeout. -/
  | busy (database : String) (timeout : Duration)
  /-- No connection to `database` could be opened. -/
  | connect (database : String) (source : Failure)
  /-- The startup hook of a fresh connection to `database` failed. -/
  | startup (database : String) (source : Failure)
  /-- An operation on `database` was cancelled. -/
  | cancelled (database : String)
  /-- Settings are not acceptable. -/
  | settings (reason : String)
  /-- A file could not be read or written. -/
  | file (reason : String)

/-- **What can be learned of a failure** of any kind. -/
structure Failure where
  /-- Its message: that of its outermost context, if it has one. -/
  message : String
  /-- The messages of what led to it, the immediate cause first. -/
  causes : List String
  /-- The pool error that is found when one is looked for in it. -/
  poolError? : Option PoolError

end

instance : Inhabited Failure := ⟨⟨"", [], none⟩⟩

instance : Inhabited PoolError := ⟨.settings ""⟩

/-! ### What a user reads -/

/-- **The messages of a failure from its outermost context to its first cause.** -/
def Failure.chain (f : Failure) : List String := f.message :: f.causes

/-- The whole chain of a failure on one line. -/
def Failure.oneLine (f : Failure) : String := ": ".intercalate f.chain

/-- The message of a pool error. -/
def PoolError.message : PoolError → String
  | .full limit timeout =>
    s!"Could not insert connection in pool size {limit} within " ++ timeout.inSeconds ++ " seconds"
  | .busy database timeout =>
    s!"Connection for database {database} stayed busy for " ++ timeout.inSeconds ++ " seconds"
  | .connect database source => s!"Failed to connect to database {database}: " ++ source.message
  | .startup database source =>
    s!"Startup hook failed for database {database}: " ++ source.message
  | .cancelled database => s!"Operation on database {database} was cancelled"
  | .settings reason => s!"Configuration error: {reason}"
  | .file reason => s!"IO error: {reason}"

/-- The messages of everything that led to a pool error, the immediate cause first. -/
def PoolError.causes : PoolError → List String
  | .connect _ source => source.chain
  | .startup _ source => source.chain
  | .file reason => [reason]
  | _ => []

/-- The message of the immediate cause of a pool error, if it has one. -/
def PoolError.cause? (e : PoolError) : Option String := e.causes.head?

/-! ### Failures that callers make -/

namespace Failure

/-- A failure of which nothing is known but a message. -/
def plain (text : String) : Failure := ⟨text, [], none⟩

/-- An error of the pool as a failure. -/
def pool (e : PoolError) : Failure := ⟨e.message, e.causes, some e⟩

/-- A failure inside some larger undertaking, told by a text. -/
def context (inner : Failure) (text : String) : Failure := ⟨text, inner.chain, inner.poolError?⟩

/-- A failure in the given contexts, the innermost first. -/
def inContexts (f : Failure) (texts : List String) : Failure := texts.foldl context f

end Failure

/-! ### Interruptions -/

/-- Whether admission gave up waiting for a free place. -/
def PoolError.isFull : PoolError → Bool
  | .full .. => true
  | _ => false

/-- A pool error interrupts when it says itself that an operation was cancelled; what caused it does
not matter. -/
def PoolError.isInterruption : PoolError → Bool
  | .cancelled _ => true
  | _ => false

/-- A failure interrupts when the pool error that is found in it does. -/
def Failure.isInterruption (f : Failure) : Bool := f.poolError?.any PoolError.isInterruption

end KeyedPool
