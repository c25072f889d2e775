import KeyedPool.Failure

/-!
# Connections and how they are opened

The pool does not speak to a database. It asks for a connection, may run a hook on it once, and
later looks at it and closes it. What these do is laid down here, so that a pool can be driven
through every case.

* `KeyedPool.Handle`: an open connection, as its owner and its peer see it.
* `KeyedPool.Handle.close`: closing it, which may fail.
* `KeyedPool.ConnectPlan`: what opening a connection does.
* `KeyedPool.HookPlan`: what a startup hook does.
-/

namespace KeyedPool

/-- An open connection. -/
structure Handle where
  /-- The database it was opened for. -/
  database : String
  /-- It was closed, by the pool or by the peer. -/
  closed : Bool := false
  /-- It reports itself unusable without having been closed. -/
  broken : Bool := false
  /-- Whether closing it fails. -/
  failClose : Bool := false
  /-- How often the pool closed it. -/
  closeCalls : Nat := 0
deriving DecidableEq

namespace Handle

/-- Whether a connection may be handed out again. -/
def isHealthy (h : Handle) : Bool := !h.closed && !h.broken

/-- The connection after an attempt to close it, and whether that worked. A failed attempt leaves it
as open as it was. -/
def close (h : Handle) : Bool × Handle :=
  (!h.failClose, { h with closeCalls := h.closeCalls + 1, closed := h.closed || !h.failClose })

/-- What is reported when the connection of a given number cannot be closed. -/
def closeFailure (h : Handle) (number : Nat) : Failure :=
  .context (.plain s!"socket {number} stuck") s!"close failed for {h.database}"

/-- The connection with the flags that are given, the others unchanged. -/
def setFlags (h : Handle) (closed broken failClose : Option Bool) : Handle :=
  { h with
    closed := closed.getD h.closed
    broken := broken.getD h.broken
    failClose := failClose.getD h.failClose }

end Handle

/-! ### Plans -/

/-- How opening a connection ends. -/
inductive ConnectResult where
  /-- The task is torn down. -/
  | crash (text : String)
  /-- There is no connection. -/
  | fail (failure : Failure)
  /-- There is a connection, with the given flags. -/
  | connected (closed broken failClose : Bool)

/-- What opening a connection does: it takes `delay` milliseconds, then ends. -/
structure ConnectPlan where
  /-- Milliseconds that it takes. -/
  delay : Nat := 0
  /-- How it ends. -/
  result : ConnectResult := .connected false false false

instance : Inhabited ConnectPlan := ⟨{}⟩

/-- How a startup hook ends. -/
inductive HookResult where
  /-- The task is torn down. -/
  | crash (text : String)
  /-- The connection is not fit for use. -/
  | fail (failure : Failure)
  /-- The connection is fit for use. -/
  | done

/-- What a startup hook does: it takes `delay` milliseconds, may break or close the connection, then
ends. -/
structure HookPlan where
  /-- Milliseconds that it takes. -/
  delay : Nat := 0
  /-- Whether the connection reports itself broken afterwards. -/
  breaks : Bool := false
  /-- Whether the connection is closed afterwards. -/
  hangsUp : Bool := false
  /-- How it ends. -/
  result : HookResult := .done

end KeyedPool
