import KeyedPool.Handle

/-!
# Options of a lease

* `KeyedPool.LeaseOptions`: what an acquire may ask for beyond a database and a time to live.
* `KeyedPool.LeaseOptions.shown`: how the options are shown.
-/

namespace KeyedPool

/-- What an acquire may ask for beyond a database and a time to live. -/
structure LeaseOptions where
  /-- How long to wait for admission; zero counts as not given. -/
  timeout : Option Duration := none
  /-- What is run once on a fresh connection. -/
  startup : Option HookPlan := none
  /-- Whether a fresh connection is kept from pruning and eviction. -/
  persistent : Bool := false

/-- How options are shown: the waiting time, whether there is a startup hook, and whether the
connection is to be persistent. -/
def LeaseOptions.shown (o : LeaseOptions) : String :=
  let timeout := o.timeout.elim "None" fun d => "Some(" ++ d.inUnits ++ ")"
  "LeaseOptions \x7b timeout: " ++ timeout ++ s!", startup: {o.startup.isSome}" ++
    s!", persistent: {o.persistent} \x7d"

end KeyedPool
