import KeyedPool.Pool.Leasing

/-!
# Leases under labels

Whoever keeps several leases at a time tells them apart by labels. To keep a lease under a label is
to lose the lease that was kept under it before.

* `KeyedPool.LeaseBook`: leases by label, no label twice.
* `KeyedPool.LeaseBook.keep`, `KeyedPool.LeaseBook.settle?`: a lease is kept, or ends.
* `KeyedPool.LeaseBook.dropAll`: every lease is lost.
-/

namespace KeyedPool

/-- Leases by label. -/
structure LeaseBook where
  /-- Label and lease, in the order in which the leases were kept. -/
  entries : List (String × Lease) := []
  /-- No label occurs twice. -/
  nodup : (entries.map Prod.fst).Nodup := by exact List.nodup_nil

namespace LeaseBook

instance : Inhabited LeaseBook := ⟨{}⟩

/-- The leases of a book. -/
def leases (b : LeaseBook) : List Lease := b.entries.map Prod.snd

/-- The lease under a label. -/
def find? (b : LeaseBook) (label : String) : Option Lease := b.entries.lookup label

/-- A book keeps distinct labels when some leases leave it. -/
theorem nodup_filter (b : LeaseBook) (p : String × Lease → Bool) :
    ((b.entries.filter p).map Prod.fst).Nodup :=
  b.nodup.sublist (List.filter_sublist.map Prod.fst)

/-- The book without a label. -/
def erase (b : LeaseBook) (label : String) : LeaseBook :=
  ⟨b.entries.filter (·.1 != label), b.nodup_filter _⟩

/-- The book with a lease under a label, in place of what was there. -/
def put (b : LeaseBook) (label : String) (l : Lease) : LeaseBook where
  entries := (b.erase label).entries ++ [(label, l)]
  nodup := by
    simp only [List.map_append, List.map_cons, List.map_nil, List.nodup_append]
    exact ⟨b.nodup_filter _, by simp, by simp [erase]⟩

/-- **A lease is kept under a label.** The lease that was kept under it before is lost. -/
def keep (b : LeaseBook) (label : String) (l : Lease) (p : Pool) : LeaseBook × Pool :=
  (b.put label l, (b.find? label).elim p fun old => p.settle old .drop)

/-- **The lease under a label ends**, if there is one. -/
def settle? (b : LeaseBook) (label : String) (how : Disposal) (p : Pool) :
    Option (LeaseBook × Pool) :=
  (b.find? label).map fun l => (b.erase label, p.settle l how)

/-- Every lease is lost, the latest first. -/
def dropAll (b : LeaseBook) (p : Pool) : Pool :=
  b.leases.foldr (fun l p => p.settle l .drop) p

end LeaseBook

end KeyedPool
