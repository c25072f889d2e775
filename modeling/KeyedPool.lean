import KeyedPool.Check
import KeyedPool.Json
import KeyedPool.LogSetup
import KeyedPool.Session
import KeyedPool.Settings.File
import KeyedPool.Snapshot
import KeyedPool.Proofs.Account
import KeyedPool.Proofs.Custody
import KeyedPool.Proofs.Custody.Pool
import KeyedPool.Proofs.Custody.Acquire
import KeyedPool.Proofs.Custody.Deed
import KeyedPool.Proofs.Custody.Scope
import KeyedPool.Proofs.Custody.World
import KeyedPool.Proofs.Custody.Balance
import KeyedPool.Proofs.Exclusivity
import KeyedPool.Proofs.Custody.Order
import KeyedPool.Proofs.Capacity
import KeyedPool.Proofs.Conservation
import KeyedPool.Proofs.Custody.Passage
import KeyedPool.Proofs.Custody.Moment
import KeyedPool.Proofs.Custody.Departure
import KeyedPool.Proofs.Draining
import KeyedPool.Proofs.Places
import KeyedPool.Proofs.Possession
import KeyedPool.Proofs.Custody.Ending
import KeyedPool.Proofs.Custody.Grant
import KeyedPool.Proofs.FailedAcquire
import KeyedPool.Proofs.Persistence
import KeyedPool.Proofs.Generations
import KeyedPool.Proofs.Cancellation
import KeyedPool.Proofs.Admission
import KeyedPool.Proofs.Veil
import KeyedPool.Proofs.Veil.Acquire
import KeyedPool.Proofs.Veil.Abreast
import KeyedPool.Proofs.Interference
import KeyedPool.Proofs.Milestones
import KeyedPool.Proofs.Custody.Course
import KeyedPool.Proofs.Custody.Turn
import KeyedPool.Proofs.Records
import KeyedPool.Proofs.Permanence
import KeyedPool.Proofs.Reuse
import KeyedPool.Proofs.Startup
import KeyedPool.Proofs.Shedding
import KeyedPool.Proofs.Tallies
import KeyedPool.Proofs.Removals
import KeyedPool.Proofs.Queue
import KeyedPool.Proofs.Refusal
import KeyedPool.Proofs.Patience
import KeyedPool.Proofs.Closing
import KeyedPool.Proofs.Pruning
import KeyedPool.Proofs.Emptying
import KeyedPool.Proofs.Reclaiming
import KeyedPool.Proofs.Custody.Frame
import KeyedPool.Proofs.Custody.Body
import KeyedPool.Proofs.Lasting
import KeyedPool.Proofs.Sojourn
import KeyedPool.Proofs.Evicting
import KeyedPool.Proofs.ErrorKinds
import KeyedPool.Proofs.Staleness
import KeyedPool.Proofs.Reordering
import KeyedPool.Proofs.Twins
import KeyedPool.Proofs.Twins.Tasks
import KeyedPool.Proofs.WalkOrder
import KeyedPool.Proofs.Milliseconds
