import Workflow.Run.RowStore

/-!
# Stores with a fault

Stores for suspended runs as they behave on a bad day, beside the two that work.
-/

namespace Workflow.Rehearsal

/-- What is wrong with a store. -/
inductive StoreFault where
  /-- Nothing can be saved, taken or listed. -/
  | failing
  /-- Runs are never found. -/
  | losing
  /-- Nothing can be taken. -/
  | stuck
  /-- Nothing more can be saved. -/
  | full
deriving DecidableEq, Repr

/-- A store of one of the kinds that rehearsals use. -/
inductive AnyStore where
  | memory (store : MemoryStore)
  | rows (store : RowStore)
  | faulty (fault : StoreFault) (store : MemoryStore)
deriving DecidableEq, Repr

namespace AnyStore

/-- The failure of a store that cannot be reached. -/
def gone : Error :=
  .store "disk gone"

/-- Keep a run. -/
def save (kept : AnyStore) (suspended : SuspendedRun) : Except Error AnyStore :=
  match kept with
  | memory store => .ok (memory (store.save suspended))
  | rows store => .ok (rows (store.save suspended))
  | faulty .failing _ => .error (.store "disk full")
  | faulty .full _ => .error (.store "store is full")
  | faulty fault store => .ok (faulty fault (store.save suspended))

/-- Hand out a run. -/
def take (kept : AnyStore) (run : RunId) : Except Error SuspendedRun × AnyStore :=
  match kept with
  | memory store => (store.take run).map id memory
  | rows store => (store.take run).map id rows
  | faulty .losing store => (.error (.runNotFound run), faulty .losing store)
  | faulty fault store => (.error gone, faulty fault store)

/-- Look at a run. -/
def get (kept : AnyStore) (run : RunId) : Except Error (Option SuspendedRun) :=
  match kept with
  | memory store | faulty _ store => SuspensionStore.get store run
  | rows store => SuspensionStore.get store run

/-- All runs. -/
def list (kept : AnyStore) : Except Error (List SuspendedRun) :=
  match kept with
  | faulty .failing _ => .error gone
  | memory store | faulty _ store => .ok store.list
  | rows store => store.list

/-- The runs whose time is over. -/
def expired (kept : AnyStore) (now : Instant) : Except Error (List SuspendedRun) :=
  match kept with
  | rows store => store.expired now
  | kept => kept.list.map fun runs => runs.filter fun suspended => suspended.isExpired now

/-- Keep a run no longer. -/
def remove (kept : AnyStore) (run : RunId) : Bool × AnyStore :=
  match kept with
  | memory store => (SuspensionStore.remove store run).map id memory
  | rows store => (SuspensionStore.remove store run).map id rows
  | faulty fault store => (SuspensionStore.remove store run).map id (faulty fault)

/-- The empty store of a kind; a kind that is not known stands for memory. -/
def named : String → AnyStore
  | "sqlite" | "sqlite_file" => rows .empty
  | "failing" => faulty .failing .empty
  | "losing" => faulty .losing .empty
  | "stuck" => faulty .stuck .empty
  | _ => memory .empty

instance : SuspensionStore AnyStore where
  save := save
  take := take
  get := get
  list := list
  expired := expired
  remove := remove

end AnyStore

end Workflow.Rehearsal
