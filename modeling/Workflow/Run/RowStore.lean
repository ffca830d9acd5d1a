import Workflow.Json.Printer
import Workflow.Run.Suspension

/-!
# Stores of rows

A `RowStore` keeps suspended runs as rows of text, as a database does: the run as JSON text, and the
times that rows are selected and ordered by in a form with a fixed number of digits.  A row is read
back only when a run is asked for, and that can fail.
-/

namespace Workflow

/-- A suspended run as text. -/
structure StoredRow where
  run : RunId
  /-- The run as JSON text. -/
  text : String
  suspendedAt : String
  expiresAt : Option String
deriving DecidableEq, Repr

namespace StoredRow

/-- The row of a run. -/
def ofRun (suspended : SuspendedRun) : StoredRow :=
  ⟨suspended.run, suspended.toJson.render, suspended.suspendedAt.renderMicros,
    suspended.expiresAt.map Instant.renderMicros⟩

/-- The run that a row holds. -/
def read (row : StoredRow) : Except Error SuspendedRun :=
  match Wire.ofText SuspendedRun.decoder row.text with
  | .ok suspended => .ok suspended
  | .error fault => .error (.json fault.message)

end StoredRow

/-- Rows in the order in which they were saved. -/
structure RowStore where
  rows : List StoredRow
deriving DecidableEq, Repr

namespace RowStore

/-- Nothing kept. -/
def empty : RowStore :=
  ⟨[]⟩

/-- The row of a run. -/
def find? (store : RowStore) (run : RunId) : Option StoredRow :=
  store.rows.find? fun row => row.run = run

/-- The store without the row of a run. -/
def erase (store : RowStore) (run : RunId) : RowStore :=
  ⟨store.rows.filter fun row => row.run ≠ run⟩

/-- Keep a run, in place of an earlier one with the same id. -/
def save (store : RowStore) (suspended : SuspendedRun) : RowStore :=
  ⟨(store.erase suspended.run).rows ++ [StoredRow.ofRun suspended]⟩

/-- Hand out a run and keep it no longer, whether or not its row can be read. -/
def take (store : RowStore) (run : RunId) : Except Error SuspendedRun × RowStore :=
  match store.find? run with
  | some row => (row.read, store.erase run)
  | none => (.error (.runNotFound run), store)

/-- A stage of a take at which the database can fail. -/
inductive TakeStage where
  | lock
  | start
  | load
  | delete
  | commit
deriving DecidableEq, Repr

/-- What is reported of a failure at a stage. -/
def TakeStage.report (cause : String) : TakeStage → String
  | lock => cause
  | start => s!"Failed to begin transaction: {cause}"
  | load => s!"Failed to load suspended run: {cause}"
  | delete => s!"Failed to delete suspended run: {cause}"
  | commit => s!"Failed to commit: {cause}"

/-- Whether a stage comes before it is known if there is a row. -/
def TakeStage.beforeRow : TakeStage → Bool
  | lock | start | load => true
  | delete | commit => false

/-- Hand out a run, where the database may fail at a stage.  A transaction that is not committed
changes nothing. -/
def takeWith (store : RowStore) (run : RunId) :
    Option (TakeStage × String) → Except Error SuspendedRun × RowStore
  | none => store.take run
  | some (stage, cause) =>
    if stage.beforeRow || (store.find? run).isSome then
      (.error (.store (stage.report cause)), store)
    else (.error (.runNotFound run), store)

/-- The runs of a list of rows; one that cannot be read is a failure of the whole. -/
def readAll : List StoredRow → Except Error (List SuspendedRun)
  | [] => .ok []
  | row :: rest =>
    match row.read with
    | .error error => .error error
    | .ok suspended => (readAll rest).map (suspended :: ·)

/-- All runs in the order of the texts of their times. -/
def list (store : RowStore) : Except Error (List SuspendedRun) :=
  readAll (store.rows.mergeSort fun a b => a.suspendedAt ≤ b.suspendedAt)

/-- Whether the text of a row's deadline is at or before the text of an instant. -/
def isDue (now : String) (row : StoredRow) : Bool :=
  row.expiresAt.any fun deadline => deadline ≤ now

/-- The runs whose time for an answer is over, in the order of the texts of their deadlines. -/
def expired (store : RowStore) (now : Instant) : Except Error (List SuspendedRun) :=
  readAll ((store.rows.filter (isDue now.renderMicros)).mergeSort fun a b =>
    a.expiresAt.getD "" ≤ b.expiresAt.getD "")

instance : SuspensionStore RowStore where
  save store suspended := .ok (store.save suspended)
  take := take
  get store run :=
    match store.find? run with
    | some row => row.read.map some
    | none => .ok none
  list := list
  expired := expired
  remove store run := ((store.find? run).isSome, store.erase run)

end RowStore

end Workflow
