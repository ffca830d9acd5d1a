import Workflow.Proofs.Manager.Orderly

/-!
# No run is executed twice

However clients, sweeps and legs come between each other, a run is in one place
at a time, and whatever takes it out of the store is the only one to do so
until it is put in again.
-/

namespace Workflow

namespace Office

variable {σ : Type} [SuspensionStore σ] [LawfulStore σ]
variable {office later : Office σ} {run : RunId}

/-- A run is executed by one leg at a time, and each of its suspensions is used
up once. -/
structure Exclusive (office : Office σ) (run : RunId) : Prop where
  /-- The store, the resumptions that are not registered yet and the legs that
  have neither begun to put the run aside nor settled: all in all, the run is
  once there. -/
  once : office.places run ≤ 1
  /-- Between two times that it was taken out of the store it was put in. -/
  alternate : (office.ledger.filter fun entry => entry.run = run).IsChain
    fun late early => late = .taken run → early ≠ .taken run
  /-- Who comes after a resumption, a sweep or a cancellation finds nothing. -/
  resumed : office.last? run = some (.taken run) →
    (office.manager.claim run).1 = .error (.runNotFound run)
  cancelled : office.last? run = some (.taken run) → office.Free →
    (office.manager.cancel run).1 = .ok .notFound ∨
      (office.manager.cancel run).1 = .ok .signalled ∧ office.active run = 1
  /-- The table names the leg that has the run in hand, unless that leg holds
  the lock to put the run aside. -/
  current : ∀ {token : Token},
    Assoc.get? office.manager.live run = some token →
      ∃ worker, office.workers[token]? = some worker ∧
        worker.task.run = run ∧ worker.task.token = token ∧
        (worker.isActive = true ∨ worker.grasp = .lock)
  /-- Nothing but the end of its own leg strikes a token off. -/
  struckOff : ∀ {token : Token} {later : Office σ},
    Assoc.get? office.manager.live run = some token → Step office later →
      Assoc.get? later.manager.live run = some token ∨
        ∃ worker, later.workers[token]? = some worker ∧
          worker.task.run = run ∧ worker.isListed = false

theorem Orderly.current (horderly : office.Orderly) {token : Token}
    (hlive : Assoc.get? office.manager.live run = some token) :
    ∃ worker, office.workers[token]? = some worker ∧
      worker.task.run = run ∧ worker.task.token = token ∧
      (worker.isActive = true ∨ worker.grasp = .lock) := by
  obtain ⟨worker, hworker, hrun, hlisted⟩ := horderly.listed_iff.mp hlive
  refine ⟨worker, hworker, hrun, horderly.token_eq hworker, ?_⟩
  by_cases hgrasp : worker.grasp = .lock
  · exact .inr hgrasp
  · exact .inl (worker.isActive_of_listed hlisted hgrasp)

theorem Orderly.cancelled (horderly : office.Orderly)
    (hgone : LawfulStore.keeps office.manager.store run = false)
    (hfree : office.Free) :
    (office.manager.cancel run).1 = .ok .notFound ∨
      (office.manager.cancel run).1 = .ok .signalled ∧
        office.active run = 1 := by
  cases hlive : Assoc.get? office.manager.live run with
  | none =>
      exact .inl (office.manager.cancel_of_absent hlive
        (LawfulStore.take_of_not_keeps hgone))
  | some token =>
      refine .inr ⟨by rw [office.manager.cancel_of_live hlive], ?_⟩
      obtain ⟨worker, hworker, hrun, -, hactive | hgrasp⟩ :=
        horderly.current hlive
      · rw [← hrun]
        exact (horderly.alone (List.mem_of_getElem? hworker) hactive).2.2
      · exact absurd hgrasp (hfree worker (List.mem_of_getElem? hworker))

theorem Orderly.struckOff (horderly : office.Orderly) {token : Token}
    (hlive : Assoc.get? office.manager.live run = some token)
    (hstep : Step office later) :
    Assoc.get? later.manager.live run = some token ∨
      ∃ worker, later.workers[token]? = some worker ∧
        worker.task.run = run ∧ worker.isListed = false := by
  obtain ⟨worker, hworker, hrun, hlisted⟩ := horderly.listed_iff.mp hlive
  have hlater := horderly.step hstep
  rcases hstep.worker hworker with hstays | ⟨_, next, _, hturn, rfl⟩
  · exact .inl (hlater.listed_iff.mpr ⟨worker, hstays, hrun, hlisted⟩)
  · have hof : next.task.run = run := hturn.same.1.trans hrun
    have hnext : (office.workers.set token next)[token]? = some next :=
      getElem?_set_self_of_getElem? hworker
    cases hleft : next.isListed with
    | true => exact .inl (hlater.listed_iff.mpr ⟨next, hnext, hof, hleft⟩)
    | false => exact .inr ⟨next, hnext, hof, hleft⟩

/-- No run is ever executed twice. -/
theorem Reachable.exclusive (hreach : Reachable office) (run : RunId) :
    office.Exclusive run := by
  have horderly := hreach.orderly
  exact {
    once := horderly.once run
    alternate := horderly.alternate run
    resumed := fun hlast =>
      LawfulStore.take_of_not_keeps (horderly.consumed hlast)
    cancelled := fun hlast => horderly.cancelled (horderly.consumed hlast)
    current := horderly.current
    struckOff := horderly.struckOff }

end Office

/-! ## A run that waits in the store -/

namespace Review

theorem suspended_fit : suspended.Fit where
  wellFormed := graph_wellFormed
  exits := by
    have hasks : (⟨"ask", none, .approval ⟨"Go on?", none, .reject⟩⟩ : Node) ∈
        graph.nodes := by simp [graph]
    exact graph_wellFormed.exists_exit hasks (by simp [NodeKind.LeavesBy])

/-- An office that finds the run in its store. -/
def stored : Office MemoryStore :=
  .opened .standard ⟨[suspended]⟩ ["run"]

theorem stored_reachable : stored.Reachable := by
  refine .opened ?_ ?_
  · intro run hkeeps
    obtain ⟨kept, hkept, rfl⟩ := Layout.keeps_iff.mp hkeeps
    obtain rfl := List.mem_singleton.mp hkept
    exact List.mem_singleton_self _
  · rintro run offered ⟨kept, hkept, hrun, hread⟩
    obtain rfl := List.mem_singleton.mp hkept
    obtain rfl : suspended = offered := Except.ok.inj hread
    exact ⟨hrun, suspended_fit⟩

/-- The run has been taken out and is to be registered. -/
def taken : Office MemoryStore :=
  { stored with
    manager := (stored.manager.claim "run").2
    claims := [(suspended, approval)]
    ledger := [.taken "run"] }

theorem taken_reachable : taken.Reachable := by
  have hclaim : (stored.manager.claim approval.run).1 = .ok suspended := rfl
  exact stored_reachable.step (.claim hclaim)

/-- While one client holds the run, others do not find it. -/
theorem exclusive_taken :
    taken.Reachable ∧ taken.places "run" = 1 ∧ taken.Exclusive "run" ∧
      (taken.manager.claim "run").1 = .error (.runNotFound "run") := by
  have hexclusive := taken_reachable.exclusive "run"
  exact ⟨taken_reachable, by decide +kernel, hexclusive,
    hexclusive.resumed (by decide +kernel)⟩

end Review

end Workflow
