import Workflow.Proofs.Manager.Orderly
import Workflow.Proofs.Manager.Progress
import Workflow.Proofs.Store.Listing

/-!
# Decisions for the end of the time

A sweep lists the runs that are overdue, and takes them out of the store one
after the other.  In between anything can happen to them: others resume or
cancel them, and a run that goes on may be put aside anew, at another node and
with another deadline.  The sweep does not look at what it takes.

Where the listing names only runs that are overdue, what is taken is what was
listed unless the run was put aside in the meantime
(`Patrol.Reachable.timeout_applies`).  Otherwise the decision of one suspension
is applied to another one, and where texts of times misplace a deadline the time
was not even over (`Twice.timeout_misapplied`).
-/

namespace Workflow

namespace Office

variable {σ : Type}

/-- How often a run has been put into the store. -/
def saves (office : Office σ) (run : RunId) : Nat :=
  office.ledger.count (.saved run)

variable [SuspensionStore σ] [LawfulStore σ]
variable {office later start : Office σ} {run : RunId}
variable {offered : SuspendedRun}

/-- What a step is to the store. -/
inductive Restocks (office later : Office σ) : Prop
  | rests (hstore : later.manager.store = office.manager.store)
      (hsaves : ∀ run, later.saves run = office.saves run)
  | takes {run : RunId}
      (hstore : later.manager.store =
        (SuspensionStore.take office.manager.store run).2)
      (hsaves : ∀ run, later.saves run = office.saves run)
  | puts {suspended : SuspendedRun}
      (hsave : SuspensionStore.save office.manager.store suspended =
        .ok later.manager.store)
      (hfaithful : LawfulStore.Faithful office.manager.store suspended)
      (hledger : later.ledger = .saved suspended.run :: office.ledger)

theorem Orderly.restocks (horderly : office.Orderly)
    (hstep : Step office later) : Restocks office later := by
  have htaken : ∀ run other, List.count (.saved other)
      (Entry.taken run :: office.ledger) = office.saves other := by
    intro run other
    simp [saves]
  cases hstep with
  | submit _ _ hsubmit =>
      obtain ⟨-, -, rfl⟩ := Manager.submit_eq_ok hsubmit
      exact .rests rfl fun _ => rfl
  | @claim signal _ _ => exact .takes rfl (htaken signal.run)
  | miss _ => exact .takes rfl fun _ => rfl
  | adopt _ _ => exact .rests rfl fun _ => rfl
  | cancel run _ =>
      rcases office.cancel_cases run with ⟨_, heq⟩ | ⟨_, -, heq⟩ | heq
      · rw [heq]
        exact .rests rfl fun _ => rfl
      · rw [heq]
        exact .takes rfl (htaken run)
      · rw [heq]
        exact .takes rfl fun _ => rfl
  | turn hworker hturn =>
      have hmem := List.mem_of_getElem? hworker
      cases hturn.effect (fun hfree => hfree _ hmem)
          (horderly.sound _ hmem) with
      | quiet _ _ => exact .rests rfl fun _ => rfl
      | strikes _ _ => exact .rests rfl fun _ => rfl
      | saves hof _ hsave hfaithful _ _ _ =>
          exact .puts hsave hfaithful (by rw [hof]; rfl)

theorem Restocks.saves_le (hrestocks : Restocks office later) (run : RunId) :
    office.saves run ≤ later.saves run := by
  cases hrestocks with
  | rests _ hsaves => exact (hsaves run).ge
  | takes _ hsaves => exact (hsaves run).ge
  | puts _ _ hledger =>
      rw [saves, saves, hledger]
      exact List.count_le_count_cons

/-- What is offered for a run that was not put aside was offered before. -/
theorem Restocks.offers (hrestocks : Restocks office later)
    (hsaves : later.saves run = office.saves run)
    (hoffers : LawfulStore.Offers later.manager.store run offered) :
    LawfulStore.Offers office.manager.store run offered := by
  cases hrestocks with
  | rests hstore _ => exact hstore ▸ hoffers
  | takes hstore _ =>
      rw [hstore] at hoffers
      exact LawfulStore.offers_of_offers_take hoffers
  | puts hsave hfaithful hledger =>
      rcases LawfulStore.offers_save hsave hfaithful hoffers with
        hbefore | ⟨rfl, -⟩
      · exact hbefore
      · simp [saves, hledger] at hsaves

theorem Restocks.sole [ListingStore σ] (hrestocks : Restocks office later)
    (hsole : LawfulStore.Sole office.manager.store) :
    LawfulStore.Sole later.manager.store := by
  cases hrestocks with
  | rests hstore _ => exact hstore ▸ hsole
  | @takes run hstore _ => exact hstore ▸ hsole.take run
  | puts hsave _ _ => exact ListingStore.sole_save hsave hsole

theorem Orderly.saves_le (horderly : start.Orderly)
    (hsteps : Steps start office) (run : RunId) :
    start.saves run ≤ office.saves run := by
  induction hsteps with
  | refl => exact le_rfl
  | step hsteps hstep ih =>
      exact ih.trans (((horderly.steps hsteps).restocks hstep).saves_le run)

theorem Orderly.offers_of_steps (horderly : start.Orderly)
    (hsteps : Steps start office) (hsaves : office.saves run = start.saves run)
    (hoffers : LawfulStore.Offers office.manager.store run offered) :
    LawfulStore.Offers start.manager.store run offered := by
  induction hsteps with
  | refl => exact hoffers
  | step hsteps hstep ih =>
      have hrestocks := (horderly.steps hsteps).restocks hstep
      have hbefore := horderly.saves_le hsteps run
      have hafter := hrestocks.saves_le run
      exact ih (by omega) (hrestocks.offers (by omega) hoffers)

theorem Orderly.sole [ListingStore σ] (horderly : start.Orderly)
    (hsteps : Steps start office)
    (hsole : LawfulStore.Sole start.manager.store) :
    LawfulStore.Sole office.manager.store := by
  induction hsteps with
  | refl => exact hsole
  | step hsteps hstep ih =>
      exact ((horderly.steps hsteps).restocks hstep).sole ih

end Office

/-! ## Sweeps in an office -/

/-- A sweep under way. -/
structure Sweep (σ : Type) where
  now : Instant
  /-- The office in which it asked the store. -/
  start : Office σ
  /-- What it is still to resume. -/
  left : List SuspendedRun

/-- An office with all sweeps so far. -/
structure Patrol (σ : Type) where
  office : Office σ
  sweeps : List (Sweep σ)

namespace Patrol

variable {σ : Type}

/-- A sweep comes to the next run. -/
structure Turns (patrol : Patrol σ) (place : Nat) (sweep : Sweep σ)
    (listed : SuspendedRun) (left : List SuspendedRun) : Prop where
  sweep_eq : patrol.sweeps[place]? = some sweep
  left_eq : sweep.left = listed :: left

/-- The patrol with what is left to a sweep. -/
def goOn (patrol : Patrol σ) (place : Nat) (sweep : Sweep σ)
    (left : List SuspendedRun) (office : Office σ) : Patrol σ :=
  ⟨office, patrol.sweeps.set place { sweep with left }⟩

variable [SuspensionStore σ] [LawfulStore σ]

/-- What can happen next: something else, or a sweep lists what is overdue,
resumes the next run, skips it because it is not there any more, or gives up. -/
inductive Step (patrol : Patrol σ) : Patrol σ → Prop
  | apart {later : Office σ} (hstep : patrol.office.Step later) :
      Step patrol { patrol with office := later }
  | list {now : Instant} {overdue : List SuspendedRun}
      (hlisted : SuspensionStore.expired patrol.office.manager.store now =
        .ok overdue) :
      Step patrol { patrol with
        sweeps := patrol.sweeps ++ [⟨now, patrol.office, overdue⟩] }
  | resume {place : Nat} {sweep : Sweep σ} {listed taken : SuspendedRun}
      {left : List SuspendedRun} (hturns : patrol.Turns place sweep listed left)
      (hclaim : (patrol.office.manager.claim listed.run).1 = .ok taken) :
      Step patrol (patrol.goOn place sweep left { patrol.office with
        manager := (patrol.office.manager.claim listed.run).2
        claims := (taken, Manager.timeoutSignal listed) :: patrol.office.claims
        ledger := .taken listed.run :: patrol.office.ledger })
  | skip {place : Nat} {sweep : Sweep σ} {listed : SuspendedRun}
      {left : List SuspendedRun} {missing : RunId}
      (hturns : patrol.Turns place sweep listed left)
      (hclaim : (patrol.office.manager.claim listed.run).1 =
        .error (.runNotFound missing)) :
      Step patrol (patrol.goOn place sweep left { patrol.office with
        manager := (patrol.office.manager.claim listed.run).2 })
  | giveUp {place : Nat} {sweep : Sweep σ} {listed : SuspendedRun}
      {left : List SuspendedRun} {error : Error}
      (hturns : patrol.Turns place sweep listed left)
      (hclaim : (patrol.office.manager.claim listed.run).1 = .error error)
      (herror : ∀ missing, error ≠ .runNotFound missing) :
      Step patrol (patrol.goOn place sweep [] { patrol.office with
        manager := (patrol.office.manager.claim listed.run).2 })

/-- The patrols around offices whose store keeps one run for each id. -/
inductive Reachable : Patrol σ → Prop
  | opened {office : Office σ} (hreach : office.Reachable)
      (hsole : LawfulStore.Sole office.manager.store) : Reachable ⟨office, []⟩
  | step {patrol later : Patrol σ} (hreach : Reachable patrol)
      (hstep : Step patrol later) : Reachable later

variable {patrol later : Patrol σ} {sweep : Sweep σ}

/-- The office makes a step, or stays as it is. -/
theorem Step.office (hstep : Step patrol later) :
    Office.Steps patrol.office later.office := by
  cases hstep with
  | apart hstep => exact .step .refl hstep
  | list _ => exact .refl
  | @resume _ _ listed _ _ _ hclaim =>
      exact .step .refl
        (@Office.Step.claim _ _ _ _ (Manager.timeoutSignal listed) _ hclaim)
  | skip _ hclaim => exact .step .refl (.miss hclaim)
  | giveUp _ hclaim _ => exact .step .refl (.miss hclaim)

theorem Reachable.office (hreach : patrol.Reachable) :
    patrol.office.Reachable := by
  induction hreach with
  | opened hreach _ => exact hreach
  | step _ hstep ih => exact ih.steps hstep.office

theorem Reachable.apart {next : Office σ} (hreach : patrol.Reachable)
    (hsteps : Office.Steps patrol.office next) :
    Reachable { patrol with office := next } := by
  induction hsteps with
  | refl => exact hreach
  | step _ hstep ih => exact ih.step (.apart hstep)

/-- How a sweep came about: what it has still to resume was listed. -/
structure Began (sweep : Sweep σ) (office : Office σ) : Prop where
  reach : sweep.start.Reachable
  sole : LawfulStore.Sole sweep.start.manager.store
  steps : Office.Steps sweep.start office
  listed : ∃ overdue,
    SuspensionStore.expired sweep.start.manager.store sweep.now = .ok overdue ∧
      sweep.left ⊆ overdue

theorem Began.goesOn {office next : Office σ} (hbegan : Began sweep office)
    (hsteps : Office.Steps office next) : Began sweep next :=
  { hbegan with steps := hbegan.steps.trans hsteps }

theorem Began.narrow {office : Office σ} {left : List SuspendedRun}
    (hbegan : Began sweep office) (hleft : left ⊆ sweep.left) :
    Began { sweep with left } office where
  reach := hbegan.reach
  sole := hbegan.sole
  steps := hbegan.steps
  listed := by
    obtain ⟨overdue, hlisted, hsubset⟩ := hbegan.listed
    exact ⟨overdue, hlisted, List.Subset.trans hleft hsubset⟩

section began

variable [ListingStore σ]

theorem Reachable.sole (hreach : patrol.Reachable) :
    LawfulStore.Sole patrol.office.manager.store := by
  induction hreach with
  | opened _ hsole => exact hsole
  | step hreach hstep ih => exact hreach.office.orderly.sole hstep.office ih

theorem Reachable.began (hreach : patrol.Reachable) :
    ∀ sweep ∈ patrol.sweeps, Began sweep patrol.office := by
  induction hreach with
  | opened _ _ => simp
  | @step patrol later hreach hstep ih =>
      have hlater : ∀ sweep ∈ patrol.sweeps, Began sweep later.office :=
        fun sweep hsweep => (ih sweep hsweep).goesOn hstep.office
      -- A sweep that comes to its next run keeps what is left of the others.
      have hgoOn : ∀ {place sweep listed left left'},
          patrol.Turns place sweep listed left → left' ⊆ left →
          ∀ other ∈ patrol.sweeps.set place { sweep with left := left' },
            Began other later.office := by
        intro place sweep listed left left' hturns hsubset other hother
        rcases List.mem_or_eq_of_mem_set hother with hother | rfl
        · exact hlater other hother
        · refine (hlater sweep (List.mem_of_getElem? hturns.sweep_eq)).narrow ?_
          rw [hturns.left_eq]
          exact List.subset_cons_of_subset _ hsubset
      cases hstep with
      | apart _ => exact hlater
      | list hlisted =>
          intro sweep hsweep
          rcases List.mem_append.mp hsweep with hsweep | hsweep
          · exact hlater sweep hsweep
          · obtain rfl := List.mem_singleton.mp hsweep
            exact ⟨hreach.office, hreach.sole, .refl, _, hlisted,
              List.Subset.refl _⟩
      | resume hturns _ => exact hgoOn hturns (List.Subset.refl _)
      | skip hturns _ => exact hgoOn hturns (List.Subset.refl _)
      | giveUp hturns _ _ => exact hgoOn hturns (List.nil_subset _)

/-- However clients, sweeps and legs come between each other: if all that was
listed was overdue, what a sweep takes out of the store is what it has listed,
overdue and subject to the decision that is applied, unless the run was put
aside anew since then. -/
theorem Reachable.timeout_applies {place : Nat} {listed taken : SuspendedRun}
    {left : List SuspendedRun} (hreach : patrol.Reachable)
    (hturns : patrol.Turns place sweep listed left)
    (hclaim : (patrol.office.manager.claim listed.run).1 = .ok taken)
    (hpunctual :
      LawfulStore.Punctual sweep.start.manager.store sweep.now)
    (hsaves : patrol.office.saves listed.run = sweep.start.saves listed.run) :
    taken = listed ∧ taken.isExpired sweep.now = true ∧
      (Manager.timeoutSignal listed).decision = taken.onTimeout := by
  have hbegan := hreach.began sweep (List.mem_of_getElem? hturns.sweep_eq)
  obtain ⟨overdue, hlisted, hsubset⟩ := hbegan.listed
  have hmem : listed ∈ overdue := by
    refine hsubset ?_
    rw [hturns.left_eq]
    exact List.mem_cons_self
  have horderly := hbegan.reach.orderly
  obtain ⟨run, hlists⟩ := ListingStore.offers_of_expired hlisted hmem
  obtain rfl := (horderly.offers_fit hlists).1
  have htakes := horderly.offers_of_steps hbegan.steps hsaves
    (LawfulStore.keeps_of_take hclaim).2
  obtain rfl : taken = listed := hbegan.sole htakes hlists
  exact ⟨rfl, hpunctual hlisted taken hmem, rfl⟩

end began

end Patrol

/-! ## A row with a deadline -/

namespace Far

/-- An office that finds the row of the run in its store. -/
def office (deadline : Instant) : Office RowStore :=
  .opened .standard (.ofRuns ⟨[waitingUntil deadline]⟩) ["run"]

/-- A sweep has listed the run. -/
def sweep (deadline now : Instant) : Sweep RowStore :=
  ⟨now, office deadline, [waitingUntil deadline]⟩

def patrol (deadline now : Instant) : Patrol RowStore :=
  ⟨office deadline, [sweep deadline now]⟩

theorem turns (deadline now : Instant) :
    (patrol deadline now).Turns 0 (sweep deadline now) (waitingUntil deadline)
      [] :=
  ⟨rfl, rfl⟩

theorem waiting_fit (deadline : Instant) : (waitingUntil deadline).Fit where
  wellFormed := Draft.graph_wellFormed
  exits := by
    have hasks : (⟨"ask", none, .approval ⟨"Go on?", none, .reject⟩⟩ : Node) ∈
        Draft.graph.nodes := by simp [Draft.graph]
    exact Draft.graph_wellFormed.exists_exit hasks (by simp [NodeKind.LeavesBy])

theorem read_waiting {deadline : Instant} (hvalid : deadline.Valid)
    (hreadable : (waitingUntil deadline).Readable) :
    (StoredRow.ofRun (waitingUntil deadline)).read =
      .ok (waitingUntil deadline) :=
  StoredRow.read_ofRun (storable hvalid)
    (show 0 < Width.span 64 by decide) hreadable

section row

variable {deadline now : Instant}
variable (hread : (StoredRow.ofRun (waitingUntil deadline)).read =
  .ok (waitingUntil deadline))

include hread

theorem eq_waiting_of_offers {run : RunId} {offered : SuspendedRun}
    (hoffers : LawfulStore.Offers (office deadline).manager.store run offered) :
    run = "run" ∧ offered = waitingUntil deadline := by
  obtain ⟨row, hrow, rfl, hoffered⟩ := hoffers
  have hrow : row = .ofRun (waitingUntil deadline) := List.mem_singleton.mp hrow
  have hoffered : row.read = .ok offered := hoffered
  rw [hrow, hread] at hoffered
  exact ⟨congrArg StoredRow.run hrow, (Except.ok.inj hoffered).symm⟩

theorem office_reachable : (office deadline).Reachable := by
  refine .opened ?_ ?_
  · intro run hkeeps
    obtain ⟨row, hrow, rfl⟩ := Layout.keeps_iff.mp hkeeps
    have hrow : row = .ofRun (waitingUntil deadline) :=
      List.mem_singleton.mp hrow
    exact List.mem_singleton.mpr (congrArg StoredRow.run hrow)
  · intro run offered hoffers
    obtain ⟨rfl, rfl⟩ := eq_waiting_of_offers hread hoffers
    exact ⟨rfl, waiting_fit deadline⟩

theorem claim_eq : ((office deadline).manager.claim "run").1 =
    .ok (waitingUntil deadline) := by
  have hdistinct : MemoryStore.Distinct ⟨[waitingUntil deadline]⟩ :=
    List.nodup_singleton _
  have htake := RowStore.take_ofRuns hdistinct List.mem_cons_self
  rw [hread] at htake
  exact congrArg Prod.fst htake

theorem patrol_reachable
    (hdue : RowStore.isDue now.renderMicros
      (StoredRow.ofRun (waitingUntil deadline)) = true) :
    (patrol deadline now).Reachable := by
  have hopened : Patrol.Reachable ⟨office deadline, []⟩ := by
    refine .opened (office_reachable hread) ?_
    intro run offered other hoffered hother
    rw [(eq_waiting_of_offers hread hoffered).2,
      (eq_waiting_of_offers hread hother).2]
  have hlisted : RowStore.expired (.ofRuns ⟨[waitingUntil deadline]⟩) now =
      .ok [waitingUntil deadline] := by
    change RowStore.readAll ((List.filter _
      [StoredRow.ofRun (waitingUntil deadline)]).mergeSort _) = _
    rw [List.filter_cons_of_pos hdue, List.filter_nil,
      List.mergeSort_singleton, RowStore.readAll, hread]
    rfl
  exact hopened.step (.list hlisted)

end row

/-- At the deadline the run is rejected, as it was decided for it. -/
theorem timeout_applies_soon :
    (patrol soon soon).Reachable ∧
      ((office soon).manager.claim "run").1 = .ok (waitingUntil soon) ∧
      (waitingUntil soon).isExpired soon = true ∧
      (Manager.timeoutSignal (waitingUntil soon)).decision = .reject := by
  have hread := read_waiting datable_soon.valid readable_soon
  have hreach : (patrol soon soon).Reachable :=
    patrol_reachable hread (by decide +kernel)
  have hclaim := claim_eq hread
  have hpunctual : LawfulStore.Punctual (office soon).manager.store soon := by
    refine RowStore.punctual_ofRuns datable_soon ?_ ?_ ?_
    · simpa using ⟨datable_suspendedAt, by simpa [waitingUntil] using datable_soon⟩
    · simp [waitingUntil, Instant.Apart, Instant.le]
    · simpa using fun _ => SuspendedRun.readsBack
        (storable datable_soon.valid) (by decide) readable_soon
  obtain ⟨-, hdue, hdecision⟩ :=
    hreach.timeout_applies (turns soon soon) hclaim hpunctual rfl
  exact ⟨hreach, hclaim, hdue, hdecision⟩

end Far

/-! ## A run that is put aside anew -/

namespace Twice

/-- What the run has learnt when it waits for the second approval. -/
def approved (steps : Nat) : Context :=
  ⟨[], none, [("ask", approval.payload), ("begin", .record [])], [],
    ["in", "on"], steps⟩

/-- The run waits for the second approval. -/
def second : SuspendedRun :=
  ⟨"run", graph, approved 3, "again", "Sure?", ⟨0, 0⟩, none, .reject⟩

/-- The client has resumed the run. -/
def resumed : Office MemoryStore where
  manager := (stored.manager.resume approval).2
  claims := []
  workers := [waiting [], answering approval 1]
  used := ["run"]
  ledger := [.taken "run", .saved "run"]

/-- The second leg when it is to put the run aside. -/
def returned : Worker where
  task := ⟨"run", 1, .running plan (.parking second)⟩
  grasp := .nothing
  graph := graph
  beginning := .resume (first []) approval
  told := [⟨"ask", .resumed, approval.payload⟩,
    ⟨"ask", .output, approval.payload⟩,
    ⟨"again", .started, Json.ofMembers [("kind", .text "user-approval")]⟩]
  dispatched := ["again"]
  turns := 5

/-- The run has been put aside at the second approval. -/
def reparked : Office MemoryStore where
  manager := { Manager.create .standard (MemoryStore.mk [second]) with issued := 2 }
  claims := []
  workers := [waiting [], returned.parks plan second]
  used := ["run"]
  ledger := [.saved "run", .taken "run", .saved "run"]

theorem steps_resumed : Office.Steps stored resumed := by
  have hclaim : (first [], approval) ∈ claimed.claims := List.mem_cons_self
  exact (Office.Steps.refl.step claim_stored).step
    (.adopt (free_of_workers rfl) hclaim)

theorem steps_reparked : Office.Steps stored reparked := by
  have hlaunch : Turn resumed.Free resumed.manager (answering approval 1)
      resumed.manager ((answering approval 1).after
        (.running plan (.between (approved 2) "again")) .nothing _) [] :=
    .launch rfl
  have hplace : 1 < resumed.workers.length := by decide
  have hlaunched := steps_resumed.step (.put hplace hlaunch)
  have hentered := hlaunched.move (by decide) rfl rfl rfl rfl .between
    (show _ = (Leg.entered (approved 3)
      ⟨"again", none, .approval ⟨"Sure?", none, .reject⟩⟩, _) from rfl) rfl
  have hreturned : Office.Steps stored (resumed.put 1 returned) :=
    hentered.move (by decide) rfl rfl rfl rfl (.entered ⟨0, 0⟩)
      (show _ = (Leg.parking second, []) by decide +kernel) rfl
  exact hreturned.park (by decide) (free_of_workers rfl) rfl rfl
    (@MemoryStore.faithful (.mk []) _)

/-- A sweep that listed the run at its first approval. -/
def sweep : Sweep MemoryStore :=
  ⟨⟨60, 0⟩, stored, [first []]⟩

/-- The sweep comes to the run when it waits for the second approval. -/
def raced : Patrol MemoryStore :=
  ⟨reparked, [sweep]⟩

theorem raced_reachable : raced.Reachable := by
  have hsole : LawfulStore.Sole stored.manager.store := by
    rintro run offered other ⟨kept, hkept, -, hread⟩ ⟨kept', hkept', -, hread'⟩
    obtain rfl := List.mem_singleton.mp hkept
    obtain rfl := List.mem_singleton.mp hkept'
    exact Except.ok.inj (hread.symm.trans hread')
  have hopened := Patrol.Reachable.opened stored_reachable hsole
  have hlisted : SuspensionStore.expired stored.manager.store ⟨60, 0⟩ =
      .ok [first []] := by
    decide +kernel
  exact (hopened.step (.list hlisted)).apart steps_reparked

/-- Nobody has to answer the second question in time, and if somebody had to the
answer would be no; yet the sweep says yes to it.  And a row whose deadline is
in the year 10000 is listed and resumed in 1970. -/
theorem timeout_misapplied :
    (raced.Reachable ∧ raced.Turns 0 sweep (first []) [] ∧
      (raced.office.manager.claim "run").1 = .ok second ∧
      second.isExpired sweep.now = false ∧
      (Manager.timeoutSignal (first [])).decision ≠ second.onTimeout) ∧
    (Far.patrol Far.late ⟨0, 0⟩).Reachable ∧
      ((Far.office Far.late).manager.claim "run").1 =
        .ok (Far.waitingUntil Far.late) ∧
      (Far.waitingUntil Far.late).isExpired ⟨0, 0⟩ = false := by
  have hread := Far.read_waiting Far.valid_late Far.readable_late
  refine ⟨⟨raced_reachable, ⟨rfl, rfl⟩, rfl, rfl, by decide⟩, ?_,
    Far.claim_eq hread, by decide⟩
  exact Far.patrol_reachable hread (by decide +kernel)

end Twice

end Workflow
