import Workflow.Proofs.Manager.Office
import Workflow.Proofs.Store.Restart

/-!
# How a leg comes along

A leg whose token is not cancelled looks at it and makes a move, and a run that
its manager keeps is put aside; each takes two steps of the office.  In between
the lock may be held, but nobody needs to come between them.
-/

namespace Workflow

/-- The leg after a look at its token and a move that asks for no work. -/
def Worker.moves (worker : Worker) (plan : Plan) (leg : Leg) (move : leg.Move)
    (next : Leg) (events : List Event) : Worker :=
  { (worker.after (.running plan leg) .clear []).after (.running plan next)
      .nothing events with
    dispatched := worker.dispatched ++ leg.dispatched move }

/-- The leg after its run was put aside. -/
def Worker.parks (worker : Worker) (plan : Plan) (suspended : SuspendedRun) :
    Worker :=
  (worker.after (.running plan (.parking suspended)) .lock []).goesOn plan
    (.parking suspended) none .nothing

namespace Office

variable {σ : Type}

/-- The office with the leg of a token at another stage. -/
def put (office : Office σ) (token : Token) (worker : Worker) : Office σ :=
  { office with workers := office.workers.set token worker }

variable {office later : Office σ} {token : Token} {worker : Worker}
variable {plan : Plan}

theorem put_worker (hlt : token < later.workers.length) :
    (later.put token worker).workers[token]? = some worker :=
  List.getElem?_set_self hlt

variable [SuspensionStore σ] [LawfulStore σ]

theorem Step.put {next : Worker} {manager : Manager σ} {entries : List Entry}
    (hlt : token < later.workers.length)
    (hturn : Turn (later.put token worker).Free later.manager worker manager
      next entries) :
    Step (later.put token worker) { later.put token next with
      manager
      ledger := entries ++ later.ledger } := by
  have hstep := Step.turn (put_worker hlt) hturn
  simpa only [Office.put, List.set_set] using hstep

theorem Steps.move {leg next : Leg} {move : leg.Move} {events : List Event}
    (hsteps : Steps office (later.put token worker))
    (hlt : token < later.workers.length)
    (hstage : worker.task.stage = .running plan leg)
    (hgrasp : worker.grasp = .nothing)
    (htoken : later.manager.isCancelled worker.task.token = false)
    (hwatches : leg.watches = true) (hmove : leg.Proceeds move)
    (hnext : leg.step plan move = (next, events))
    (hidle : next.isWorking = false) :
    Steps office
      (later.put token (worker.moves plan leg move next events)) := by
  set looked := worker.after (.running plan leg) .clear []
  have hlook : Step (later.put token worker) (later.put token looked) :=
    .put hlt (.look hstage hgrasp hwatches htoken)
  have hturn : Turn (later.put token looked).Free later.manager looked
      later.manager (worker.moves plan leg move next events) [] := by
    have hturn : Turn (later.put token looked).Free later.manager looked
        later.manager _ [] := .proceed rfl rfl hmove
    simp only [Worker.goesOn, hnext, hidle] at hturn
    exact hturn
  exact (hsteps.step hlook).step (.put hlt hturn)

theorem Steps.park {suspended : SuspendedRun} {manager : Manager σ}
    (hsteps : Steps office (later.put token worker))
    (hlt : token < later.workers.length) (hfree : (later.put token worker).Free)
    (hstage : worker.task.stage = .running plan (.parking suspended))
    (hkeep : later.manager.keep suspended = (none, manager))
    (hfaithful : LawfulStore.Faithful later.manager.store suspended) :
    Steps office { later.put token (worker.parks plan suspended) with
      manager := manager.release suspended.run
      ledger := .saved suspended.run :: later.ledger } := by
  set kept := worker.after (.running plan (.parking suspended)) .lock []
  set keeping : Office σ := { later with
    manager
    ledger := .saved suspended.run :: later.ledger }
  have hkept : Step (later.put token worker) (keeping.put token kept) :=
    .put hlt (.keep hfree hstage hkeep hfaithful)
  have hrelease : Turn (keeping.put token kept).Free keeping.manager kept
      (manager.release suspended.run) (worker.parks plan suspended) [] :=
    .release rfl rfl
  have hplace : token < keeping.workers.length := hlt
  exact (hsteps.step hkept).step (.put hplace hrelease)

end Office

/-! ## A run that is asked about twice -/

namespace Twice

/-- A workflow with two approvals, of which the first one is given after a
minute without an answer. -/
def graph : Graph where
  nodes := [⟨"begin", none, .start []⟩,
    ⟨"ask", none, .approval ⟨"Go on?", some 60, .approve⟩⟩,
    ⟨"again", none, .approval ⟨"Sure?", none, .reject⟩⟩, ⟨"end", none, .finish⟩]
  edges := [⟨"in", "begin", "ask", none⟩, ⟨"on", "ask", "again", none⟩,
    ⟨"out", "again", "end", none⟩]

theorem graph_wellFormed : graph.WellFormed Schema.refusal? where
  idsNonempty := by decide
  idsDistinct := by decide
  edgesDistinct := by decide
  oneStart := by
    refine ⟨⟨"begin", none, .start []⟩, by decide, ?_⟩
    simp [graph, NodeKind.isStart]
  someFinish := by decide
  sources := by decide
  targets := by decide
  startEntries := by decide
  entries := by decide
  exits := by
    simp only [graph, List.forall_mem_cons, Graph.ExitsFit]
    exact ⟨⟨_, rfl⟩, ⟨_, rfl⟩, ⟨_, rfl⟩, rfl, by simp⟩
  settings := by
    simp only [graph, List.forall_mem_cons, Graph.SettingsFit,
      Graph.Meaningful]
    exact ⟨trivial, by decide, by decide, trivial, by simp⟩
  reachable := by
    simp only [graph, List.forall_mem_cons, NodeKind.isStart,
      forall_true_left]
    refine ⟨⟨⟨[], ?_⟩, ⟨graph.edges.take 1, ?_⟩, ⟨graph.edges.take 2, ?_⟩,
      ⟨graph.edges, ?_⟩, ?_⟩, ?_⟩
    all_goals simp [Graph.walk_cons_iff, Graph.walk_nil_iff, graph]
  cycles := by
    intro id walk hwalk hne
    have hrank := hwalk.rank_lt (fun id => graph.nodes.findIdx (·.id = id))
      (by decide) hne
    exact absurd hrank (lt_irrefl _)

def plan : Plan :=
  ⟨.standard, "run", graph⟩

section inputs

variable (inputs : Assoc Json)

/-- What the run has learnt at its start node. -/
def learnt (steps : Nat) : Context :=
  ⟨inputs, none, [("begin", .record inputs)], [], ["in"], steps⟩

/-- The run waits for the first approval. -/
def first : SuspendedRun :=
  ⟨"run", graph, learnt inputs 2, "ask", "Go on?", ⟨0, 0⟩, some ⟨60, 0⟩,
    .approve⟩

/-- The leg of the run when it has been registered. -/
def begun : Worker :=
  .begin ⟨"run", 0, .submitted graph inputs⟩ graph .start

/-- The leg when it is to put the run aside. -/
def arrived : Worker where
  task := ⟨"run", 0, .running plan (.parking (first inputs))⟩
  grasp := .nothing
  graph := graph
  beginning := .start
  told := [⟨"begin", .started, Json.ofMembers [("kind", .text "start")]⟩,
    ⟨"begin", .output, .record inputs⟩,
    ⟨"ask", .started, Json.ofMembers [("kind", .text "user-approval")]⟩]
  dispatched := ["begin", "ask"]
  turns := 9

/-- The leg when it has put the run aside and is to report it. -/
def waiting : Worker :=
  (arrived inputs).parks plan (first inputs)

theorem start_eq : Leg.start plan inputs =
    .ok (.between (.ofInputs inputs) "begin", []) := by
  rw [Leg.start_eq graph_wellFormed rfl]
  rfl

theorem suspend_eq : Leg.suspend plan (learnt inputs 2) "ask"
    ⟨"Go on?", some 60, .approve⟩ ⟨0, 0⟩ = first inputs := by
  rw [Leg.suspend, Draft.prompt_eq]
  rfl

end inputs

section office

variable {σ : Type} (store : σ) (inputs : Assoc Json)

/-- An office that has registered the run. -/
def submitted : Office σ where
  manager := ((Manager.create .standard store).register "run").2
  claims := []
  workers := [begun inputs]
  used := ["run"]
  ledger := []

/-- The run has been put aside into a store, and its leg has not reported it
yet. -/
def parked : Office σ where
  manager := { Manager.create .standard store with issued := 1 }
  claims := []
  workers := [waiting inputs]
  used := ["run"]
  ledger := [.saved "run"]

theorem free_of_workers {office : Office σ}
    (hfree : office.workers.all (·.grasp ≠ .lock) = true) : office.Free := by
  intro worker hworker
  simpa using List.all_eq_true.mp hfree worker hworker

theorem submit_eq :
    (Manager.create .standard store).submit "run" graph inputs =
      .ok ((begun inputs).task, (submitted store inputs).manager) := by
  simp only [Manager.submit, graph_wellFormed.defect?_eq_none]
  rfl

variable [SuspensionStore σ] [LawfulStore σ] {store : σ}

theorem opened_reachable
    (hempty : ∀ run, LawfulStore.keeps store run = false)
    (hnone : ∀ run offered, ¬ LawfulStore.Offers store run offered) :
    (Office.opened .standard store []).Reachable := by
  refine .opened (fun run hkeeps => ?_) fun run offered hoffers => ?_
  · simp [hempty run] at hkeeps
  · exact absurd hoffers (hnone run offered)

theorem step_submitted :
    Office.Step (.opened .standard store []) (submitted store inputs) :=
  .submit (by simp [Office.Free, Office.opened]) (by simp [Office.opened])
    (submit_eq store inputs)

theorem steps_parked {kept : σ}
    (hsave : SuspensionStore.save store (first inputs) = .ok kept)
    (hfaithful : LawfulStore.Faithful store (first inputs)) :
    Office.Steps (submitted store inputs) (parked kept inputs) := by
  set office := submitted store inputs
  have hlaunch : Turn office.Free office.manager (begun inputs) office.manager
      ((begun inputs).after (.running plan (.between (.ofInputs inputs) "begin"))
        .nothing []) [] :=
    .launch (congrArg some (congrArg (Prod.mk plan) (start_eq inputs)))
  have hplace : 0 < office.workers.length := Nat.one_pos
  have hlaunched := Office.Steps.refl.step (.put hplace hlaunch)
  have hstarted := hlaunched.move Nat.one_pos rfl rfl rfl rfl .between
    (show _ = (Leg.entered ⟨inputs, none, [], [], [], 1⟩
      ⟨"begin", none, .start []⟩, _) from rfl) rfl
  have hleft := hstarted.move Nat.one_pos rfl rfl rfl rfl (.entered ⟨0, 0⟩)
    (show _ = (Leg.between (learnt inputs 1) "ask", _) from rfl) rfl
  have hasked := hleft.move Nat.one_pos rfl rfl rfl rfl .between
    (show _ = (Leg.entered (learnt inputs 2)
      ⟨"ask", none, .approval ⟨"Go on?", some 60, .approve⟩⟩, _) from rfl) rfl
  have harrived : Office.Steps office (office.put 0 (arrived inputs)) :=
    hasked.move Nat.one_pos rfl rfl rfl rfl (.entered ⟨0, 0⟩)
      (show _ = (Leg.parking (first inputs), []) from
        suspend_eq inputs ▸ rfl) rfl
  have hkeep : office.manager.keep (first inputs) =
      (none, { office.manager with store := kept }) := by
    have hstore : SuspensionStore.save office.manager.store (first inputs) =
        .ok kept := hsave
    simp only [Manager.keep, hstore]
    rfl
  exact harrived.park Nat.one_pos (free_of_workers rfl) rfl hkeep hfaithful

end office

/-! In a store of the runs themselves, with a client that approves of the run. -/

theorem opened_reachable_memory :
    (Office.opened .standard (MemoryStore.mk []) []).Reachable := by
  refine opened_reachable (fun _ => rfl) ?_
  rintro run offered ⟨_, hkept, -⟩
  cases hkept

def stored : Office MemoryStore :=
  parked ⟨[first []]⟩ []

theorem steps_stored : Office.Steps (submitted (MemoryStore.mk []) []) stored :=
  steps_parked [] rfl (@MemoryStore.faithful (.mk []) _)

theorem stored_reachable : stored.Reachable :=
  (opened_reachable_memory.step (step_submitted [])).steps steps_stored

def approval : ResumeSignal :=
  ⟨"run", .approve, none⟩

/-- A leg that is to resume the run. -/
def answering (signal : ResumeSignal) (token : Token) : Worker :=
  .begin ⟨"run", token, .claimed (first []) signal⟩ graph
    (.resume (first []) signal)

/-- The client has taken the run out of the store and not registered it yet. -/
def claimed : Office MemoryStore :=
  { stored with
    manager := (stored.manager.claim "run").2
    claims := [(first [], approval)]
    ledger := [.taken "run", .saved "run"] }

theorem claim_stored : Office.Step stored claimed :=
  @Office.Step.claim _ _ _ stored approval (first []) rfl

end Twice

end Workflow
