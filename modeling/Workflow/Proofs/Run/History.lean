import Workflow.Proofs.Run.Opening

/-!
# Histories of a run

A run is a chain of legs: it is started once and resumed after each
suspension.  A `History` is what such a chain has come to at some moment.
Scripts, agents, tools, the clock, the store and whoever cancels the run act
by moves only, so `Reachable` is relative to the moves that its surroundings
may make; surroundings that may make every move stand for any behaviour at
all.

`Reachable.induct` is the induction on the length of a history: whatever holds
of the first stages of a run, and is kept by the steps that `Leg.Goes` lists
and by every resumption, holds always.

`Reachable` lets each leg of a run have limits of its own.  Counters and
budgets are carried over from one leg to the next, so what limits promise
about a whole run, they promise where all of its legs share them.  Such runs
are `Steady`.  `Steady.induct` is `Reachable.induct` for them; it also says by
which move a stage was left, which `Leg.Goes` does not always tell.
-/

namespace Workflow

/-- How a leg of a run began. -/
inductive Beginning where
  | start
  | resume (suspended : SuspendedRun) (signal : ResumeSignal)

/-- What a run has come to. -/
structure History where
  beginning : Beginning
  plan : Plan
  /-- What the legs before this one have reported. -/
  past : List Event
  /-- What this leg has reported. -/
  told : List Event
  leg : Leg

/-- What can happen around a run. -/
abbrev Surroundings :=
  (leg : Leg) → leg.Move → Prop

/-- Surroundings that may do anything. -/
def Surroundings.any : Surroundings :=
  fun _ _ => True

namespace History

/-- All that a run has reported. -/
def events (history : History) : List Event :=
  history.past ++ history.told

/-- The history after one more step of the leg. -/
def after (history : History) (move : history.leg.Move) : History :=
  { history with
    told := history.told ++ (history.leg.step history.plan move).2
    leg := (history.leg.step history.plan move).1 }

/-- The histories of a run.  Each leg may be run with limits of its own. -/
inductive Reachable (around : Surroundings) (run : RunId) (graph : Graph)
    (inputs : Assoc Json) :
    History → Prop
  | start {limits : EngineConfig} {leg : Leg} {told : List Event}
      (hstart : Leg.start ⟨limits, run, graph⟩ inputs = .ok (leg, told)) :
      Reachable around run graph inputs
        ⟨.start, ⟨limits, run, graph⟩, [], told, leg⟩
  | step {history : History}
      (hreach : Reachable around run graph inputs history)
      (move : history.leg.Move) (hmove : around history.leg move) :
      Reachable around run graph inputs (history.after move)
  | resume {history : History} {limits : EngineConfig}
      {suspended : SuspendedRun} {signal : ResumeSignal} {leg : Leg}
      {told : List Event} (hreach : Reachable around run graph inputs history)
      (hleg : history.leg = .ended (.suspended suspended))
      (hresume : Leg.resume limits suspended signal = .ok (leg, told)) :
      Reachable around run graph inputs
        ⟨.resume suspended signal, Leg.planOf limits suspended,
          history.events, told, leg⟩

variable {around : Surroundings} {run : RunId} {graph : Graph}
variable {inputs : Assoc Json} {history : History}

/-- Only graphs without a defect are run. -/
theorem Reachable.wellFormed
    (hreach : Reachable around run graph inputs history) :
    graph.WellFormed Schema.refusal? := by
  induction hreach with
  | start hstart => exact (Leg.starts_of_start hstart).1
  | step _ _ _ ih => exact ih
  | resume _ _ _ ih => exact ih

theorem planOf_eq {limits now : EngineConfig} {suspended : SuspendedRun}
    (hawaits : Leg.Awaits ⟨limits, run, graph⟩ suspended) :
    Leg.planOf now suspended = ⟨now, run, graph⟩ := by
  simp [Leg.planOf, hawaits.graph_eq, hawaits.run_eq]

/-- The run and the graph stay the same, and no stage looks up what is not
there. -/
theorem Reachable.sound (hreach : Reachable around run graph inputs history) :
    (∃ limits, history.plan = ⟨limits, run, graph⟩) ∧
      Leg.Sound history.plan history.leg := by
  induction hreach with
  | start hstart => exact ⟨⟨_, rfl⟩, (Leg.starts_of_start hstart).2.sound⟩
  | @step history hreach move _ ih =>
      obtain ⟨⟨limits, hplan⟩, hsound⟩ := ih
      have hgraph : history.plan.graph.WellFormed Schema.refusal? := by
        simpa [hplan] using hreach.wellFormed
      have hgoes := Leg.goes_step hgraph hsound move
      exact ⟨⟨limits, hplan⟩, hgoes.sound hgraph hsound⟩
  | @resume history limits suspended signal _ _ hreach hleg hresume ih =>
      obtain ⟨⟨earlier, hplan⟩, hsound⟩ := ih
      rw [hplan, hleg] at hsound
      cases hsound with
      | suspended hawaits =>
          have hgraph : suspended.graph.WellFormed Schema.refusal? := by
            simpa [hawaits.graph_eq] using hreach.wellFormed
          have hresumes :=
            (Leg.resumes_of_resume hreach.wellFormed hawaits hresume).2
          exact ⟨⟨limits, planOf_eq hawaits⟩, hresumes.sound hgraph⟩

/-- A step whose result is known. -/
theorem Reachable.step_to {leg : Leg} {events : List Event}
    (hreach : Reachable around run graph inputs history)
    (move : history.leg.Move) (hmove : around history.leg move)
    (hstep : history.leg.step history.plan move = (leg, events)) :
    Reachable around run graph inputs
      ⟨history.beginning, history.plan, history.past, history.told ++ events,
        leg⟩ := by
  have hafter := hreach.step move hmove
  simpa only [after, hstep] using hafter

/-- What holds of every first stage of a run, and is kept by every step and
every resumption, holds of every history. -/
theorem Reachable.induct {motive : History → Prop}
    (starts : ∀ {limits leg told}, Leg.Starts ⟨limits, run, graph⟩ leg told →
      motive ⟨.start, ⟨limits, run, graph⟩, [], told, leg⟩)
    (goes : ∀ {beginning limits past told leg next events} {move : leg.Move},
      Leg.Sound ⟨limits, run, graph⟩ leg → around leg move →
      Leg.Goes ⟨limits, run, graph⟩ leg move next events →
      motive ⟨beginning, ⟨limits, run, graph⟩, past, told, leg⟩ →
      motive ⟨beginning, ⟨limits, run, graph⟩, past, told ++ events, next⟩)
    (resumes : ∀ {beginning limits now past told suspended signal leg events},
      Leg.Awaits ⟨limits, run, graph⟩ suspended →
      Leg.Resumes suspended signal leg events →
      motive ⟨beginning, ⟨limits, run, graph⟩, past, told,
        .ended (.suspended suspended)⟩ →
      motive ⟨.resume suspended signal, ⟨now, run, graph⟩, past ++ told,
        events, leg⟩)
    (hreach : Reachable around run graph inputs history) :
    motive history := by
  induction hreach with
  | start hstart => exact starts (Leg.starts_of_start hstart).2
  | @step history hreach move hmove ih =>
      obtain ⟨⟨limits, hplan⟩, hsound⟩ := hreach.sound
      obtain ⟨beginning, plan, past, told, leg⟩ := history
      obtain rfl : plan = ⟨limits, run, graph⟩ := hplan
      exact goes hsound hmove (Leg.goes_step hreach.wellFormed hsound move) ih
  | @resume history now suspended signal _ _ hreach hleg hresume ih =>
      obtain ⟨⟨limits, hplan⟩, hsound⟩ := hreach.sound
      obtain ⟨beginning, plan, past, told, leg⟩ := history
      obtain rfl : plan = ⟨limits, run, graph⟩ := hplan
      obtain rfl : leg = .ended (.suspended suspended) := hleg
      cases hsound with
      | suspended hawaits =>
          have hresumes :=
            (Leg.resumes_of_resume hreach.wellFormed hawaits hresume).2
          rw [planOf_eq hawaits]
          exact resumes hawaits hresumes ih

end History

/-! ## A run with an approval -/

namespace Review

/-- A workflow that asks for an approval, unless a condition says that it is
too early. -/
def graph : Graph where
  nodes := [⟨"begin", none, .start []⟩, ⟨"check", none, .ifElse "input.due"⟩,
    ⟨"ask", none, .approval ⟨"Go on?", none, .reject⟩⟩, ⟨"end", none, .finish⟩]
  edges := [⟨"in", "begin", "check", none⟩,
    ⟨"due", "check", "ask", some "true"⟩,
    ⟨"early", "check", "end", some "false"⟩, ⟨"out", "ask", "end", none⟩]

theorem graph_wellFormed : graph.WellFormed Schema.refusal? where
  idsNonempty := by decide
  idsDistinct := by decide
  edgesDistinct := by decide
  oneStart := by
    refine ⟨⟨"begin", none, .start []⟩, by decide, ?_⟩
    simp [graph, NodeKind.isStart]
  someFinish := by decide
  sources := by decide
  targets := by decide
  startEntries := by decide
  entries := by decide
  exits := by
    simp only [graph, List.forall_mem_cons, Graph.ExitsFit]
    refine ⟨⟨_, rfl⟩, ?_, ⟨_, rfl⟩, rfl, by simp⟩
    exact ⟨_, _, .refl _, by decide +kernel, by decide +kernel⟩
  settings := by
    simp only [graph, List.forall_mem_cons, Graph.SettingsFit,
      Graph.Meaningful]
    exact ⟨trivial, by decide, trivial, trivial, by simp⟩
  reachable := by
    simp only [graph, List.forall_mem_cons, NodeKind.isStart,
      forall_true_left]
    refine ⟨⟨⟨[], ?_⟩, ⟨graph.edges.take 1, ?_⟩, ⟨graph.edges.take 2, ?_⟩,
      ⟨[⟨"in", "begin", "check", none⟩,
        ⟨"early", "check", "end", some "false"⟩], ?_⟩, ?_⟩, ?_⟩
    all_goals simp [Graph.walk_cons_iff, Graph.walk_nil_iff, graph]
  cycles := by
    intro id walk hwalk hne
    have hrank := hwalk.rank_lt (fun id => graph.nodes.findIdx (·.id = id))
      (by decide) hne
    exact absurd hrank (lt_irrefl _)

def plan : Plan :=
  ⟨.standard, "run", graph⟩

theorem start_eq :
    Leg.start plan [] = .ok (.between (.ofInputs []) "begin", []) := by
  rw [Leg.start_eq graph_wellFormed rfl]
  rfl

/-- The output of the branching node. -/
def due : Json :=
  Json.ofMembers [("branch", .text "true")]

/-- What the run has learnt when its branching node is started. -/
def entered : Context :=
  ⟨[], none, [("begin", .record [])], [], ["in"], 2⟩

/-- What the run has learnt when it waits for the approval. -/
def decided : Context :=
  ⟨[], none, [("begin", .record []), ("check", due)], [], ["in", "due"], 3⟩

/-- The run waits for its condition. -/
def checking : History where
  beginning := .start
  plan := plan
  past := []
  told := [⟨"begin", .started, Json.ofMembers [("kind", .text "start")]⟩,
    ⟨"begin", .output, .record []⟩,
    ⟨"check", .started, Json.ofMembers [("kind", .text "if-else")]⟩]
  leg := .working entered ⟨"check", none, .ifElse "input.due"⟩
    (.choice "input.due" entered.bindings 5000)

def suspended : SuspendedRun :=
  ⟨"run", graph, decided, "ask", "Go on?", ⟨0, 0⟩, none, .reject⟩

/-- The run waits for the approval. -/
def waiting : History where
  beginning := .start
  plan := plan
  past := []
  told := checking.told ++ [⟨"check", .output, due⟩,
    ⟨"ask", .started, Json.ofMembers [("kind", .text "user-approval")]⟩,
    ⟨"ask", .suspended, Leg.suspendedPayload suspended⟩]
  leg := .ended (.suspended suspended)

def approval : ResumeSignal :=
  ⟨"run", .approve, none⟩

/-- The run has been approved and has come to its end. -/
def finished : History where
  beginning := .resume suspended approval
  plan := plan
  past := waiting.told
  told := [⟨"ask", .resumed, approval.payload⟩,
    ⟨"ask", .output, approval.payload⟩,
    ⟨"end", .started, Json.ofMembers [("kind", .text "end")]⟩,
      ⟨"end", .output, .null⟩]
  leg := .ended (.completed .null)

theorem checking_reachable {around : Surroundings}
    (hbetween : ∀ context next move, around (.between context next) move)
    (hentered : ∀ context node move, around (.entered context node) move) :
    History.Reachable around "run" graph [] checking := by
  have hbegun : History.Reachable around "run" graph [] _ := .start start_eq
  have hbegin := hbegun.step false (hbetween ..)
  have hleft := hbegin.step (some (⟨0, 0⟩ : Instant)) (hentered ..)
  have hcheck := hleft.step false (hbetween ..)
  exact hcheck.step (some (⟨0, 0⟩ : Instant)) (hentered ..)

theorem waiting_reachable :
    History.Reachable .any "run" graph [] waiting := by
  have hchecking : History.Reachable .any "run" graph [] checking :=
    checking_reachable (fun _ _ _ => trivial) (fun _ _ _ => trivial)
  have hchecked :=
    hchecking.step_to (some (.ok true) : Option (Except Error Bool)) trivial
    (show _ = (Leg.between { decided with steps := 2 } "ask",
      [⟨"check", .output, due⟩]) by
      decide +kernel)
  have hask := hchecked.step false trivial
  have hparking := hask.step_to (some (⟨0, 0⟩ : Instant)) trivial
    (show _ = (Leg.parking suspended, []) by decide +kernel)
  have hparked := hparking.step (none : Option Error) trivial
  exact hparked.step () trivial

theorem finished_reachable :
    History.Reachable .any "run" graph [] finished := by
  have hresume : Leg.resume .standard suspended approval = .ok (_, _) := rfl
  have happroved := waiting_reachable.resume rfl hresume
  have hend := happroved.step false trivial
  exact hend.step (some (⟨0, 0⟩ : Instant)) trivial

end Review

/-! ## Runs under the same limits -/

namespace Leg

/-- The state of the run at a stage.  A run that has come to its end has
none. -/
def context? : Leg → Option Context
  | .between context _ | .entered context _ | .working context _ _ =>
    some context
  | .parking suspended | .parked suspended | .ended (.suspended suspended) =>
    some suspended.context
  | .ended (.completed _) | .ended (.failed _ _) => none

theorem Visits.context?_eq {leg : Leg} {context : Context} {node : Node}
    (hvisits : Visits leg context node) : leg.context? = some context := by
  cases hvisits <;> rfl

end Leg

namespace History

/-- The histories of a run whose legs all have the same limits. -/
inductive Steady (limits : EngineConfig) (around : Surroundings) (run : RunId)
    (graph : Graph) (inputs : Assoc Json) : History → Prop
  | start {leg : Leg} {told : List Event}
      (hstart : Leg.start ⟨limits, run, graph⟩ inputs = .ok (leg, told)) :
      Steady limits around run graph inputs
        ⟨.start, ⟨limits, run, graph⟩, [], told, leg⟩
  | step {history : History}
      (hsteady : Steady limits around run graph inputs history)
      (move : history.leg.Move) (hmove : around history.leg move) :
      Steady limits around run graph inputs (history.after move)
  | resume {history : History} {suspended : SuspendedRun}
      {signal : ResumeSignal} {leg : Leg} {told : List Event}
      (hsteady : Steady limits around run graph inputs history)
      (hleg : history.leg = .ended (.suspended suspended))
      (hresume : Leg.resume limits suspended signal = .ok (leg, told)) :
      Steady limits around run graph inputs
        ⟨.resume suspended signal, Leg.planOf limits suspended,
          history.events, told, leg⟩

variable {limits : EngineConfig} {around : Surroundings} {run : RunId}
variable {graph : Graph} {inputs : Assoc Json} {history : History}

namespace Steady

theorem reachable
    (hsteady : Steady limits around run graph inputs history) :
    Reachable around run graph inputs history := by
  induction hsteady with
  | start hstart => exact .start hstart
  | step _ move hmove ih => exact ih.step move hmove
  | resume _ hleg hresume ih => exact ih.resume hleg hresume

/-- A run that is put aside waits at an approval node of its graph. -/
theorem awaits {suspended : SuspendedRun}
    (hsteady : Steady limits around run graph inputs history)
    (hleg : history.leg = .ended (.suspended suspended)) :
    Leg.Awaits history.plan suspended := by
  have hsound := hsteady.reachable.sound.2
  rw [hleg] at hsound
  cases hsound with
  | suspended hawaits => exact hawaits

theorem plan_eq (hsteady : Steady limits around run graph inputs history) :
    history.plan = ⟨limits, run, graph⟩ := by
  induction hsteady with
  | start _ => rfl
  | step _ _ _ ih => exact ih
  | @resume history suspended _ _ _ hsteady hleg _ ih =>
      have hawaits := hsteady.awaits hleg
      rw [ih] at hawaits
      exact planOf_eq hawaits

/-- A step whose result is known. -/
theorem step_to {leg : Leg} {events : List Event}
    (hsteady : Steady limits around run graph inputs history)
    (move : history.leg.Move) (hmove : around history.leg move)
    (hstep : history.leg.step history.plan move = (leg, events)) :
    Steady limits around run graph inputs
      ⟨history.beginning, history.plan, history.past, history.told ++ events,
        leg⟩ := by
  have hafter := hsteady.step move hmove
  simpa only [after, hstep] using hafter

/-- What holds of every first stage of a run, and is kept by every step and
every resumption, holds of every history. -/
theorem induct {motive : History → Prop}
    (starts : ∀ {leg told}, Leg.Starts ⟨limits, run, graph⟩ leg told →
      motive ⟨.start, ⟨limits, run, graph⟩, [], told, leg⟩)
    (goes : ∀ {beginning past told leg next events} {move : leg.Move},
      Leg.Sound ⟨limits, run, graph⟩ leg → around leg move →
      leg.step ⟨limits, run, graph⟩ move = (next, events) →
      Leg.Goes ⟨limits, run, graph⟩ leg move next events →
      motive ⟨beginning, ⟨limits, run, graph⟩, past, told, leg⟩ →
      motive ⟨beginning, ⟨limits, run, graph⟩, past, told ++ events, next⟩)
    (resumes : ∀ {beginning past told suspended signal leg events},
      Leg.Awaits ⟨limits, run, graph⟩ suspended →
      Leg.Resumes suspended signal leg events →
      motive ⟨beginning, ⟨limits, run, graph⟩, past, told,
        .ended (.suspended suspended)⟩ →
      motive ⟨.resume suspended signal, ⟨limits, run, graph⟩, past ++ told,
        events, leg⟩)
    (hsteady : Steady limits around run graph inputs history) :
    motive history := by
  induction hsteady with
  | start hstart => exact starts (Leg.starts_of_start hstart).2
  | @step history hsteady move hmove ih =>
      have hsound := hsteady.reachable.sound.2
      have hgraph := hsteady.reachable.wellFormed
      have hplan := hsteady.plan_eq
      obtain ⟨beginning, plan, past, told, leg⟩ := history
      obtain rfl : plan = ⟨limits, run, graph⟩ := hplan
      exact goes hsound hmove rfl (Leg.goes_step hgraph hsound move) ih
  | @resume history suspended signal _ _ hsteady hleg hresume ih =>
      have hawaits := hsteady.awaits hleg
      have hgraph := hsteady.reachable.wellFormed
      have hplan := hsteady.plan_eq
      obtain ⟨beginning, plan, past, told, leg⟩ := history
      obtain rfl : plan = ⟨limits, run, graph⟩ := hplan
      obtain rfl : leg = .ended (.suspended suspended) := hleg
      rw [planOf_eq hawaits]
      exact resumes hawaits (Leg.resumes_of_resume hgraph hawaits hresume).2
        ih

end Steady

end History

end Workflow
