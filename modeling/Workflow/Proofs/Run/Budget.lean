import Workflow.Proofs.Run.Failure
import Workflow.Proofs.Run.History

/-!
# The step budget

The budget of steps is one for the whole run: the state of the run counts the
nodes that have been dispatched, and the count goes with the run when it is
put aside.  `Steady.counted` says that the count is the number of starts that
have been reported, over all legs.

A leg cannot go on for ever.  `Leg.remaining` bounds the moves that are left
to it, and each move lowers this bound, whatever the graph looks like.
-/

namespace Workflow

/-- How many nodes have been dispatched, by what has been reported. -/
def dispatches (events : List Event) : Nat :=
  events.countP fun event => event.kind = .started

@[simp] theorem dispatches_append (before events : List Event) :
    dispatches (before ++ events) = dispatches before + dispatches events :=
  List.countP_append

namespace Leg

variable {plan : Plan}

/-! ## A leg ends -/

/-- How many nodes may still be dispatched. -/
def room (plan : Plan) (context : Context) : Nat :=
  plan.limits.maxSteps - context.steps

/-- How many moves are left to a leg at most: a node takes four moves, or five
if the run is put aside there. -/
def remaining (plan : Plan) : Leg → Nat
  | .between context _ => 5 * room plan context + 1
  | .entered context _ => 5 * room plan context + 5
  | .working context _ _ => 5 * room plan context + 4
  | .parking suspended => 5 * room plan suspended.context + 4
  | .parked suspended => 5 * room plan suspended.context + 3
  | .ended (.suspended suspended) => 5 * room plan suspended.context + 2
  | .ended (.completed _) | .ended (.failed _ _) => 0

theorem remaining_leave_le {context after : Context}
    (hsteps : after.steps = context.steps) (node : String) (output : Json)
    (branch : Option Branch) :
    remaining plan (leave plan after node output branch).1 ≤
      5 * room plan context + 1 := by
  unfold leave
  split
  · simp [remaining, room, Context.traverse, hsteps]
  · exact Nat.zero_le _

theorem remaining_enter_lt (context : Context) (next : String) :
    remaining plan (enter plan context next).1 <
      remaining plan (.between context next) := by
  by_cases hbudget : plan.limits.maxSteps < context.steps + 1
  · simp only [enter, hbudget, if_true]
    exact Nat.succ_pos _
  · simp only [enter, hbudget, if_false]
    split
    · exact Nat.succ_pos _
    · simp only [remaining, room]
      omega

theorem remaining_dispatch_lt (context : Context) (node : Node)
    (now : Instant) :
    remaining plan (dispatch plan context node now).1 <
      remaining plan (.entered context node) := by
  have hmore : 5 * room plan context + 1 <
      remaining plan (.entered context node) := by
    simp [remaining]
  unfold dispatch
  cases node.kind with
  | start declared => exact (remaining_leave_le rfl ..).trans_lt hmore
  | finish => simp [remaining]
  | loop config =>
      dsimp only
      split
      · exact (remaining_leave_le rfl ..).trans_lt hmore
      · simp [remaining]
  | approval config => simp [remaining, suspend]
  | _ => simp [remaining]

theorem remaining_finish_lt (context : Context) (node : Node) (work : Work)
    (result : Except Error work.Result) :
    remaining plan (finish plan context node.id work result).1 <
      remaining plan (.working context node work) := by
  have hmore : 5 * room plan context + 1 <
      remaining plan (.working context node work) := by
    simp [remaining]
  fun_cases finish plan context node.id work result with
  | case1 | case3 | case5 | case7 | case8 | case11 =>
      exact (remaining_leave_le rfl ..).trans_lt hmore
  | case2 | case4 | case6 | case9 | case10 | case12 => exact Nat.succ_pos _

/-- Every move brings a leg nearer to its end. -/
theorem remaining_step_lt (plan : Plan) (leg : Leg) (move : leg.Move) :
    remaining plan (leg.step plan move).1 < remaining plan leg := by
  cases leg with
  | between context next =>
      match move with
      | true => exact Nat.succ_pos _
      | false => exact remaining_enter_lt context next
  | entered context node =>
      match move with
      | none => exact Nat.succ_pos _
      | some now => exact remaining_dispatch_lt context node now
  | working context node work =>
      match move with
      | none => exact Nat.succ_pos _
      | some result => exact remaining_finish_lt context node work result
  | parking suspended =>
      match move with
      | none => exact Nat.lt_succ_self _
      | some error => exact Nat.succ_pos _
  | parked suspended => exact Nat.lt_succ_self _
  | ended outcome => exact move.elim

theorem remaining_le (plan : Plan) (leg : Leg) :
    remaining plan leg ≤ 5 * plan.limits.maxSteps + 5 := by
  simp only [remaining, room]
  split <;> omega

/-- A leg does not go on for ever: so many moves are the most that it can
make. -/
theorem moves_le {stages : ℕ → Leg} {n : ℕ}
    (hmoves : ∀ i < n, ∃ move, stages (i + 1) =
      ((stages i).step plan move).1) :
    n ≤ 5 * plan.limits.maxSteps + 5 := by
  have hlower : ∀ i ≤ n, remaining plan (stages i) + i ≤
      remaining plan (stages 0) := by
    intro i
    induction i with
    | zero => simp
    | succ i ih =>
        intro hi
        obtain ⟨move, hstep⟩ := hmoves i hi
        have hlt := remaining_step_lt plan (stages i) move
        rw [← hstep] at hlt
        have := ih (Nat.le_of_succ_le hi)
        omega
  have hlast := hlower n (Nat.le_refl n)
  have hfirst := remaining_le plan (stages 0)
  omega

/-! ## Counting -/

/-- The state of a run knows how many nodes have been dispatched. -/
def Counted (limits : EngineConfig) (events : List Event) (leg : Leg) : Prop :=
  dispatches events ≤ limits.maxSteps ∧
    ∀ context, leg.context? = some context →
      context.steps = dispatches events

theorem Leaves.steps_eq {context after : Context} {node : Node}
    {output : Json} {branch : Option Branch}
    (hleaves : Leaves plan context node after output branch) :
    after.steps = context.steps := by
  cases hleaves <;> rfl

/-- A step keeps the count right. -/
theorem Goes.counted {leg next : Leg} {move : leg.Move}
    {before events : List Event} (hgoes : Goes plan leg move next events)
    (hcounted : Counted plan.limits before leg) :
    Counted plan.limits (before ++ events) next := by
  obtain ⟨hle, hsteps⟩ := hcounted
  cases hgoes with
  | fails _ => exact ⟨by simpa [dispatches] using hle, by simp [context?]⟩
  | @enters context node _ hbudget =>
      have hcount : context.steps = dispatches before := hsteps _ rfl
      have hone : dispatches [startedEvent node] = 1 := rfl
      refine ⟨by rw [dispatches_append]; omega, ?_⟩
      rintro _ ⟨⟩
      rw [dispatches_append, hone, hcount]
  | works _ => simpa [Counted, context?] using ⟨hle, hsteps _ rfl⟩
  | leaves hvisits hleaves _ =>
      have hcount := hsteps _ hvisits.context?_eq
      refine ⟨by simpa [dispatches] using hle, ?_⟩
      rintro _ ⟨⟩
      simpa [dispatches, Context.traverse, hleaves.steps_eq] using hcount
  | completes _ => exact ⟨by simpa [dispatches] using hle, by simp [context?]⟩
  | parks _ => simpa [Counted, context?, suspend] using ⟨hle, hsteps _ rfl⟩
  | keeps => simpa [Counted, context?] using ⟨hle, hsteps _ rfl⟩
  | suspends =>
      simpa [Counted, context?, dispatches] using And.intro hle (hsteps _ rfl)

/-- An approval dispatches nothing. -/
theorem Resumes.counted {limits : EngineConfig} {suspended : SuspendedRun}
    {signal : ResumeSignal} {leg : Leg} {before events : List Event}
    (hresumes : Resumes suspended signal leg events)
    (hcounted : Counted limits before (.ended (.suspended suspended))) :
    Counted limits (before ++ events) leg := by
  obtain ⟨hle, hsteps⟩ := hcounted
  have hcount := hsteps _ rfl
  cases hresumes with
  | rejected _ => exact ⟨by simpa [dispatches] using hle, by simp [context?]⟩
  | approved _ _ =>
      refine ⟨by simpa [dispatches] using hle, ?_⟩
      rintro _ ⟨⟩
      simpa [dispatches, Context.traverse, Context.recordControl] using hcount

end Leg

/-! ## Surroundings that leave the budget to the run -/

/-- Nobody but the run itself reports a violation of loop safety.  What tools
report is told as a failure of an agent, whatever it is. -/
structure Surroundings.SparesBudget (around : Surroundings) : Prop where
  working : ∀ {context node work culprit iterations},
    (∀ server tool arguments, work ≠ .tool server tool arguments) →
    ¬ around (.working context node work)
      (some (.error (.loopSafety culprit iterations)))
  parking : ∀ {suspended culprit iterations},
    ¬ around (.parking suspended) (some (.loopSafety culprit iterations))

/-- The surroundings that a run has in practice are such, if the store is. -/
theorem Served.sparesBudget {settings : Agent.Settings} {σ : Type}
    [SuspensionStore σ]
    (hstore : ∀ (store : σ) suspended culprit iterations,
      SuspensionStore.save store suspended ≠
        .error (.loopSafety culprit iterations)) :
    (Served settings σ).SparesBudget where
  working := by
    intro context node work culprit iterations htool hserved
    cases hserved with
    | @agent _ _ _ _ full hreaches hresult =>
        cases full with
        | ok answer => simp [Except.map] at hresult
        | error failure =>
            have haccounts := hreaches.accounts
            rw [← Except.error.inj hresult] at haccounts
            cases haccounts
    | transform hscript => cases hscript _ rfl
    | choice hscript => cases hscript _ rfl
    | iteration hscript => cases hscript _ rfl
    | tool _ => exact htool _ _ _ rfl
  parking := by
    intro suspended culprit iterations hserved
    cases hserved with
    | refused manager hpark =>
        rcases manager.park_refusal hpark with hcancelled | hsave
        · cases hcancelled
        · exact hstore _ _ _ _ hsave

/-- A leg that ends with a failure has failed in its last step. -/
theorem Leg.Goes.fails_of_ended {plan : Plan} {leg : Leg} {move : leg.Move}
    {node : String} {error : Error} {events : List Event}
    (hgoes : Goes plan leg move (.ended (.failed node error)) events) :
    Fails plan leg move node error := by
  cases hgoes with
  | fails hfails => exact hfails

/-- A step fails with a violation of loop safety only where a further node is
reached on a budget that is used up. -/
theorem Leg.Fails.of_loopSafety {plan : Plan} {around : Surroundings}
    {leg : Leg} {move : leg.Move} {node culprit : String} {error : Error}
    {iterations : ℕ} (hspares : around.SparesBudget) (hmove : around leg move)
    (hfails : Fails plan leg move node error)
    (herror : error = .loopSafety culprit iterations) :
    ∃ context, leg = .between context node ∧ HEq move false ∧
      plan.limits.maxSteps ≤ context.steps := by
  cases hfails with
  | exhausted hbudget => exact ⟨_, rfl, .rfl, hbudget⟩
  | agent | transform | choice | iteration =>
      subst herror
      exact absurd hmove (hspares.working (by simp))
  | tool =>
      have hagent := herror ▸ toolFailure_ofAgent _
      cases hagent
  | refused =>
      subst herror
      exact absurd hmove hspares.parking
  | _ => cases herror

namespace History

variable {limits : EngineConfig} {around : Surroundings} {run : RunId}
variable {graph : Graph} {inputs : Assoc Json} {history : History}

/-! ## Runs -/

theorem Steady.counted
    (hsteady : Steady limits around run graph inputs history) :
    history.leg.Counted limits history.events := by
  refine Steady.induct
    (motive := fun history => history.leg.Counted limits history.events)
    ?_ ?_ ?_ hsteady
  · intro leg told hstarts
    cases hstarts with
    | refused _ =>
        exact ⟨Nat.zero_le _, by simp [Leg.context?]⟩
    | begins _ =>
        refine ⟨Nat.zero_le _, ?_⟩
        rintro _ ⟨⟩
        rfl
  · intro beginning past told leg next new move _ _ _ hgoes hcounted
    simpa [events] using hgoes.counted hcounted
  · intro beginning past told suspended signal leg new _ hresumes hcounted
    exact hresumes.counted hcounted

/-- A run has come to one more node after all the dispatches that it may make,
and goes on without being cancelled. -/
inductive Exhausted (limits : EngineConfig) (around : Surroundings)
    (run : RunId) (graph : Graph) (inputs : Assoc Json) (next : String) :
    History → Prop
  | intro {beginning : Beginning} {past told : List Event} {context : Context}
      (hsteady : Steady limits around run graph inputs
        ⟨beginning, ⟨limits, run, graph⟩, past, told, .between context next⟩)
      (hcount : dispatches (past ++ told) = limits.maxSteps) :
      Exhausted limits around run graph inputs next
        (after ⟨beginning, ⟨limits, run, graph⟩, past, told,
          .between context next⟩ false)

theorem Exhausted.leg_eq {next : String}
    (hexhausted : Exhausted limits around run graph inputs next history) :
    history.leg = .ended (.failed next
      (.loopSafety next (min (limits.maxSteps + 1) (Width.span 32 - 1)))) := by
  obtain ⟨hsteady, hcount⟩ := hexhausted
  have hsteps := hsteady.counted.2 _ rfl
  simp only [events, hcount] at hsteps
  simp [after, Leg.step, Leg.enter, Leg.fail, hsteps, Leg.maxReported]

/-- Only the budget makes a run fail with a violation of loop safety. -/
theorem Steady.exhausted {next culprit : String} {iterations : ℕ}
    (hsteady : Steady limits around run graph inputs history)
    (hspares : around.SparesBudget)
    (hleg : history.leg =
      .ended (.failed next (.loopSafety culprit iterations))) :
    Exhausted limits around run graph inputs next history := by
  cases hsteady with
  | @start leg told hstart =>
      obtain rfl : leg = _ := hleg
      cases (Leg.starts_of_start hstart).2
  | @step history hsteady move hmove =>
      have hsound := hsteady.reachable.sound.2
      have hgraph := hsteady.reachable.wellFormed
      have hplan := hsteady.plan_eq
      obtain ⟨beginning, plan, past, told, leg⟩ := history
      obtain rfl : plan = ⟨limits, run, graph⟩ := hplan
      have hgoes := Leg.goes_step hgraph hsound move
      rw [show (leg.step _ move).1 = _ from hleg] at hgoes
      obtain ⟨context, rfl, hfalse, hbudget⟩ :=
        hgoes.fails_of_ended.of_loopSafety hspares hmove rfl
      obtain rfl := eq_of_heq hfalse
      obtain ⟨hle, hsteps⟩ := hsteady.counted
      exact .intro hsteady (le_antisymm hle (hsteps _ rfl ▸ hbudget))
  | @resume _ _ _ leg _ hsteady hsuspended hresume =>
      obtain rfl : leg = _ := hleg
      have hgraph := hsteady.reachable.wellFormed
      rw [← show _ = graph from congrArg Plan.graph hsteady.plan_eq] at hgraph
      have hawaits := hsteady.awaits hsuspended
      cases (Leg.resumes_of_resume hgraph hawaits hresume).2

/-- The budget of steps is one for the whole run.  The state of the run counts
the nodes that it has dispatched, over all legs; these are never more than
the budget allows, and no leg goes on for ever.  Where nobody else reports a
violation of loop safety, a run fails with one exactly where it reaches a
further node after that many dispatches, and the error tells of this node. -/
theorem Steady.steps_within_budget
    (hsteady : Steady limits around run graph inputs history) :
    (∀ context, history.leg.context? = some context →
      context.steps = dispatches history.events) ∧
    dispatches history.events ≤ limits.maxSteps ∧
    (∀ (stages : ℕ → Leg) (n : ℕ), stages 0 = history.leg →
      (∀ i < n, ∃ move, stages (i + 1) =
        ((stages i).step history.plan move).1) →
      n ≤ 5 * limits.maxSteps + 5) ∧
    (around.SparesBudget → ∀ next culprit iterations,
      history.leg = .ended (.failed next (.loopSafety culprit iterations)) ↔
        Exhausted limits around run graph inputs next history ∧
          culprit = next ∧
          iterations = min (limits.maxSteps + 1) (Width.span 32 - 1)) := by
  refine ⟨hsteady.counted.2, hsteady.counted.1, ?_, ?_⟩
  · intro stages n _ hmoves
    rw [hsteady.plan_eq] at hmoves
    exact Leg.moves_le hmoves
  · intro hspares next culprit iterations
    constructor
    · intro hleg
      have hexhausted := hsteady.exhausted hspares hleg
      have hsame := hexhausted.leg_eq
      rw [hleg] at hsame
      simp only [Leg.ended.injEq, Outcome.failed.injEq, Error.loopSafety.injEq,
        true_and] at hsame
      exact ⟨hexhausted, hsame⟩
    · rintro ⟨hexhausted, rfl, rfl⟩
      exact hexhausted.leg_eq

end History

/-- The standard limits but for the budget of steps. -/
def EngineConfig.budget (maxSteps : ℕ) : EngineConfig :=
  { EngineConfig.standard with maxSteps }

namespace Review

/-- The run has come to its second node, with a budget of one step. -/
def spent : History where
  beginning := .start
  plan := ⟨.budget 1, "run", graph⟩
  past := []
  told := [⟨"begin", .started, Json.ofMembers [("kind", .text "start")]⟩,
    ⟨"begin", .output, .record []⟩,
    ⟨"check", .error, Error.payload (.loopSafety "check" 2)⟩]
  leg := .ended (.failed "check" (.loopSafety "check" 2))

theorem spent_steady :
    History.Steady (.budget 1) (Served settings MemoryStore) "run" graph []
      spent := by
  have hstart : Leg.start ⟨.budget 1, "run", graph⟩ [] =
      .ok (.between (.ofInputs []) "begin", []) := by
    rw [Leg.start_eq graph_wellFormed rfl]
    rfl
  have hbegun : History.Steady (.budget 1) (Served settings MemoryStore) "run"
    graph [] _ := .start hstart
  have hbegin := hbegun.step false (.between _)
  have hleft := hbegin.step (some (⟨0, 0⟩ : Instant)) (.entered _)
  exact hleft.step false (.between _)

theorem sparesBudget : (Served settings MemoryStore).SparesBudget :=
  Served.sparesBudget (by rintro store suspended culprit iterations ⟨⟩)

/-- A run that fails because its budget is used up. -/
theorem steps_within_budget_spent :
    History.Steady (.budget 1) (Served settings MemoryStore) "run" graph []
        spent ∧
      (Served settings MemoryStore).SparesBudget ∧
      History.Exhausted (.budget 1) (Served settings MemoryStore) "run" graph []
        "check" spent := by
  have hwithin := spent_steady.steps_within_budget
  exact ⟨spent_steady, sparesBudget,
    ((hwithin.2.2.2 sparesBudget _ _ _).mp rfl).1⟩

end Review

end Workflow
