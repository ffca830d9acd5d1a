import Mathlib.Algebra.Order.BigOperators.Group.List
import Mathlib.Algebra.Order.Ring.Nat
import Workflow.Proofs.Graph.Depth
import Workflow.Proofs.Run.Budget
import Workflow.Proofs.Run.Loop

/-!
# Runs that end by themselves

A loop enters its body a bounded number of times before it is left, but then
its counter starts anew, so how often all nodes of a run are dispatched depends
on the way the cycles of the graph combine.  Where every cycle enters the body
of a loop, there is a bound that knows only the graph and the ceiling of
loops; the budget of steps does not matter.

The bound is an amount of `credit`.  Every loop holds the price of the entries
that are left to it, and the price is greater the deeper the loop.  To enter a
body uses up the price of one entry, and wherever the run goes from there it
does not need more.  To go onwards gains depth, and what this is worth pays for
the entries of a loop that is left.  So each dispatch lowers the credit.

It is not enough that every cycle touches a while node, as is asked of every
graph: `Idle` leaves its only loop again and again.
-/

namespace Workflow

namespace Graph

variable {graph : Graph} {ceiling : ℕ}

/-! ## Prices -/

/-- What being so deep is worth: one level more is worth a full set of entries
at the price above. -/
def worth (ceiling : ℕ) : ℕ → ℕ
  | 0 => 0
  | depth + 1 => (worth ceiling depth + 1) * (ceiling + 1)

theorem worth_lt_succ (depth : ℕ) :
    worth ceiling depth < worth ceiling (depth + 1) :=
  Nat.lt_of_lt_of_le (Nat.lt_succ_self _)
    (Nat.le_mul_of_pos_right _ (Nat.succ_pos ceiling))

theorem worth_mono : Monotone (worth ceiling) :=
  monotone_nat_of_le_succ fun depth => (worth_lt_succ depth).le

/-- What being at an id is worth. -/
noncomputable def worthAt (graph : Graph) (ceiling : ℕ) (id : String) : ℕ :=
  worth ceiling (graph.depth id)

/-- The most that being somewhere can be worth. -/
def topWorth (graph : Graph) (ceiling : ℕ) : ℕ :=
  worth ceiling graph.nodes.length

theorem worthAt_le (graph : Graph) (ceiling : ℕ) (id : String) :
    graph.worthAt ceiling id ≤ graph.topWorth ceiling :=
  worth_mono (depth_le id)

/-- Going onwards pays for a full set of entries, and for itself. -/
theorem CyclesEnterBodies.worthAt_le (hcycles : graph.CyclesEnterBodies)
    (ceiling : ℕ) {edge : Edge} (hedge : edge ∈ graph.onward.edges)
    (hsource : edge.source ∈ graph.nodes.map (·.id)) :
    (graph.worthAt ceiling edge.source + 1) * (ceiling + 1) ≤
      graph.worthAt ceiling edge.target :=
  worth_mono (hcycles.depth_lt hedge hsource)

/-- So many nodes are dispatched at most, where every cycle enters the body of
a loop. -/
def mostDispatches (graph : Graph) (ceiling : ℕ) : ℕ :=
  graph.nodes.length * ((graph.topWorth ceiling + 1) * ceiling) +
    graph.topWorth ceiling + 1

end Graph

namespace Leg

variable {plan : Plan} {refusal? : Json → Option String}
variable {context after : Context} {node : Node} {edge : Edge}

/-! ## Credit -/

/-- How often a node may still enter its body before it is left. -/
def entriesLeft (limits : EngineConfig) (context : Context) (node : Node) : ℕ :=
  match node.kind with
  | .loop config => loopLimit limits config - context.iteration node.id
  | _ => 0

theorem entriesLeft_le (limits : EngineConfig) (context : Context)
    (node : Node) : entriesLeft limits context node ≤ limits.loopCeiling := by
  unfold entriesLeft
  split
  · exact (Nat.sub_le _ _).trans (Nat.min_le_right _ _)
  · exact Nat.zero_le _

theorem entriesLeft_congr {limits : EngineConfig}
    (hcounter : Assoc.get? after.counters node.id =
      Assoc.get? context.counters node.id) :
    entriesLeft limits after node = entriesLeft limits context node := by
  simp [entriesLeft, Context.iteration, hcounter]

/-- The price of all entries into bodies that are left. -/
noncomputable def reserve (plan : Plan) (context : Context) : ℕ :=
  (plan.graph.nodes.map fun node =>
    (plan.graph.worthAt plan.limits.loopCeiling node.id + 1) *
      entriesLeft plan.limits context node).sum

/-- The credit of a run that comes to an id. -/
noncomputable def credit (plan : Plan) (context : Context) (id : String) : ℕ :=
  reserve plan context + (plan.graph.topWorth plan.limits.loopCeiling -
    plan.graph.worthAt plan.limits.loopCeiling id)

theorem reserve_le (plan : Plan) (context : Context) :
    reserve plan context ≤ plan.graph.nodes.length *
      ((plan.graph.topWorth plan.limits.loopCeiling + 1) *
        plan.limits.loopCeiling) := by
  have hprice : ∀ node ∈ plan.graph.nodes,
      (plan.graph.worthAt plan.limits.loopCeiling node.id + 1) *
          entriesLeft plan.limits context node ≤
        (plan.graph.topWorth plan.limits.loopCeiling + 1) *
          plan.limits.loopCeiling := fun node _ =>
    Nat.mul_le_mul (Nat.succ_le_succ (Graph.worthAt_le _ _ node.id))
      (entriesLeft_le plan.limits context node)
  simpa [reserve] using List.sum_le_sum hprice

theorem credit_lt_mostDispatches (plan : Plan) (context : Context)
    (id : String) :
    credit plan context id <
      plan.graph.mostDispatches plan.limits.loopCeiling := by
  have hreserve := reserve_le plan context
  simp only [credit, Graph.mostDispatches]
  omega

/-- Where the counter of one node only has changed, so has the reserve by the
price of its entries. -/
theorem reserve_add_eq (hgraph : plan.graph.WellFormed refusal?)
    (hnode : node ∈ plan.graph.nodes)
    (hothers : ∀ id, id ≠ node.id →
      Assoc.get? after.counters id = Assoc.get? context.counters id) :
    reserve plan after +
        (plan.graph.worthAt plan.limits.loopCeiling node.id + 1) *
          entriesLeft plan.limits context node =
      reserve plan context +
        (plan.graph.worthAt plan.limits.loopCeiling node.id + 1) *
          entriesLeft plan.limits after node := by
  have hnodup := List.Nodup.of_map _ hgraph.idsDistinct
  have hrest : ∀ other ∈ plan.graph.nodes.erase node,
      entriesLeft plan.limits after other =
        entriesLeft plan.limits context other := by
    intro other hother
    obtain ⟨hne, hmem⟩ := hnodup.mem_erase_iff.mp hother
    refine entriesLeft_congr (hothers other.id fun hid => hne ?_)
    exact List.inj_on_of_nodup_map hgraph.idsDistinct hmem hnode hid
  have hmap := List.map_congr_left fun other hother =>
    congrArg
      ((plan.graph.worthAt plan.limits.loopCeiling other.id + 1) * ·)
      (hrest other hother)
  simp only [reserve, ← List.sum_map_erase _ hnode, hmap]
  omega

/-- Whoever takes an edge out of a node has less credit afterwards, if an edge
into a body uses up one entry. -/
theorem credit_lt (hgraph : plan.graph.WellFormed refusal?)
    (hcycles : plan.graph.CyclesEnterBodies)
    (hnode : node ∈ plan.graph.nodes) (hedge : edge ∈ plan.graph.edges)
    (hsource : edge.source = node.id)
    (hothers : ∀ id, id ≠ node.id →
      Assoc.get? after.counters id = Assoc.get? context.counters id)
    (hbody : plan.graph.entersBody edge = true →
      entriesLeft plan.limits after node + 1 =
        entriesLeft plan.limits context node) :
    credit plan after edge.target < credit plan context node.id := by
  have hchange := reserve_add_eq hgraph hnode hothers
  have hworth :=
    Graph.worthAt_le plan.graph plan.limits.loopCeiling node.id
  have htarget :=
    Graph.worthAt_le plan.graph plan.limits.loopCeiling edge.target
  simp only [credit]
  by_cases henters : plan.graph.entersBody edge = true
  · -- The price of an entry is more than what being at the loop is worth.
    rw [← hbody henters, Nat.mul_succ] at hchange
    omega
  · have honward : edge ∈ plan.graph.onward.edges :=
      Graph.mem_onward_iff.mpr ⟨hedge, by simpa using henters⟩
    have hgain := hcycles.worthAt_le plan.limits.loopCeiling honward
      (hgraph.sources edge hedge)
    rw [hsource, Nat.mul_succ] at hgain
    have hentries := Nat.mul_le_mul_left
      (plan.graph.worthAt plan.limits.loopCeiling node.id + 1)
      (entriesLeft_le plan.limits after node)
    omega

/-- An edge by which a loop is left for its body uses up one entry. -/
theorem Leaves.entriesLeft_eq {output : Json} {branch : Option Branch}
    (hgraph : plan.graph.WellFormed refusal?)
    (hnode : node ∈ plan.graph.nodes)
    (hleaves : Leaves plan context node after output branch)
    (hexit : plan.graph.Exit node.id branch edge)
    (henters : plan.graph.entersBody edge = true) :
    entriesLeft plan.limits after node + 1 =
      entriesLeft plan.limits context node := by
  obtain ⟨hloops, hbranch⟩ : plan.graph.loops node.id = true ∧
      edge.branch? = some .body := by
    simpa [Graph.entersBody, hexit.source] using henters
  have hloop : node.kind.isLoop = true := by
    by_contra hother
    simp [hgraph.loops_eq_false hnode (by simpa using hother)] at hloops
  cases hleaves with
  | start hkind => simp [hkind, NodeKind.isLoop] at hloop
  | value hkind =>
      cases hnodeKind : node.kind <;>
        simp_all [NodeKind.isLoop, NodeKind.producesValue]
  | choice hkind _ => simp [hkind, NodeKind.isLoop] at hloop
  | body hkind hlimit =>
      simp only [entriesLeft, hkind, Context.recordControl,
        Context.setCounter, Context.iteration, Assoc.get?_insert_self]
      simp only [Context.iteration] at hlimit
      simp only [Option.getD_some]
      omega
  | exit hkind => simp [hexit.label .exit rfl] at hbranch

/-- The credit at a stage. -/
noncomputable def creditAt (plan : Plan) : Leg → ℕ
  | .between context next => credit plan context next + 1
  | .entered context node | .working context node _ =>
    credit plan context node.id
  | .parking suspended | .parked suspended | .ended (.suspended suspended) =>
    credit plan suspended.context suspended.cursor
  | .ended (.completed _) | .ended (.failed _ _) => 0

theorem Visits.creditAt_eq {leg : Leg} (hvisits : Visits leg context node) :
    creditAt plan leg = credit plan context node.id := by
  cases hvisits <;> rfl

/-- Each dispatch is paid for. -/
theorem Goes.creditAt_le {leg next : Leg} {move : leg.Move}
    {events : List Event} (hgraph : plan.graph.WellFormed refusal?)
    (hcycles : plan.graph.CyclesEnterBodies) (hsound : Sound plan leg)
    (hgoes : Goes plan leg move next events) :
    dispatches events + creditAt plan next ≤ creditAt plan leg := by
  cases hgoes with
  | fails _ => simp [dispatches, creditAt]
  | enters _ _ => simp [dispatches, creditAt, startedEvent, credit, reserve,
      entriesLeft, Context.iteration, Nat.add_comm]
  | works _ => simp [dispatches, creditAt]
  | @leaves _ _ context after node _ _ edge hvisits hleaves hexit =>
      have hnode := hvisits.mem hsound
      have hothers := fun id (hne : id ≠ node.id) => hleaves.counter_of_ne hne
      have hentries := hleaves.entriesLeft_eq hgraph hnode hexit
      have hlt : credit plan (after.traverse edge.id) edge.target <
          credit plan context node.id :=
        credit_lt hgraph hcycles hnode hexit.mem hexit.source hothers hentries
      rw [hvisits.creditAt_eq]
      simpa [dispatches, creditAt] using Nat.succ_le_of_lt hlt
  | completes _ => simp [dispatches, creditAt]
  | parks _ => simp [dispatches, creditAt, suspend]
  | keeps => simp [dispatches, creditAt]
  | suspends => simp [dispatches, creditAt]

/-- An approval costs nothing. -/
theorem Resumes.creditAt_le {suspended : SuspendedRun} {signal : ResumeSignal}
    {leg : Leg} {events : List Event}
    (hgraph : plan.graph.WellFormed refusal?)
    (hcycles : plan.graph.CyclesEnterBodies) (hawaits : Awaits plan suspended)
    (hresumes : Resumes suspended signal leg events) :
    dispatches events + creditAt plan leg ≤
      creditAt plan (.ended (.suspended suspended)) := by
  cases hresumes with
  | rejected _ => simp [dispatches, creditAt]
  | @approved edge _ hexit =>
      obtain ⟨node, hnode, config, hkind, hid⟩ := hawaits.exists_node
      rw [hawaits.graph_eq] at hexit
      have hplain : plan.graph.loops node.id = false :=
        hgraph.loops_eq_false hnode (by simp [hkind, NodeKind.isLoop])
      have hlt : credit plan ((suspended.context.recordControl suspended.cursor
            signal.payload).traverse edge.id) edge.target <
          credit plan suspended.context node.id :=
        credit_lt hgraph hcycles hnode hexit.mem (hexit.source.trans hid.symm)
          (fun _ _ => rfl)
          (by simp [Graph.entersBody, hexit.source, ← hid, hplain])
      rw [hid] at hlt
      simpa [dispatches, creditAt] using Nat.succ_le_of_lt hlt

end Leg

namespace History

variable {limits : EngineConfig} {around : Surroundings} {run : RunId}
variable {graph : Graph} {inputs : Assoc Json} {history : History}

/-! ## Runs -/

/-- What has been dispatched and what can still be paid for stay below the
bound. -/
theorem Steady.dispatches_add_le
    (hsteady : Steady limits around run graph inputs history)
    (hcycles : graph.CyclesEnterBodies) :
    dispatches history.events +
        history.leg.creditAt ⟨limits, run, graph⟩ ≤
      graph.mostDispatches limits.loopCeiling := by
  have hgraph := hsteady.reachable.wellFormed
  refine Steady.induct
    (motive := fun history => dispatches history.events +
        history.leg.creditAt ⟨limits, run, graph⟩ ≤
      graph.mostDispatches limits.loopCeiling)
    ?_ ?_ ?_ hsteady
  · intro leg told hstarts
    cases hstarts with
    | refused _ => exact Nat.zero_le _
    | begins _ =>
        simpa [events, dispatches, Leg.creditAt] using Nat.succ_le_of_lt
          (Leg.credit_lt_mostDispatches ⟨limits, run, graph⟩ _ _)
  · intro beginning past told leg next new move hsound _ _ hgoes hle
    have hpaid := hgoes.creditAt_le hgraph hcycles hsound
    simp only [events, dispatches_append] at hle ⊢
    omega
  · intro beginning past told suspended signal leg new hawaits hresumes hle
    have hpaid := hresumes.creditAt_le hgraph hcycles hawaits
    simp only [events, dispatches_append] at hle ⊢
    omega

/-- Where every cycle enters the body of a loop, a run ends by itself: over all
of its legs, whatever its surroundings do and however large the budget is, it
dispatches no more than a number of nodes that the graph and the ceiling of
loops tell.  With a budget as large as this number, no run comes to violate
loop safety. -/
theorem exists_bound_of_cyclesEnterBodies (hcycles : graph.CyclesEnterBodies)
    (ceiling : ℕ) :
    ∃ bound, ∀ limits around run inputs history,
      limits.loopCeiling = ceiling →
      Steady limits around run graph inputs history →
      dispatches history.events ≤ bound ∧
      (bound ≤ limits.maxSteps → around.SparesBudget →
        ∀ node culprit iterations, history.leg ≠
          .ended (.failed node (.loopSafety culprit iterations))) := by
  refine ⟨graph.mostDispatches ceiling, ?_⟩
  rintro limits around run inputs history rfl hsteady
  constructor
  · have hle := hsteady.dispatches_add_le hcycles
    omega
  · intro hbudget hspares node culprit iterations hleg
    obtain ⟨hbefore, hcount⟩ := hsteady.exhausted hspares hleg
    have hle := hbefore.dispatches_add_le hcycles
    simp only [events, Leg.creditAt, hcount] at hle
    omega

end History

namespace Laps

theorem graph_cyclesEnterBodies : graph.CyclesEnterBodies := by
  let rank : String → ℕ := fun id =>
    if id = "begin" then 0 else if id = "again" then 1 else 2
  exact Graph.cyclesEnterBodies_of_rank rank (by decide +kernel)

/-- A bound for the run that goes round its loop twice, and a budget on which
no run of this workflow fails. -/
theorem exists_bound_laps :
    graph.CyclesEnterBodies ∧
    History.Steady .standard around "run" graph [] done ∧
    ∃ bound, dispatches done.events ≤ bound ∧
      ∀ history, History.Steady (.budget bound)
          (Served Review.settings MemoryStore) "run" graph [] history →
        ∀ node culprit iterations, history.leg ≠
          .ended (.failed node (.loopSafety culprit iterations)) := by
  obtain ⟨bound, hbound⟩ :=
    History.exists_bound_of_cyclesEnterBodies graph_cyclesEnterBodies 100
  have hdone := hbound .standard around "run" [] done rfl done_steady
  refine ⟨graph_cyclesEnterBodies, done_steady, bound, hdone.1, ?_⟩
  intro history hsteady
  have hsafe := hbound (.budget bound) _ "run" [] history rfl hsteady
  exact hsafe.2 le_rfl Review.sparesBudget

end Laps

namespace Idle

/-- A workflow whose loop leads back to itself by its exit. -/
def graph : Graph :=
  Roundabout.graph ⟨"false", 1⟩ "exit" "body"

theorem graph_wellFormed : graph.WellFormed Schema.refusal? :=
  Roundabout.graph_wellFormed (show Text.trimmed "false" ≠ "" by decide)
    (Graph.Fork.swap
      ⟨_, _, .refl _, by decide +kernel, by decide +kernel⟩)

variable {maxSteps : ℕ}

/-- The run can come to a stage. -/
def Comes (maxSteps : ℕ) (leg : Leg) : Prop :=
  ∃ told, History.Steady (.budget maxSteps) (Served Review.settings MemoryStore)
    "run" graph []
    ⟨.start, ⟨.budget maxSteps, "run", graph⟩, [], told, leg⟩

theorem Comes.step {leg next : Leg} (hcomes : Comes maxSteps leg)
    (move : leg.Move) (hmove : Served Review.settings MemoryStore leg move)
    (hstep : (leg.step ⟨.budget maxSteps, "run", graph⟩ move).1 = next) :
    Comes maxSteps next := by
  obtain ⟨told, hsteady⟩ := hcomes
  exact ⟨_, hsteady.step_to move hmove (Prod.ext hstep rfl)⟩

theorem comes_begin :
    Comes maxSteps (.between (.ofInputs []) "begin") :=
  ⟨[], .start (Roundabout.start_eq graph_wellFormed)⟩

/-- As long as the budget allows it, the run comes to the node that is
next. -/
theorem Comes.enter {context : Context} {next : String} {node : Node}
    (hcomes : Comes maxSteps (.between context next))
    (hsteps : context.steps < maxSteps) (hnode : graph.node? next = some node) :
    Comes maxSteps
      (.entered { context with steps := context.steps + 1 } node) := by
  have hroom : ¬ (EngineConfig.budget maxSteps).maxSteps < context.steps + 1 :=
    Nat.not_lt_of_le hsteps
  exact hcomes.step false (.between _)
    (by simp [Leg.step, Leg.enter, hroom, hnode])

/-- A condition that does not hold brings the run back to its loop. -/
theorem Comes.round {context : Context}
    (hcomes : Comes maxSteps (.between context "again"))
    (hcounters : context.counters = []) (hsteps : context.steps < maxSteps) :
    ∃ after, Comes maxSteps (.between after "again") ∧
      after.counters = [] ∧ after.steps = context.steps + 1 := by
  let again : Node := ⟨"again", none, .loop ⟨"false", 1⟩⟩
  let context' : Context := { context with steps := context.steps + 1 }
  have hentered : Comes maxSteps (.entered context' again) :=
    hcomes.enter hsteps (by decide)
  have hasked : Comes maxSteps (.working context' again
      (.iteration "false" (Assoc.insert context'.bindings "iteration" (.nat 1))
        (EngineConfig.budget maxSteps).scriptTimeout 0)) := by
    have hiteration : context'.iteration "again" = 0 := by
      simp [Context.iteration, context', hcounters, Assoc.get?]
    have hlimit :
        Leg.loopLimit (EngineConfig.budget maxSteps) ⟨"false", 1⟩ = 1 := rfl
    exact hentered.step (some ⟨0, 0⟩) (.entered _)
      (by simp [Leg.step, Leg.dispatch, again, hiteration, hlimit])
  have hexit : Leg.exit? graph "again" (some .exit) =
      .ok ⟨"back", "again", "again", some "exit"⟩ := by decide +kernel
  let after : Context := ((context'.clearCounter "again").recordControl "again"
    (Leg.loopOutput .exit 0)).traverse "back"
  have hleft : Comes maxSteps (.between after "again") :=
    hasked.step (some (.ok false)) (.iteration (by simp))
      (by simp only [Leg.step, Leg.finish, Leg.exitLoop, Leg.direct, Leg.leave,
        again, hexit, after])
  have hcleared : Assoc.erase context.counters "again" = [] := by
    rw [hcounters]
    rfl
  exact ⟨after, hleft, hcleared, rfl⟩

/-- The run can be in its loop after any number of steps that the budget
allows. -/
theorem exists_comes {steps : ℕ} (hsteps : steps < maxSteps) :
    ∃ context, Comes maxSteps (.between context "again") ∧
      context.counters = [] ∧ context.steps = steps + 1 := by
  induction steps with
  | zero =>
      have hentered : Comes maxSteps
          (.entered _ ⟨"begin", none, .start []⟩) :=
        comes_begin.enter hsteps (by decide)
      exact ⟨_, hentered.step (some (⟨0, 0⟩ : Instant)) (.entered _) rfl, rfl,
        rfl⟩
  | succ steps ih =>
      obtain ⟨context, hcomes, hcounters, hcount⟩ :=
        ih (Nat.lt_of_succ_lt hsteps)
      rw [← hcount] at hsteps ⊢
      exact hcomes.round hcounters hsteps

/-- That every cycle touches a while node does not end a run: whatever bound
is put on them, there is a run that dispatches more nodes, and fails with a
violation of loop safety on a budget that is larger. -/
theorem no_bound :
    graph.defect? Schema.refusal? = none ∧
    ∀ bound, ∃ limits history,
      limits.loopCeiling = EngineConfig.standard.loopCeiling ∧
      History.Steady limits (Served Review.settings MemoryStore) "run" graph []
        history ∧
      bound < dispatches history.events ∧ bound ≤ limits.maxSteps ∧
      ∃ node culprit iterations, history.leg =
        .ended (.failed node (.loopSafety culprit iterations)) := by
  refine ⟨graph_wellFormed.defect?_eq_none, fun bound => ?_⟩
  obtain ⟨context, ⟨told, hsteady⟩, -, hsteps⟩ :=
    exists_comes (Nat.lt_succ_self bound)
  have hcount : dispatches told = bound + 1 :=
    (hsteady.counted.2 _ rfl).symm.trans hsteps
  have hspent := hsteady.step false (.between _)
  have hexhausted := (History.Exhausted.intro hsteady hcount).leg_eq
  refine ⟨.budget (bound + 1), _, rfl, hspent, ?_, Nat.le_succ bound, _, _, _,
    hexhausted⟩
  simp only [History.after, History.events, List.nil_append,
    dispatches_append, hcount]
  omega

end Idle

end Workflow
