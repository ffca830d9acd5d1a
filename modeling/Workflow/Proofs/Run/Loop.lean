import Workflow.Proofs.Run.History
import Workflow.Proofs.Run.Trace

/-!
# Loops

A while node enters its body a number of times and then is left by its exit.
Between two visits other nodes are visited, loops among them, and the run may
be put aside; the body may also be left without coming back at once.  What the
loop reports is nevertheless a sequence of complete circuits, followed by the
entries since the last exit, and the counter kept for the loop is the number
of these entries.  `Circles` says so for the reports and `Leg.Keeps` for a
stage of the run.
-/

namespace Workflow

/-! ## Reports of a loop -/

/-- What a loop reports while it enters its body so many times. -/
def entries (count : ℕ) : List Json :=
  (List.range count).map fun i => Leg.loopOutput .body (i + 1)

/-- What a loop reports from its first entry to its exit. -/
def circuit (count : ℕ) : List Json :=
  entries count ++ [Leg.loopOutput .exit count]

theorem entries_succ (count : ℕ) :
    entries (count + 1) = entries count ++ [Leg.loopOutput .body (count + 1)] := by
  simp [entries, List.range_succ]

/-- What a node has put out, in order. -/
def outputsOf (id : String) (events : List Event) : List Json :=
  (events.filter fun event => event.kind = .output && event.node = id).map
    (·.payload)

@[simp] theorem outputsOf_append (id : String) (before events : List Event) :
    outputsOf id (before ++ events) =
      outputsOf id before ++ outputsOf id events := by
  simp [outputsOf]

/-- The outputs of a loop are complete circuits and the entries after them,
and a limit is kept. -/
structure Circles (limit : ℕ) (outputs : List Json) (rounds : List ℕ)
    (current : ℕ) : Prop where
  outputs_eq : outputs = rounds.flatMap circuit ++ entries current
  rounds_le : ∀ count ∈ rounds, count ≤ limit
  current_le : current ≤ limit

namespace Circles

variable {limit current : ℕ} {outputs : List Json} {rounds : List ℕ}

theorem nil (limit : ℕ) : Circles limit [] [] 0 :=
  ⟨rfl, by simp, Nat.zero_le limit⟩

theorem enter (hcircles : Circles limit outputs rounds current)
    (hlimit : current < limit) :
    Circles limit (outputs ++ [Leg.loopOutput .body (current + 1)]) rounds
      (current + 1) where
  outputs_eq := by
    rw [hcircles.outputs_eq, entries_succ, List.append_assoc]
  rounds_le := hcircles.rounds_le
  current_le := hlimit

theorem exit (hcircles : Circles limit outputs rounds current) :
    Circles limit (outputs ++ [Leg.loopOutput .exit current])
      (rounds ++ [current]) 0 where
  outputs_eq := by
    simp [hcircles.outputs_eq, circuit, entries]
  rounds_le := by
    intro count hcount
    rcases List.mem_append.mp hcount with hold | hnew
    · exact hcircles.rounds_le count hold
    · rw [List.mem_singleton.mp hnew]
      exact hcircles.current_le
  current_le := Nat.zero_le limit

end Circles

/-! ## Stages -/

/-- The counter of a loop that has entered its body so many times since it was
last left. -/
def counter? (count : ℕ) : Option ℕ :=
  if count = 0 then none else some count

namespace Leg

variable {plan : Plan} {refusal? : Json → Option String}

/-- What a stage and the reports up to it tell of a loop.  Where its condition
never fails to hold, all of its circuits are full. -/
structure Keeps (limit : ℕ) (eager : Prop) (id : String) (events : List Event)
    (leg : Leg) (rounds : List ℕ) (current : ℕ) : Prop where
  circles : Circles limit (outputsOf id events) rounds current
  counter : ∀ context, leg.context? = some context →
    Assoc.get? context.counters id = counter? current
  full : eager → ∀ count ∈ rounds, count = limit

variable {limit current : ℕ} {eager : Prop} {id : String} {rounds : List ℕ}
variable {before events : List Event} {leg next : Leg}

/-- The counter of a loop as the loop reads it. -/
theorem Keeps.iteration_eq {context : Context}
    (hkeeps : Keeps limit eager id before leg rounds current)
    (hcontext : leg.context? = some context) :
    context.iteration id = current := by
  unfold Context.iteration
  rw [hkeeps.counter context hcontext]
  by_cases hzero : current = 0
  · simp [counter?, hzero]
  · simp [counter?, hzero]

/-- What does not concern a loop leaves it as it is. -/
theorem Keeps.frame (hkeeps : Keeps limit eager id before leg rounds current)
    (houtputs : outputsOf id events = [])
    (hcounter : ∀ after, next.context? = some after →
      ∃ context, leg.context? = some context ∧
        Assoc.get? after.counters id = Assoc.get? context.counters id) :
    Keeps limit eager id (before ++ events) next rounds current where
  circles := by simpa [houtputs] using hkeeps.circles
  counter := by
    intro after hafter
    obtain ⟨context, hcontext, heq⟩ := hcounter after hafter
    rw [heq, hkeeps.counter context hcontext]
  full := hkeeps.full

/-- Only a loop that is left changes its counter. -/
theorem Leaves.counter_of_ne {context after : Context} {node : Node}
    {output : Json} {branch : Option Branch} (hne : id ≠ node.id)
    (hleaves : Leaves plan context node after output branch) :
    Assoc.get? after.counters id = Assoc.get? context.counters id := by
  cases hleaves with
  | start _ => rfl
  | value _ => rfl
  | choice _ _ => rfl
  | body _ _ => exact Assoc.get?_insert_of_ne _ _ hne
  | exit _ => exact Assoc.get?_erase_of_ne _ hne

/-- Leaving a loop goes on with its circuit, or completes it. -/
theorem Keeps.leave {context after : Context} {node : Node}
    {config : WhileConfig} {output : Json} {branch : Option Branch}
    {edge : Edge} (hkind : node.kind = .loop config)
    (hkeeps : Keeps (loopLimit plan.limits config) eager node.id before leg
      rounds current)
    (hvisits : Visits leg context node)
    (hleaves : Leaves plan context node after output branch)
    (hforced : eager → output = loopOutput .exit current →
      loopLimit plan.limits config ≤ current) :
    ∃ rounds current, Keeps (loopLimit plan.limits config) eager node.id
      (before ++ [⟨node.id, .output, output⟩])
      (.between (after.traverse edge.id) edge.target) rounds current := by
  have hone : ∀ output : Json,
      outputsOf node.id [⟨node.id, .output, output⟩] = [output] := by
    simp [outputsOf]
  have hcurrent := hkeeps.iteration_eq hvisits.context?_eq
  cases hleaves with
  | start hother => simp [hkind] at hother
  | value hother => simp [hkind, NodeKind.producesValue] at hother
  | choice hother _ => simp [hkind] at hother
  | @body config' hloop hlimit =>
      obtain rfl : config = config' := by simpa [hkind] using hloop
      rw [hcurrent] at hlimit
      refine ⟨rounds, current + 1, ?_, ?_, hkeeps.full⟩
      · simpa [hone, hcurrent] using hkeeps.circles.enter hlimit
      · rintro _ ⟨⟩
        rw [hcurrent]
        exact Assoc.get?_insert_self ..
  | exit _ =>
      rw [hcurrent] at hforced
      refine ⟨rounds ++ [current], 0, ?_, ?_, ?_⟩
      · simpa [hone, hcurrent] using hkeeps.circles.exit
      · rintro _ ⟨⟩
        exact Assoc.get?_erase_self ..
      · intro heager count hcount
        rcases List.mem_append.mp hcount with hold | hnew
        · exact hkeeps.full heager count hold
        · rw [List.mem_singleton.mp hnew]
          exact le_antisymm hkeeps.circles.current_le (hforced heager rfl)

/-- A loop asks for its condition, below its limit. -/
theorem Asks.of_loop {context : Context} {node : Node} {work : Work}
    {config : WhileConfig} (hasks : Asks plan context node work)
    (hkind : node.kind = .loop config) :
    context.iteration node.id < loopLimit plan.limits config ∧
      work = .iteration config.condition
        (Assoc.insert context.bindings "iteration"
          (.nat (context.iteration node.id + 1)))
        plan.limits.scriptTimeout (context.iteration node.id) := by
  cases hasks with
  | agent hother => simp [hkind] at hother
  | transform hother => simp [hkind] at hother
  | choice hother => simp [hkind] at hother
  | tool hother => simp [hkind] at hother
  | @iteration config' hloop hlimit =>
      obtain rfl : config = config' := by simpa [hkind] using hloop
      exact ⟨hlimit, rfl⟩

theorem loopOutput_body_ne_exit (first second : ℕ) :
    loopOutput .body first ≠ loopOutput .exit second := by
  intro heq
  have hbranch := congrArg (·.member? "branch") heq
  simp [loopOutput_branch, Branch.label] at hbranch

/-- The condition of a loop, whenever it has a value, holds. -/
def Persists (around : Surroundings) (node : Node) : Prop :=
  ∀ context condition bindings millis completed,
    ¬ around (.working context node
      (.iteration condition bindings millis completed)) (some (.ok false))

variable {around : Surroundings}

/-- A loop whose condition never fails to hold is left only at its limit. -/
theorem limit_le_of_exits {move : leg.Move} {context : Context} {node : Node}
    {config : WhileConfig} {count : ℕ} (hsound : Sound plan leg)
    (hkind : node.kind = .loop config) (hvisits : Visits leg context node)
    (hmove : around leg move) (hpersists : Persists around node)
    (hstep : leg.step plan move =
      (next, [⟨node.id, .output, loopOutput .exit count⟩])) :
    loopLimit plan.limits config ≤ context.iteration node.id := by
  cases hvisits with
  | entered =>
      cases move with
      | none => simp [step, fail] at hstep
      | some now =>
          by_contra hlimit
          simp [step, dispatch, hkind, hlimit] at hstep
  | working =>
      cases hsound with
      | working hnode hwork =>
          obtain ⟨-, rfl⟩ := hwork.of_loop hkind
          cases move with
          | none => simp [step, fail] at hstep
          | some result =>
              cases result with
              | error error => simp [step, finish, fail] at hstep
              | ok truth =>
                  cases truth with
                  | false => exact (hpersists _ _ _ _ _ hmove).elim
                  | true =>
                      simp only [step, finish, enterBody, direct, leave]
                        at hstep
                      split at hstep
                      · simp [loopOutput_body_ne_exit] at hstep
                      · simp [fail] at hstep

/-- A step goes on with the circuits of each loop. -/
theorem Goes.circles {move : leg.Move} {node : Node} {config : WhileConfig}
    (hgraph : plan.graph.WellFormed refusal?) (hsound : Sound plan leg)
    (hnode : node ∈ plan.graph.nodes) (hkind : node.kind = .loop config)
    (hmove : around leg move) (hstep : leg.step plan move = (next, events))
    (hgoes : Goes plan leg move next events)
    (hkeeps : Keeps (loopLimit plan.limits config) (Persists around node)
      node.id before leg rounds current) :
    ∃ rounds current,
      Keeps (loopLimit plan.limits config) (Persists around node) node.id
        (before ++ events) next rounds current := by
  have hsame : ∀ {other : Node}, other ∈ plan.graph.nodes →
      other.id = node.id → other = node := fun hother hid =>
    List.inj_on_of_nodup_map hgraph.idsDistinct hother hnode hid
  cases hgoes with
  | fails _ =>
      exact ⟨_, _, hkeeps.frame (by simp [outputsOf]) (by simp [context?])⟩
  | enters _ _ =>
      refine ⟨_, _, hkeeps.frame (by simp [outputsOf, startedEvent]) ?_⟩
      rintro _ ⟨⟩
      exact ⟨_, rfl, rfl⟩
  | works _ =>
      refine ⟨_, _, hkeeps.frame rfl ?_⟩
      rintro _ ⟨⟩
      exact ⟨_, rfl, rfl⟩
  | @leaves _ _ context after other output branch edge hvisits hleaves _ =>
      by_cases hid : other.id = node.id
      · obtain rfl := hsame (hvisits.mem hsound) hid
        refine hkeeps.leave hkind hvisits hleaves ?_
        rintro hpersists rfl
        rw [← hkeeps.iteration_eq hvisits.context?_eq]
        exact limit_le_of_exits hsound hkind hvisits hmove hpersists hstep
      · have hcounter := hleaves.counter_of_ne (Ne.symm hid)
        refine ⟨_, _, hkeeps.frame (by simp [outputsOf, hid]) ?_⟩
        rintro _ ⟨⟩
        exact ⟨_, hvisits.context?_eq, hcounter⟩
  | @completes _ other _ hfinish =>
      have hne : other.id ≠ node.id := by
        intro hid
        cases hsound with
        | entered hother => simp [← hsame hother hid, hfinish] at hkind
      exact ⟨_, _, hkeeps.frame (by simp [outputsOf, hne])
        (by simp [context?])⟩
  | parks _ =>
      refine ⟨_, _, hkeeps.frame rfl ?_⟩
      rintro _ ⟨⟩
      exact ⟨_, rfl, rfl⟩
  | keeps =>
      refine ⟨_, _, hkeeps.frame rfl ?_⟩
      rintro _ ⟨⟩
      exact ⟨_, rfl, rfl⟩
  | suspends =>
      refine ⟨_, _, hkeeps.frame (by simp [outputsOf]) ?_⟩
      rintro _ ⟨⟩
      exact ⟨_, rfl, rfl⟩

/-- An approval does not concern loops. -/
theorem Resumes.circles {suspended : SuspendedRun} {signal : ResumeSignal}
    (hne : suspended.cursor ≠ id) (hresumes : Resumes suspended signal leg events)
    (hkeeps : Keeps limit eager id before (.ended (.suspended suspended))
      rounds current) :
    Keeps limit eager id (before ++ events) leg rounds current := by
  cases hresumes with
  | rejected _ => exact hkeeps.frame (by simp [outputsOf]) (by simp [context?])
  | approved _ _ =>
      refine hkeeps.frame (by simp [outputsOf, hne]) ?_
      rintro _ ⟨⟩
      exact ⟨_, rfl, rfl⟩

end Leg

namespace History

variable {limits : EngineConfig} {around : Surroundings} {run : RunId}
variable {graph : Graph} {inputs : Assoc Json} {history : History}
variable {node : Node} {config : WhileConfig}

/-! ## Runs -/

theorem Steady.circles
    (hsteady : Steady limits around run graph inputs history)
    (hnode : node ∈ graph.nodes) (hkind : node.kind = .loop config) :
    ∃ rounds current,
      history.leg.Keeps (Leg.loopLimit limits config)
        (Leg.Persists around node) node.id history.events rounds current := by
  have hgraph := hsteady.reachable.wellFormed
  refine Steady.induct
    (motive := fun history => ∃ rounds current,
      history.leg.Keeps (Leg.loopLimit limits config)
        (Leg.Persists around node) node.id history.events rounds current)
    ?_ ?_ ?_ hsteady
  · intro leg told hstarts
    refine ⟨[], 0, ?_, ?_, by simp⟩
    · cases hstarts <;> exact .nil _
    · rintro context hcontext
      cases hstarts with
      | refused _ => simp [Leg.context?] at hcontext
      | begins _ =>
          cases hcontext
          rfl
  · intro beginning past told leg next new move hsound hmove hstep hgoes
    rintro ⟨rounds, current, hkeeps⟩
    simpa [events] using
      hgoes.circles hgraph hsound hnode hkind hmove hstep hkeeps
  · intro beginning past told suspended signal leg new hawaits hresumes
    rintro ⟨rounds, current, hkeeps⟩
    refine ⟨rounds, current, hresumes.circles ?_ hkeeps⟩
    -- The run waits at an approval node, and ids name one node each.
    obtain ⟨other, hother, approval, hwaits, hid⟩ := hawaits.exists_node
    intro hcursor
    have hsame : other = node :=
      List.inj_on_of_nodup_map hgraph.idsDistinct hother hnode
        (hid.trans hcursor)
    simp [hsame, hkind] at hwaits

/-- What a loop puts out over all legs of a run is a sequence of complete
circuits and the entries after them; none is longer than the smaller of the
configured number of iterations and the ceiling.  The counter of the loop is
the number of entries since its last exit; its condition is evaluated only
below the limit, with the number of the pending entry, which is a number of 32
bits if the configured one is, and at the limit the loop is left at once.  If
the condition holds whenever it is evaluated, all complete circuits are as
long as the limit. -/
theorem Steady.loop_circles
    (hsteady : Steady limits around run graph inputs history)
    (hnode : node ∈ graph.nodes) (hkind : node.kind = .loop config) :
    ∃ (rounds : List ℕ) (current : ℕ),
      outputsOf node.id history.events =
        rounds.flatMap circuit ++ entries current ∧
      (∀ count ∈ rounds, count ≤ min config.maxIterations limits.loopCeiling) ∧
      current ≤ min config.maxIterations limits.loopCeiling ∧
      (∀ context, history.leg.context? = some context →
        Assoc.get? context.counters node.id = counter? current) ∧
      (∀ context work, history.leg = .working context node work →
        current < min config.maxIterations limits.loopCeiling ∧
        work = .iteration config.condition
          (Assoc.insert context.bindings "iteration" (.nat (current + 1)))
          limits.scriptTimeout current ∧
        (config.maxIterations < Width.span 32 →
          current + 1 < Width.span 32)) ∧
      (∀ context now, history.leg = .entered context node →
        min config.maxIterations limits.loopCeiling ≤ current →
        (Leg.step history.plan (.entered context node) (some now)).2 =
          [⟨node.id, .output, Leg.loopOutput .exit current⟩]) ∧
      (Leg.Persists around node →
        ∀ count ∈ rounds,
          count = min config.maxIterations limits.loopCeiling) := by
  obtain ⟨rounds, current, hkeeps⟩ := hsteady.circles hnode hkind
  obtain ⟨houtputs, hrounds, hcurrent⟩ := hkeeps.circles
  refine ⟨rounds, current, houtputs, hrounds, hcurrent, hkeeps.counter, ?_, ?_,
    hkeeps.full⟩
  · intro context work hleg
    have hcontext : history.leg.context? = some context := by rw [hleg]; rfl
    have hsound := hsteady.reachable.sound.2
    rw [hleg, hsteady.plan_eq] at hsound
    cases hsound with
    | working _ hwork =>
        obtain ⟨hlimit, rfl⟩ := hwork.of_loop hkind
        rw [hkeeps.iteration_eq hcontext] at hlimit ⊢
        have hbelow : current < min config.maxIterations limits.loopCeiling :=
          hlimit
        exact ⟨hbelow, rfl, by omega⟩
  · intro context now hleg hlimit
    have hcontext : history.leg.context? = some context := by rw [hleg]; rfl
    have hiteration := hkeeps.iteration_eq hcontext
    rw [hsteady.plan_eq]
    have hstep : Leg.step ⟨limits, run, graph⟩ (.entered context node)
        (some now) =
          Leg.exitLoop ⟨limits, run, graph⟩ context node.id current := by
      simp [Leg.step, Leg.dispatch, hkind, hiteration, Leg.loopLimit, hlimit]
    obtain ⟨edge, hexit⟩ : ∃ edge, graph.Exit node.id (some .exit) edge :=
      hsteady.reachable.wellFormed.exists_exit hnode
        (by simp [hkind, NodeKind.LeavesBy])
    simp [hstep, Leg.exitLoop, Leg.direct, Leg.leave, Leg.exit?_eq_ok hexit]

end History

/-! ## A run with a loop -/

namespace Roundabout

/-- A workflow with one loop, which leads back to itself by one branch and to
the end by the other. -/
def graph (config : WhileConfig) (back out : String) : Graph where
  nodes := [⟨"begin", none, .start []⟩, ⟨"again", none, .loop config⟩,
    ⟨"end", none, .finish⟩]
  edges := [⟨"in", "begin", "again", none⟩,
    ⟨"back", "again", "again", some back⟩, ⟨"out", "again", "end", some out⟩]

variable {config : WhileConfig} {back out : String}

theorem graph_wellFormed (hcondition : Graph.Meaningful config.condition)
    (hfork : (graph config back out).Fork "again" .body .exit) :
    (graph config back out).WellFormed Schema.refusal? where
  idsNonempty := by simp [graph]
  idsDistinct := by simp [graph]
  edgesDistinct := by simp [graph]
  oneStart := by
    refine ⟨⟨"begin", none, .start []⟩, by simp [graph, NodeKind.isStart], ?_⟩
    simp [graph, NodeKind.isStart]
  someFinish := by simp [graph, NodeKind.isFinish]
  sources := by simp [graph]
  targets := by simp [graph]
  startEntries := by simp [graph, NodeKind.isStart, Graph.incoming]
  entries := by simp [graph, NodeKind.isStart, Graph.incoming]
  exits := by
    simp only [graph, List.forall_mem_cons, Graph.ExitsFit]
    exact ⟨⟨_, rfl⟩, hfork, rfl, by simp⟩
  settings := by
    simp only [graph, List.forall_mem_cons, Graph.SettingsFit]
    exact ⟨trivial, hcondition, trivial, by simp⟩
  reachable := by
    simp only [graph, List.forall_mem_cons, NodeKind.isStart,
      forall_true_left]
    refine ⟨⟨⟨[], ?_⟩, ⟨[⟨"in", "begin", "again", none⟩], ?_⟩,
      ⟨[⟨"in", "begin", "again", none⟩, ⟨"out", "again", "end", some out⟩], ?_⟩,
      ?_⟩, ?_⟩
    all_goals simp [Graph.walk_cons_iff, Graph.walk_nil_iff]
  cycles := by
    intro id walk hwalk hne
    refine ⟨⟨"again", none, .loop config⟩, by simp [graph], rfl, ?_⟩
    obtain ⟨edge, rest, rfl⟩ := List.exists_cons_of_ne_nil hne
    obtain ⟨rfl, hedge, hrest⟩ := Graph.walk_cons_iff.mp hwalk
    refine ⟨edge, by simp, ?_⟩
    by_contra hother
    -- The only other edge comes from the start node, to which nothing leads.
    obtain rfl : edge = ⟨"in", "begin", "again", none⟩ := by
      simp only [graph, List.mem_cons, List.not_mem_nil, or_false] at hedge
      rcases hedge with rfl | rfl | rfl
      · rfl
      · exact absurd rfl hother
      · exact absurd rfl hother
    have hback : "begin" ∈ ["again", "end"] :=
      hrest.mem_of_closed (by simp [graph]) (by simp)
    simp at hback

theorem start_eq {limits : EngineConfig}
    (hgraph : (graph config back out).WellFormed Schema.refusal?) :
    Leg.start ⟨limits, "run", graph config back out⟩ [] =
      .ok (.between (.ofInputs []) "begin", []) := by
  rw [Leg.start_eq hgraph rfl]
  rfl

end Roundabout

namespace Laps

/-- A workflow that goes round a loop twice if its condition holds. -/
def graph : Graph :=
  Roundabout.graph ⟨"true", 2⟩ "body" "exit"

theorem graph_wellFormed : graph.WellFormed Schema.refusal? :=
  Roundabout.graph_wellFormed (show Text.trimmed "true" ≠ "" by decide)
    ⟨_, _, .refl _, by decide +kernel, by decide +kernel⟩

/-- Surroundings in which conditions of loops always hold. -/
def around : Surroundings
  | .working _ _ (.iteration ..), some (.ok false) => False
  | _, _ => True

/-- The run has left its loop. -/
def done : History where
  beginning := .start
  plan := ⟨.standard, "run", graph⟩
  past := []
  told := [⟨"begin", .started, Json.ofMembers [("kind", .text "start")]⟩,
    ⟨"begin", .output, .record []⟩,
    ⟨"again", .started, Json.ofMembers [("kind", .text "while")]⟩,
    ⟨"again", .output, Leg.loopOutput .body 1⟩,
    ⟨"again", .started, Json.ofMembers [("kind", .text "while")]⟩,
    ⟨"again", .output, Leg.loopOutput .body 2⟩,
    ⟨"again", .started, Json.ofMembers [("kind", .text "while")]⟩,
    ⟨"again", .output, Leg.loopOutput .exit 2⟩]
  leg := .between ⟨[], none,
    [("again", Leg.loopOutput .exit 2), ("begin", .record [])], [],
    ["in", "back", "back", "out"], 4⟩ "end"

theorem done_steady :
    History.Steady .standard around "run" graph [] done := by
  have hbegun : History.Steady .standard around "run" graph [] _ :=
    .start (Roundabout.start_eq graph_wellFormed)
  have hbegin := hbegun.step false trivial
  have hleft := hbegin.step (some (⟨0, 0⟩ : Instant)) trivial
  have hfirst := hleft.step false trivial
  have hasked := hfirst.step (some (⟨0, 0⟩ : Instant)) trivial
  have hentered :=
    hasked.step_to (some (.ok true) : Option (Except Error Bool)) trivial
      (show _ = (Leg.between ⟨[], none, [("again", Leg.loopOutput .body 1),
        ("begin", .record [])], [("again", 1)], ["in", "back"], 2⟩ "again",
        [⟨"again", .output, Leg.loopOutput .body 1⟩]) by decide +kernel)
  have hsecond := hentered.step false trivial
  have hasked' := hsecond.step (some (⟨0, 0⟩ : Instant)) trivial
  have hentered' :=
    hasked'.step_to (some (.ok true) : Option (Except Error Bool)) trivial
      (show _ = (Leg.between ⟨[], none, [("again", Leg.loopOutput .body 2),
        ("begin", .record [])], [("again", 2)], ["in", "back", "back"], 3⟩
        "again", [⟨"again", .output, Leg.loopOutput .body 2⟩])
        by decide +kernel)
  have hthird := hentered'.step false trivial
  have hdone :=
    hthird.step_to (some (⟨0, 0⟩ : Instant)) trivial
      (show _ = (Leg.between ⟨[], none, [("again", Leg.loopOutput .exit 2),
        ("begin", .record [])], [], ["in", "back", "back", "out"], 4⟩ "end",
        [⟨"again", .output, Leg.loopOutput .exit 2⟩]) by decide +kernel)
  exact hdone

theorem persists (node : Node) : Leg.Persists around node :=
  fun _ _ _ _ _ hmove => hmove

theorem loop_circles_laps :
    Leg.Persists around ⟨"again", none, .loop ⟨"true", 2⟩⟩ ∧
    ∃ (rounds : List ℕ) (current : ℕ),
      outputsOf "again" done.events =
        rounds.flatMap circuit ++ entries current ∧
      current ≤ 2 ∧ (∀ count ∈ rounds, count = 2) := by
  have hnode : (⟨"again", none, .loop ⟨"true", 2⟩⟩ : Node) ∈ graph.nodes := by
    simp [graph, Roundabout.graph]
  obtain ⟨rounds, current, houtputs, -, hcurrent, -, -, -, hfull⟩ :=
    done_steady.loop_circles hnode rfl
  exact ⟨persists _, rounds, current, houtputs, hcurrent,
    hfull (persists _)⟩

end Laps

end Workflow
