import Workflow.Proofs.Run.Step

/-!
# How a leg begins

A graph without a defect has a start node, so `Leg.start` gives a leg for it:
one that has ended because of its inputs, or one that stands before the start
node.  `Leg.resume` gives a leg that has ended with a rejection, or one that
has left its approval node by the only edge.
-/

namespace Workflow

/-- The binding of inputs fails in one way only. -/
theorem Inputs.bindAll_error {declared : List InputVariable}
    {supplied bound : Assoc Json} {error : Error}
    (herror : bindAll declared supplied bound = .error error) :
    ∃ name reason, error = .invalidInput name reason := by
  fun_induction bindAll declared supplied bound with
  | case1 => simp at herror
  | case2 => exact ⟨_, _, (Except.error.inj herror).symm⟩
  | case3 _ _ _ _ _ _ _ ih => exact ih herror
  | case4 => exact ⟨_, _, (Except.error.inj herror).symm⟩
  | case5 _ _ _ _ _ _ _ _ _ ih => exact ih herror

theorem Inputs.bind_error {declared : List InputVariable}
    {supplied : Assoc Json} {error : Error}
    (herror : bind declared supplied = .error error) :
    ∃ name reason, error = .invalidInput name reason := by
  unfold bind at herror
  split at herror
  · simp at herror
  · exact bindAll_error herror

/-- A well-formed graph has a start node. -/
theorem Graph.WellFormed.exists_start {refusal? : Json → Option String}
    {graph : Graph} (hgraph : graph.WellFormed refusal?) :
    ∃ start, graph.start? = some start ∧ start ∈ graph.nodes ∧
      start.kind.isStart = true := by
  obtain ⟨start, ⟨hnode, hkind⟩, -⟩ := hgraph.oneStart
  cases hfound : graph.start? with
  | none => exact absurd hkind (List.find?_eq_none.mp hfound start hnode)
  | some first =>
      have hkind : first.kind.isStart = true := by
        simpa using List.find?_some hfound
      exact ⟨first, rfl, List.mem_of_find?_eq_some hfound, hkind⟩

namespace Leg

variable {plan : Plan}

/-! ## Starting -/

/-- The first stage of a run, and what has been reported by then. -/
inductive Starts (plan : Plan) : Leg → List Event → Prop
  | refused {start : Node} {name reason : String}
      (hstart : plan.graph.start? = some start) :
      Starts plan (.ended (.failed start.id (.invalidInput name reason)))
        [⟨start.id, .error, Error.payload (.invalidInput name reason)⟩]
  | begins {start : Node} {bound : Assoc Json}
      (hstart : plan.graph.start? = some start) :
      Starts plan (.between (.ofInputs bound) start.id) []

theorem boundInputs_error {node : Node} {inputs : Assoc Json} {error : Error}
    (herror : boundInputs node inputs = .error error) :
    ∃ name reason, error = .invalidInput name reason := by
  unfold boundInputs at herror
  split at herror
  · exact Inputs.bind_error herror
  · simp at herror

/-- A graph without a defect is started at its start node, whatever the
inputs. -/
theorem start_eq {start : Node} {inputs : Assoc Json}
    (hgraph : plan.graph.WellFormed Schema.refusal?)
    (hstart : plan.graph.start? = some start) :
    Leg.start plan inputs =
      .ok (first start.id (boundInputs start inputs)) := by
  simp [Leg.start, hgraph.defect?_eq_none, hstart]

/-- Only a graph without a defect is started. -/
theorem starts_of_start {inputs : Assoc Json} {leg : Leg}
    {events : List Event} (hleg : start plan inputs = .ok (leg, events)) :
    plan.graph.WellFormed Schema.refusal? ∧ Starts plan leg events := by
  have hgraph : plan.graph.WellFormed Schema.refusal? := by
    apply Graph.wellFormed_of_defect?_eq_none
    unfold start at hleg
    split at hleg
    · simp at hleg
    · assumption
  obtain ⟨node, hstart, -, -⟩ := hgraph.exists_start
  rw [start_eq hgraph hstart] at hleg
  refine ⟨hgraph, ?_⟩
  cases hbound : boundInputs node inputs with
  | error error =>
      obtain ⟨name, reason, rfl⟩ := boundInputs_error hbound
      simp only [hbound, first, fail] at hleg
      obtain ⟨rfl, rfl⟩ := Prod.mk.inj (Except.ok.inj hleg)
      exact .refused hstart
  | ok bound =>
      simp only [hbound, first] at hleg
      obtain ⟨rfl, rfl⟩ := Prod.mk.inj (Except.ok.inj hleg)
      exact .begins hstart

theorem Starts.sound {leg : Leg} {events : List Event}
    (hstarts : Starts plan leg events) :
    Sound plan leg := by
  cases hstarts with
  | refused _ => exact .failed _ _
  | begins hstart => exact .between (List.mem_of_find?_eq_some hstart)

/-! ## Resuming -/

/-- The first stage of a leg that goes on with a suspended run, and what has
been reported by then. -/
inductive Resumes (suspended : SuspendedRun) (signal : ResumeSignal) :
    Leg → List Event → Prop
  | rejected (hdecision : signal.decision = .reject) :
      Resumes suspended signal
        (.ended (.failed suspended.cursor
          (.rejected suspended.cursor signal.note)))
        [⟨suspended.cursor, .resumed, signal.payload⟩,
          ⟨suspended.cursor, .error,
            Error.payload (.rejected suspended.cursor signal.note)⟩]
  | approved {edge : Edge} (hdecision : signal.decision = .approve)
      (hexit : suspended.graph.Exit suspended.cursor none edge) :
      Resumes suspended signal
        (.between ((suspended.context.recordControl suspended.cursor
          signal.payload).traverse
          edge.id) edge.target)
        [⟨suspended.cursor, .resumed, signal.payload⟩,
          ⟨suspended.cursor, .output, signal.payload⟩]

/-- A signal for another run is the only one that is refused. -/
theorem exists_resume_eq_ok {limits : EngineConfig} {suspended : SuspendedRun}
    {signal : ResumeSignal} (hrun : signal.run = suspended.run) :
    ∃ leg told, resume limits suspended signal = .ok (leg, told) := by
  simp [resume, hrun]

variable {refusal? : Json → Option String}

/-- An approval node of a well-formed graph has one edge out of it. -/
theorem Awaits.exists_exit {suspended : SuspendedRun}
    (hgraph : plan.graph.WellFormed refusal?)
    (hawaits : Awaits plan suspended) :
    ∃ edge, suspended.graph.Exit suspended.cursor none edge := by
  obtain ⟨node, hnode, config, hkind, hid⟩ := hawaits.exists_node
  rw [hawaits.graph_eq, ← hid]
  exact hgraph.exists_exit hnode (by simp [hkind, NodeKind.LeavesBy])

/-- Where the approval node of a run has one edge out of it, resuming the run
comes to one of two stages. -/
theorem resumes_of_exit {limits : EngineConfig} {suspended : SuspendedRun}
    {signal : ResumeSignal} {leg : Leg} {events : List Event}
    (hexits : ∃ edge, suspended.graph.Exit suspended.cursor none edge)
    (hleg : resume limits suspended signal = .ok (leg, events)) :
    signal.run = suspended.run ∧ Resumes suspended signal leg events := by
  unfold resume at hleg
  split at hleg
  next => simp at hleg
  next hrun =>
    refine ⟨Decidable.of_not_not hrun, ?_⟩
    cases hdecision : signal.decision with
    | reject =>
        simp only [hdecision, fail] at hleg
        obtain ⟨rfl, rfl⟩ := Prod.mk.inj (Except.ok.inj hleg)
        exact .rejected hdecision
    | approve =>
        obtain ⟨edge, hexit⟩ := hexits
        simp only [hdecision, direct, leave, planOf, exit?_eq_ok hexit]
          at hleg
        obtain ⟨rfl, rfl⟩ := Prod.mk.inj (Except.ok.inj hleg)
        exact .approved hdecision hexit

theorem resumes_of_resume {limits : EngineConfig} {suspended : SuspendedRun}
    {signal : ResumeSignal} {leg : Leg} {events : List Event}
    (hgraph : plan.graph.WellFormed refusal?)
    (hawaits : Awaits plan suspended)
    (hleg : resume limits suspended signal = .ok (leg, events)) :
    signal.run = suspended.run ∧ Resumes suspended signal leg events :=
  resumes_of_exit (hawaits.exists_exit hgraph) hleg

theorem Resumes.sound {limits : EngineConfig} {suspended : SuspendedRun}
    {signal : ResumeSignal} {leg : Leg} {events : List Event}
    (hgraph : suspended.graph.WellFormed refusal?)
    (hresumes : Resumes suspended signal leg events) :
    Sound (planOf limits suspended) leg := by
  cases hresumes with
  | rejected _ => exact .failed _ _
  | approved _ hexit => exact sound_between (hgraph.targets _ hexit.mem)

end Leg

end Workflow
