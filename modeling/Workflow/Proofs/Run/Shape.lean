import Workflow.Proofs.Run.History

/-!
# The shape of what a leg reports

Whatever happens around a run, a leg reports how it began, then each node that
it goes through with its start and its output, and then one ending that agrees
with its outcome.  `Shape` says this of the leg as a whole and `Reports` of
the stages on the way.  Every stage before the end can still fail, so a leg
that has not ended has reported the beginning of such a sequence.

An error, a suspension and the output of an end node are terminal: nothing that
a leg reports follows them.  A leg that has ended has reported one such event,
its last, and it agrees with the outcome.
-/

namespace Workflow

/-- Kinds of nodes that a leg goes through: it neither ends nor is put aside
there. -/
def NodeKind.passes : NodeKind → Bool
  | .finish | .approval _ => false
  | _ => true

namespace Leg

variable {plan : Plan}

theorem Leaves.passes {context after : Context} {node : Node} {output : Json}
    {branch : Option Branch}
    (hleaves : Leaves plan context node after output branch) :
    node.kind.passes = true := by
  cases hleaves with
  | start hkind => simp [hkind, NodeKind.passes]
  | value hkind =>
      cases hnode : node.kind <;> simp_all
        [NodeKind.producesValue, NodeKind.passes]
  | choice hkind _ => simp [hkind, NodeKind.passes]
  | body hkind _ => simp [hkind, NodeKind.passes]
  | exit hkind => simp [hkind, NodeKind.passes]

/-- The node that a leg stands at before its end. -/
def place? : Leg → Option String
  | .between _ next => some next
  | .entered _ node => some node.id
  | .working _ node _ => some node.id
  | .parking suspended => some suspended.cursor
  | .parked suspended => some suspended.cursor
  | .ended _ => none

theorem exists_place? {leg : Leg} (hleg : ∀ outcome, leg ≠ .ended outcome) :
    ∃ id, leg.place? = some id := by
  cases leg with
  | ended outcome => exact absurd rfl (hleg outcome)
  | _ => exact ⟨_, rfl⟩

/-- A leg fails at the node that it stands at. -/
theorem Fails.place?_eq {leg : Leg} {move : leg.Move} {node : String}
    {error : Error} (hfails : Fails plan leg move node error) :
    leg.place? = some node := by
  cases hfails <;> rfl

end Leg

/-! ## Shapes -/

/-- What is reported before the ending: how the leg began, and the nodes that
it went through. -/
inductive Lead (graph : Graph) : Beginning → List Event → Prop
  | start : Lead graph .start []
  | approve {suspended : SuspendedRun} {signal : ResumeSignal}
      (hdecision : signal.decision = .approve) :
      Lead graph (.resume suspended signal)
        [⟨suspended.cursor, .resumed, signal.payload⟩,
          ⟨suspended.cursor, .output, signal.payload⟩]
  | pass {beginning : Beginning} {events : List Event} {node : Node}
      {output : Json} (hlead : Lead graph beginning events)
      (hnode : node ∈ graph.nodes) (hkind : node.kind.passes = true) :
      Lead graph beginning
        (events ++ [Leg.startedEvent node, ⟨node.id, .output, output⟩])

/-- What is reported at the end, and the outcome that agrees with it. -/
inductive Ending (graph : Graph) : List Event → Outcome → Prop
  | completed {node : Node} {output : Json} (hnode : node ∈ graph.nodes)
      (hkind : node.kind = .finish) :
      Ending graph [Leg.startedEvent node, ⟨node.id, .output, output⟩]
        (.completed output)
  | suspended {node : Node} {config : ApprovalConfig}
      {suspended : SuspendedRun} (hnode : node ∈ graph.nodes)
      (hkind : node.kind = .approval config)
      (hcursor : suspended.cursor = node.id) :
      Ending graph
        [Leg.startedEvent node,
          ⟨node.id, .suspended, Leg.suspendedPayload suspended⟩]
        (.suspended suspended)
  | failed {node : Node} {error : Error} (hnode : node ∈ graph.nodes) :
      Ending graph [⟨node.id, .error, error.payload⟩] (.failed node.id error)
  | failedInside {node : Node} {error : Error} (hnode : node ∈ graph.nodes) :
      Ending graph [Leg.startedEvent node, ⟨node.id, .error, error.payload⟩]
        (.failed node.id error)

/-- What a leg reports from its beginning to its end. -/
inductive Shape (graph : Graph) : Beginning → List Event → Outcome → Prop
  | refused {start : Node} {name reason : String}
      (hstart : graph.start? = some start) :
      Shape graph .start
        [⟨start.id, .error, Error.payload (.invalidInput name reason)⟩]
        (.failed start.id (.invalidInput name reason))
  | rejected {suspended : SuspendedRun} {signal : ResumeSignal}
      (hdecision : signal.decision = .reject) :
      Shape graph (.resume suspended signal)
        [⟨suspended.cursor, .resumed, signal.payload⟩,
          ⟨suspended.cursor, .error,
            Error.payload (.rejected suspended.cursor signal.note)⟩]
        (.failed suspended.cursor (.rejected suspended.cursor signal.note))
  | body {beginning : Beginning} {lead ending : List Event}
      {outcome : Outcome} (hlead : Lead graph beginning lead)
      (hending : Ending graph ending outcome) :
      Shape graph beginning (lead ++ ending) outcome

/-- The kind of the last event before an outcome. -/
def Outcome.mark : Outcome → EventKind
  | .completed _ => .output
  | .failed _ _ => .error
  | .suspended _ => .suspended

/-- The last event tells how a leg has ended. -/
theorem Shape.mark_eq {graph : Graph} {beginning : Beginning}
    {events : List Event} {outcome : Outcome}
    (hshape : Shape graph beginning events outcome) :
    events.getLast?.map (·.kind) = some outcome.mark := by
  cases hshape with
  | refused _ => rfl
  | rejected _ => rfl
  | body _ hending => cases hending <;> simp [Outcome.mark]

/-! ## Stages on the way -/

/-- What a leg has reported when it has come to a stage. -/
def Reports (graph : Graph) (beginning : Beginning) (told : List Event) :
    Leg → Prop
  | .between _ _ => Lead graph beginning told
  | .entered _ node | .working _ node _ =>
    ∃ lead, Lead graph beginning lead ∧ told = lead ++ [Leg.startedEvent node]
  | .parking suspended | .parked suspended =>
    ∃ lead node config, Lead graph beginning lead ∧
      told = lead ++ [Leg.startedEvent node] ∧
      node ∈ graph.nodes ∧ node.kind = .approval config ∧
        suspended.cursor = node.id
  | .ended outcome => Shape graph beginning told outcome

variable {plan : Plan} {beginning : Beginning} {told : List Event}

/-- Wherever a leg stands, a failure there completes what it has reported. -/
theorem Reports.fail {leg : Leg} {id : String} (error : Error)
    (hreports : Reports plan.graph beginning told leg)
    (hsound : Leg.Sound plan leg) (hplace : leg.place? = some id) :
    Shape plan.graph beginning (told ++ [⟨id, .error, error.payload⟩])
      (.failed id error) := by
  -- A node that has been started is part of the ending.
  have hinside : ∀ {node : Node}, node ∈ plan.graph.nodes → node.id = id →
      (∃ lead, Lead plan.graph beginning lead ∧
        told = lead ++ [Leg.startedEvent node]) →
      Shape plan.graph beginning (told ++ [⟨id, .error, error.payload⟩])
        (.failed id error) := by
    rintro node hnode rfl ⟨lead, hlead, rfl⟩
    simpa using Shape.body hlead (.failedInside hnode)
  cases hsound with
  | between hnode =>
      obtain rfl := Option.some.inj hplace
      exact .body hreports (.failed hnode)
  | entered hnode => exact hinside hnode (Option.some.inj hplace) hreports
  | working hnode _ => exact hinside hnode (Option.some.inj hplace) hreports
  | parking _ =>
      obtain ⟨lead, node, config, hlead, htold, hnode, -, hcursor⟩ := hreports
      have hid : node.id = id := hcursor.symm.trans (Option.some.inj hplace)
      exact hinside hnode hid ⟨lead, hlead, htold⟩
  | parked _ =>
      obtain ⟨lead, node, config, hlead, htold, hnode, -, hcursor⟩ := hreports
      have hid : node.id = id := hcursor.symm.trans (Option.some.inj hplace)
      exact hinside hnode hid ⟨lead, hlead, htold⟩
  | completed _ => simp [Leg.place?] at hplace
  | failed _ _ => simp [Leg.place?] at hplace
  | suspended _ => simp [Leg.place?] at hplace

theorem Leg.Visits.reports {leg : Leg} {context : Context} {node : Node}
    (hvisits : Leg.Visits leg context node)
    (hreports : Reports plan.graph beginning told leg) :
    ∃ lead, Lead plan.graph beginning lead ∧
      told = lead ++ [Leg.startedEvent node] := by
  cases hvisits with
  | entered => exact hreports
  | working => exact hreports

/-- A step keeps the shape. -/
theorem Leg.Goes.reports {leg next : Leg} {move : leg.Move}
    {events : List Event} (hsound : Leg.Sound plan leg)
    (hgoes : Leg.Goes plan leg move next events)
    (hreports : Reports plan.graph beginning told leg) :
    Reports plan.graph beginning (told ++ events) next := by
  cases hgoes with
  | fails hfails => exact hreports.fail _ hsound hfails.place?_eq
  | enters _ _ => exact ⟨told, hreports, rfl⟩
  | works _ => simpa [Reports] using hreports
  | leaves hvisits hleaves _ =>
      have hnode := hvisits.mem hsound
      obtain ⟨lead, hlead, rfl⟩ := hvisits.reports hreports
      simpa [Reports] using hlead.pass hnode hleaves.passes
  | completes hkind =>
      have hnode := Leg.Visits.entered.mem hsound
      obtain ⟨lead, hlead, rfl⟩ := Leg.Visits.entered.reports hreports
      simpa [Reports] using Shape.body hlead (.completed hnode hkind)
  | parks hkind =>
      have hnode := Leg.Visits.entered.mem hsound
      obtain ⟨lead, hlead, rfl⟩ := Leg.Visits.entered.reports hreports
      exact ⟨lead, _, _, hlead, by simp, hnode, hkind, rfl⟩
  | keeps => simpa [Reports] using hreports
  | suspends =>
      obtain ⟨lead, node, config, hlead, rfl, hnode, hkind, hcursor⟩ :=
        hreports
      simpa [Reports, hcursor]
        using Shape.body hlead (.suspended hnode hkind hcursor)

theorem Leg.Starts.reports {leg : Leg} (hstarts : Leg.Starts plan leg told) :
    Reports plan.graph .start told leg := by
  cases hstarts with
  | refused hstart => exact .refused hstart
  | begins _ => exact .start

theorem Leg.Resumes.reports {graph : Graph} {suspended : SuspendedRun}
    {signal : ResumeSignal} {leg : Leg}
    (hresumes : Leg.Resumes suspended signal leg told) :
    Reports graph (.resume suspended signal) told leg := by
  cases hresumes with
  | rejected hdecision => exact .rejected hdecision
  | approved hdecision _ => exact .approve hdecision

namespace History

variable {around : Surroundings} {run : RunId} {graph : Graph}
variable {inputs : Assoc Json} {history : History}

theorem Reachable.reports
    (hreach : Reachable around run graph inputs history) :
    Reports graph history.beginning history.told history.leg := by
  refine Reachable.induct (motive := fun history =>
    Reports graph history.beginning history.told history.leg) ?_ ?_ ?_ hreach
  · intro limits leg told hstarts
    exact hstarts.reports
  · intro beginning limits past told leg next events move hsound _ hgoes
      hreports
    exact hgoes.reports hsound hreports
  · intro beginning limits now past told suspended signal leg events _
      hresumes _
    exact hresumes.reports

/-- A leg that has ended has reported a whole shape that agrees with its
outcome, and goes no further.  Any other leg has reported a part of one, and
more is to come. -/
theorem Reachable.told_shape
    (hreach : Reachable around run graph inputs history) :
    (∀ outcome, history.leg = .ended outcome →
      Shape graph history.beginning history.told outcome ∧
        history.told.getLast?.map (·.kind) = some outcome.mark ∧
          IsEmpty history.leg.Move) ∧
    ((∀ outcome, history.leg ≠ .ended outcome) → ∃ rest outcome, rest ≠ [] ∧
      Shape graph history.beginning (history.told ++ rest) outcome) := by
  have hreports := hreach.reports
  constructor
  · intro outcome hleg
    have hshape : Shape graph history.beginning history.told outcome := by
      simpa [hleg, Reports] using hreports
    refine ⟨hshape, hshape.mark_eq, ?_⟩
    rw [hleg]
    exact inferInstanceAs (IsEmpty Empty)
  · intro hleg
    obtain ⟨⟨limits, hplan⟩, hsound⟩ := hreach.sound
    obtain ⟨id, hplace⟩ := Leg.exists_place? hleg
    rw [hplan] at hsound
    exact ⟨_, _, by simp, hreports.fail .cancelled hsound hplace⟩

/-- A run that is approved and comes to its end: its second leg. -/
theorem told_shape_review :
    Reachable .any "run" Review.graph [] Review.finished ∧
      Shape Review.graph Review.finished.beginning Review.finished.told
        (.completed .null) :=
  ⟨Review.finished_reachable,
    (Review.finished_reachable.told_shape.1 _ rfl).1⟩

end History

/-! ## Terminal events -/

section Terminal

/-- Events after which a leg reports nothing more. -/
def Event.isTerminal (graph : Graph) (event : Event) : Bool :=
  match event.kind with
  | .error | .suspended => true
  | .output => (graph.node? event.node).any (·.kind.isFinish)
  | .started | .resumed => false

/-- A leg begins at the start, or goes on from a node that has a way on. -/
def Beginning.Fits (graph : Graph) : Beginning → Prop
  | .start => True
  | .resume suspended _ => ∃ edge, graph.Exit suspended.cursor none edge

variable {graph : Graph} {refusal? : Json → Option String}

@[simp] theorem isTerminal_startedEvent (node : Node) :
    Event.isTerminal graph (Leg.startedEvent node) = false := rfl

@[simp] theorem isTerminal_resumed (id : String) (payload : Json) :
    Event.isTerminal graph ⟨id, .resumed, payload⟩ = false := rfl

theorem isTerminal_output {node : Node} {output : Json}
    (hgraph : graph.WellFormed refusal?) (hnode : node ∈ graph.nodes) :
    Event.isTerminal graph ⟨node.id, .output, output⟩ =
      node.kind.isFinish := by
  simp [Event.isTerminal, hgraph.node?_eq_some_iff.mpr hnode]

/-- A node with a way on is no end. -/
theorem Graph.Exit.isTerminal_eq_false {id : String} {branch : Option Branch}
    {edge : Edge} {output : Json} (hexit : graph.Exit id branch edge)
    (hgraph : graph.WellFormed refusal?) :
    Event.isTerminal graph ⟨id, .output, output⟩ = false := by
  obtain ⟨node, hnode, hid⟩ :=
    List.mem_map.mp (hgraph.sources edge hexit.mem)
  obtain rfl : node.id = id := hid.trans hexit.source
  rw [isTerminal_output hgraph hnode]
  have hout : edge ∈ graph.outgoing node.id :=
    Graph.mem_outgoing_iff.mpr ⟨hexit.mem, hexit.source⟩
  have hfits := hgraph.exits node hnode
  cases hkind : node.kind with
  | finish =>
      simp only [Graph.ExitsFit, hkind] at hfits
      simp [hfits] at hout
  | _ => rfl

theorem Lead.filter_isTerminal {events : List Event}
    (hgraph : graph.WellFormed refusal?) (hfits : beginning.Fits graph)
    (hlead : Lead graph beginning events) :
    events.filter (·.isTerminal graph) = [] := by
  induction hlead with
  | start => rfl
  | approve _ =>
      obtain ⟨edge, hexit⟩ := hfits
      simp [hexit.isTerminal_eq_false hgraph]
  | @pass beginning events node output _ hnode hkind ih =>
      have hpasses : node.kind.isFinish = false := by
        cases hnodeKind : node.kind <;>
          simp_all [NodeKind.passes, NodeKind.isFinish]
      rw [List.filter_append, ih hfits]
      simp [isTerminal_output hgraph hnode, hpasses]

theorem Ending.exists_terminal {events : List Event} {outcome : Outcome}
    (hgraph : graph.WellFormed refusal?)
    (hending : Ending graph events outcome) :
    ∃ event, events.filter (·.isTerminal graph) = [event] ∧
      event.kind = outcome.mark := by
  cases hending with
  | @completed node output hnode hkind =>
      refine ⟨⟨node.id, .output, output⟩, ?_, rfl⟩
      simp [isTerminal_output hgraph hnode, hkind, NodeKind.isFinish]
  | suspended _ _ _ => exact ⟨_, rfl, rfl⟩
  | failed _ => exact ⟨_, rfl, rfl⟩
  | failedInside _ => exact ⟨_, rfl, rfl⟩

/-- A leg that has ended has reported one terminal event. -/
theorem Shape.exists_terminal {events : List Event} {outcome : Outcome}
    (hgraph : graph.WellFormed refusal?) (hfits : beginning.Fits graph)
    (hshape : Shape graph beginning events outcome) :
    ∃ event, events.filter (·.isTerminal graph) = [event] ∧
      event.kind = outcome.mark := by
  cases hshape with
  | refused _ => exact ⟨_, rfl, rfl⟩
  | rejected _ => exact ⟨_, rfl, rfl⟩
  | body hlead hending =>
      rw [List.filter_append, hlead.filter_isTerminal hgraph hfits,
        List.nil_append]
      exact hending.exists_terminal hgraph

end Terminal

end Workflow
