import Mathlib.Data.List.Forall2
import Workflow.Proofs.Run.History

/-!
# The trace of a run

A run notes the ids of the edges that it takes, over all its legs.  `Tells`
relates these notes to a walk through the graph and to what has been reported:
the nodes that were started are the sources of the walk, and the output of
each visit names the branch by which its node was left.  A node that waits for
an approval has been started, but its edge belongs to the leg that goes on
after the approval.
-/

namespace Workflow

/-- Kinds of nodes that are left by one of two branches. -/
def NodeKind.branches : NodeKind → Bool
  | .ifElse _ | .loop _ => true
  | _ => false

/-! ## Walks and reports -/

/-- An output tells by which edge its node was left. -/
structure Takes (graph : Graph) (edge : Edge) (output : Event) : Prop where
  node_eq : output.node = edge.source
  chosen : ∀ node ∈ graph.nodes, node.id = edge.source →
    node.kind.branches = true →
    ∃ branch : Branch, output.payload.member? "branch" = some
      (.text branch.label) ∧
      graph.Exit node.id (some branch) edge

/-- The nodes that events of a kind are about. -/
def placesOf (kind : EventKind) (events : List Event) : List String :=
  (events.filter (·.kind = kind)).map (·.node)

/-- A walk from the start node that agrees with a trace and with what has been
reported; `begun` holds the node at its end once that has been started. -/
structure Tells (graph : Graph) (walk : List Edge) (trace : List String)
    (events : List Event) (place : String) (begun : List String) : Prop where
  walks : ∃ start, graph.start? = some start ∧ graph.Walk start.id walk place
  trace_eq : trace = walk.map (·.id)
  started_eq : placesOf .started events = walk.map (·.source) ++ begun
  outputs : List.Forall₂ (Takes graph) walk (events.filter (·.kind = .output))

namespace Tells

variable {graph : Graph} {walk : List Edge} {trace : List String}
variable {events : List Event} {place : String} {begun : List String}

theorem nil {start : Node} (hstart : graph.start? = some start) :
    Tells graph [] [] [] start.id [] where
  walks := ⟨start, hstart, .nil _⟩
  trace_eq := rfl
  started_eq := rfl
  outputs := .nil

/-- Other events than starts and outputs do not count. -/
theorem skip {event : Event}
    (htells : Tells graph walk trace events place begun)
    (hstarted : event.kind ≠ .started) (houtput : event.kind ≠ .output) :
    Tells graph walk trace (events ++ [event]) place begun where
  walks := htells.walks
  trace_eq := htells.trace_eq
  started_eq := by simpa [placesOf, hstarted] using htells.started_eq
  outputs := by simpa [houtput] using htells.outputs

theorem enter {node : Node}
    (htells : Tells graph walk trace events node.id []) :
    Tells graph walk trace (events ++ [Leg.startedEvent node]) node.id
      [node.id] where
  walks := htells.walks
  trace_eq := htells.trace_eq
  started_eq := by simpa [placesOf, Leg.startedEvent] using htells.started_eq
  outputs := by simpa [Leg.startedEvent] using htells.outputs

/-- A node is left by the edge that its output tells of. -/
theorem leave {edge : Edge} {output : Json}
    (htells : Tells graph walk trace events place [place])
    (hedge : edge ∈ graph.edges)
    (htakes : Takes graph edge ⟨place, .output, output⟩) :
    Tells graph (walk ++ [edge]) (trace ++ [edge.id])
      (events ++ [⟨place, .output, output⟩]) edge.target [] where
  walks := by
    obtain ⟨start, hstart, hwalk⟩ := htells.walks
    obtain rfl : place = edge.source := htakes.node_eq
    exact ⟨start, hstart, hwalk.snoc hedge⟩
  trace_eq := by simp [htells.trace_eq]
  started_eq := by
    obtain rfl : place = edge.source := htakes.node_eq
    simpa [placesOf] using htells.started_eq
  outputs := by
    simpa using List.rel_append htells.outputs (.cons htakes .nil)

end Tells

/-! ## The edge that an output tells of -/

namespace Leg

variable {plan : Plan} {refusal? : Json → Option String}

theorem takes_of_exit {graph : Graph} {node : Node} {branch : Option Branch}
    {edge : Edge} {output : Json} (hgraph : graph.WellFormed refusal?)
    (hnode : node ∈ graph.nodes) (hexit : graph.Exit node.id branch edge)
    (hnamed : node.kind.branches = true → ∃ b, branch = some b ∧
      output.member? "branch" = some (.text b.label)) :
    Takes graph edge ⟨node.id, .output, output⟩ where
  node_eq := hexit.source.symm
  chosen := by
    intro other hother hid hkind
    obtain rfl : other = node :=
      List.inj_on_of_nodup_map hgraph.idsDistinct hother hnode
      (hid.trans hexit.source)
    obtain ⟨b, rfl, hmember⟩ := hnamed hkind
    exact ⟨b, hmember, hexit⟩

theorem loopOutput_branch {branch : Branch} {iteration : Nat} :
    (loopOutput branch iteration).member? "branch" =
      some (.text branch.label) := by
  have hne : "branch" ≠ "iteration" := by decide
  exact (Assoc.get?_insert_of_ne _ _ hne).trans (Assoc.get?_insert_self ..)

/-- The output of a branching node names the branch by which it is left. -/
theorem Leaves.named {context after : Context} {node : Node} {output : Json}
    {branch : Option Branch}
    (hleaves : Leaves plan context node after output branch)
    (hkind : node.kind.branches = true) :
    ∃ b, branch = some b ∧
      output.member? "branch" = some (.text b.label) := by
  cases hleaves with
  | start hstart => simp [hstart, NodeKind.branches] at hkind
  | value hvalue =>
      cases hnode : node.kind <;> simp_all
        [NodeKind.producesValue, NodeKind.branches]
  | choice _ _ => exact ⟨_, rfl, rfl⟩
  | body _ _ => exact ⟨_, rfl, loopOutput_branch⟩
  | exit _ => exact ⟨_, rfl, loopOutput_branch⟩

/-- Leaving a node adds nothing to the trace but its edge. -/
theorem Leaves.trace_eq {context after : Context} {node : Node}
    {output : Json} {branch : Option Branch}
    (hleaves : Leaves plan context node after output branch) :
    after.trace = context.trace := by
  cases hleaves <;> rfl

/-! ## Stages -/

/-- The trace that belongs to a stage agrees with what has been reported. -/
def Tracks (graph : Graph) (events : List Event) : Leg → Prop
  | .between context next =>
      ∃ walk, Tells graph walk context.trace events next []
  | .entered context node | .working context node _ =>
    ∃ walk, Tells graph walk context.trace events node.id [node.id]
  | .parking suspended | .parked suspended | .ended (.suspended suspended) =>
    ∃ walk, Tells graph walk suspended.context.trace events suspended.cursor
      [suspended.cursor]
  | .ended (.completed _) | .ended (.failed _ _) => True

theorem Visits.tracks {leg : Leg} {context : Context} {node : Node}
    {events : List Event} (hvisits : Visits leg context node)
    (htracks : Tracks plan.graph events leg) :
    ∃ walk, Tells plan.graph walk context.trace events node.id [node.id] := by
  cases hvisits with
  | entered => exact htracks
  | working => exact htracks

/-- A step keeps trace and reports in agreement. -/
theorem Goes.tracks {leg next : Leg} {move : leg.Move}
    {before events : List Event} (hgraph : plan.graph.WellFormed refusal?)
    (hsound : Sound plan leg) (hgoes : Goes plan leg move next events)
    (htracks : Tracks plan.graph before leg) :
    Tracks plan.graph (before ++ events) next := by
  cases hgoes with
  | fails _ => trivial
  | enters _ _ =>
      obtain ⟨walk, htells⟩ := htracks
      exact ⟨walk, htells.enter⟩
  | works _ => simpa [Tracks] using htracks
  | leaves hvisits hleaves hexit =>
      obtain ⟨walk, htells⟩ := hvisits.tracks htracks
      have htakes :=
        takes_of_exit hgraph (hvisits.mem hsound) hexit hleaves.named
      rw [← hleaves.trace_eq] at htells
      exact ⟨_, htells.leave hexit.mem htakes⟩
  | completes _ => trivial
  | parks _ => simpa [Tracks, suspend] using htracks
  | keeps => simpa [Tracks] using htracks
  | suspends =>
      obtain ⟨walk, htells⟩ := htracks
      exact ⟨walk, htells.skip (by simp) (by simp)⟩

/-- An approval adds the edge out of its node. -/
theorem Resumes.tracks {suspended : SuspendedRun} {signal : ResumeSignal}
    {leg : Leg} {before events : List Event}
    (hgraph : plan.graph.WellFormed refusal?)
    (hawaits : Awaits plan suspended)
    (hresumes : Resumes suspended signal leg events)
    (htracks : Tracks plan.graph before (.ended (.suspended suspended))) :
    Tracks plan.graph (before ++ events) leg := by
  cases hresumes with
  | rejected _ => trivial
  | @approved edge _ hexit =>
      obtain ⟨walk, htells⟩ := htracks
      obtain ⟨node, hnode, config, hkind, hid⟩ := hawaits.exists_node
      rw [hawaits.graph_eq, ← hid] at hexit
      have htakes :
          Takes plan.graph edge
            ⟨suspended.cursor, .output, signal.payload⟩ := by
        rw [← hid]
        exact takes_of_exit hgraph hnode hexit
          (by simp [hkind, NodeKind.branches])
      have hresumed : Tells plan.graph walk suspended.context.trace
          (before ++ [⟨suspended.cursor, .resumed, signal.payload⟩])
          suspended.cursor [suspended.cursor] :=
        htells.skip (by simp) (by simp)
      have happroved := hresumed.leave hexit.mem htakes
      rw [List.append_assoc] at happroved
      exact ⟨walk ++ [edge], happroved⟩

end Leg

namespace History

variable {around : Surroundings} {run : RunId} {graph : Graph}
variable {inputs : Assoc Json} {history : History}

theorem Reachable.tracks
    (hreach : Reachable around run graph inputs history) :
    history.leg.Tracks graph history.events := by
  refine Reachable.induct
    (motive := fun history => history.leg.Tracks graph history.events)
    ?_ ?_ ?_ hreach
  · intro limits leg told hstarts
    cases hstarts with
    | refused _ => trivial
    | begins hstart => exact ⟨[], .nil hstart⟩
  · intro beginning limits past told leg next new move hsound _ hgoes htracks
    simpa [events] using hgoes.tracks hreach.wellFormed hsound htracks
  · intro beginning limits now past told suspended signal leg new hawaits
      hresumes htracks
    exact hresumes.tracks hreach.wellFormed hawaits htracks

/-- Between two nodes and at a suspension, the trace is the walk that the run
has made. -/
theorem Reachable.trace_is_walk
    (hreach : Reachable around run graph inputs history) :
    (∀ context next, history.leg = .between context next →
      ∃ walk, Tells graph walk context.trace history.events next []) ∧
    (∀ suspended, history.leg = .ended (.suspended suspended) →
      ∃ walk, Tells graph walk suspended.context.trace history.events
        suspended.cursor [suspended.cursor]) := by
  have htracks := hreach.tracks
  constructor
  · intro context next hleg
    rwa [hleg] at htracks
  · intro suspended hleg
    rwa [hleg] at htracks

/-- The walk to an approval, by way of a branch. -/
theorem trace_is_walk_review :
    Reachable .any "run" Review.graph [] Review.waiting ∧
      ∃ walk, Tells Review.graph walk ["in", "due"] Review.waiting.events
        "ask" ["ask"] :=
  ⟨Review.waiting_reachable, Review.waiting_reachable.trace_is_walk.2 _ rfl⟩

end History

end Workflow
