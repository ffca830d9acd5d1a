import Workflow.Proofs.Run.Loop
import Workflow.Proofs.Run.Stored

/-!
# Noted outputs

The state of a run holds the last output of each node, and the last output of
all nodes that produce a value.  The events of the run tell the same, over all
of its legs; `Agrees` compares the two.  A step that fails notes nothing, and a
node that directs the run notes its own output only, so that it never shows in
the last output, nor in what the run completes with.

`Leg.Follows` says what one step or resumption makes of a state, and all else
follows from it by induction on the history of a run.
-/

namespace Workflow

/-! ## Reported values -/

/-- What the nodes of a graph that produce a value have put out, in order. -/
def valuesOf (graph : Graph) (events : List Event) : List Json :=
  (events.filter fun event => event.kind = .output &&
    (graph.node? event.node).any (·.kind.producesValue)).map (·.payload)

@[simp] theorem valuesOf_append (graph : Graph) (before events : List Event) :
    valuesOf graph (before ++ events) =
      valuesOf graph before ++ valuesOf graph events := by
  simp [valuesOf]

theorem outputsOf_eq_nil {id : String} {events : List Event}
    (hsilent : ∀ event ∈ events, event.kind ≠ .output) :
    outputsOf id events = [] := by
  rw [outputsOf, List.map_eq_nil_iff, List.filter_eq_nil_iff]
  intro event hevent
  simp [hsilent event hevent]

theorem valuesOf_eq_nil {graph : Graph} {events : List Event}
    (hsilent : ∀ event ∈ events, event.kind ≠ .output) :
    valuesOf graph events = [] := by
  rw [valuesOf, List.map_eq_nil_iff, List.filter_eq_nil_iff]
  intro event hevent
  simp [hsilent event hevent]

variable {refusal? : Json → Option String} {graph : Graph} {node : Node}

theorem valuesOf_output (hgraph : graph.WellFormed refusal?)
    (hnode : node ∈ graph.nodes) (output : Json) :
    valuesOf graph [⟨node.id, .output, output⟩] =
      if node.kind.producesValue then [output] else [] := by
  have hfound := hgraph.node?_eq_some_iff.mpr hnode
  cases hkind : node.kind.producesValue <;> simp [valuesOf, hfound, hkind]

/-! ## Agreement -/

/-- A state holds what events tell.  A `null` that a value was may be gone if
there is a store that drops it. -/
structure Agrees (drops : Prop) (graph : Graph) (events : List Event)
    (context : Context) : Prop where
  outputs : ∀ id, Assoc.get? context.nodeOutputs id =
    (outputsOf id events).getLast?
  value : context.lastOutput = (valuesOf graph events).getLast? ∨
    drops ∧ context.lastOutput = none ∧
      (valuesOf graph events).getLast? = some .null

namespace Agrees

variable {drops : Prop} {before events : List Event}
variable {context after : Context} {output : Json}

theorem ofInputs (inputs : Assoc Json) :
    Agrees drops graph [] (.ofInputs inputs) where
  outputs _ := rfl
  value := .inl rfl

/-- Other states that hold the same outputs agree as well. -/
theorem congr (hagrees : Agrees drops graph before context)
    (houtputs : after.nodeOutputs = context.nodeOutputs)
    (hvalue : after.lastOutput = context.lastOutput) :
    Agrees drops graph before after where
  outputs := by simpa [houtputs] using hagrees.outputs
  value := by simpa [hvalue] using hagrees.value

/-- Events that are no outputs do not count. -/
theorem skip (hagrees : Agrees drops graph before context)
    (hsilent : ∀ event ∈ events, event.kind ≠ .output) :
    Agrees drops graph (before ++ events) context where
  outputs := by simpa [outputsOf_eq_nil hsilent] using hagrees.outputs
  value := by simpa [valuesOf_eq_nil hsilent] using hagrees.value

/-- An output that is noted can be reported. -/
theorem report (hgraph : graph.WellFormed refusal?)
    (hnode : node ∈ graph.nodes)
    (hagrees : Agrees drops graph before context)
    (houtputs : after.nodeOutputs =
      Assoc.insert context.nodeOutputs node.id output)
    (hvalue : after.lastOutput =
      if node.kind.producesValue then some output else context.lastOutput) :
    Agrees drops graph (before ++ [⟨node.id, .output, output⟩]) after where
  outputs := by
    intro id
    by_cases hid : id = node.id
    · simp [houtputs, hid, Assoc.get?_insert_self, outputsOf]
    · have hother : outputsOf id [⟨node.id, .output, output⟩] = [] := by
        simp [outputsOf, Ne.symm hid]
      rw [houtputs, Assoc.get?_insert_of_ne _ _ hid, outputsOf_append, hother,
        List.append_nil]
      exact hagrees.outputs id
  value := by
    rw [hvalue, valuesOf_append, valuesOf_output hgraph hnode]
    cases hkind : node.kind.producesValue with
    | true => simp
    | false => simpa using hagrees.value

/-- What is left of a state that a store has kept. -/
theorem restored {suspended restored : SuspendedRun}
    (hagrees : Agrees drops graph before suspended.context)
    (hrestored : suspended.Restored drops restored) :
    Agrees drops graph before restored.context := by
  cases hrestored with
  | same => exact hagrees
  | dropped hdrops hnull =>
      refine ⟨hagrees.outputs, .inr ⟨hdrops, rfl, ?_⟩⟩
      rcases hagrees.value with hvalue | ⟨-, hnone, -⟩
      · rw [← hvalue, hnull]
      · simp [hnull] at hnone

/-- The last value as it is put out at the end. -/
theorem orNull_eq (hagrees : Agrees drops graph before context) :
    Json.orNull context.lastOutput =
      Json.orNull (valuesOf graph before).getLast? := by
  rcases hagrees.value with hvalue | ⟨-, hnone, hnull⟩
  · rw [hvalue]
  · rw [hnone, hnull]
    rfl

end Agrees

/-! ## Stages -/

namespace Leg

variable {plan : Plan} {drops : Prop} {before events : List Event}

/-- The state that takes note of an output. -/
theorem Leaves.records {context after : Context} {output : Json}
    {branch : Option Branch}
    (hleaves : Leaves plan context node after output branch) :
    after.nodeOutputs = Assoc.insert context.nodeOutputs node.id output ∧
      after.lastOutput =
        if node.kind.producesValue then some output
        else context.lastOutput := by
  cases hleaves with
  | start hkind => exact ⟨rfl, by simp [hkind, NodeKind.producesValue]; rfl⟩
  | value hkind => exact ⟨rfl, by simp [hkind]; rfl⟩
  | choice hkind _ => exact ⟨rfl, by simp [hkind, NodeKind.producesValue]; rfl⟩
  | body hkind _ => exact ⟨rfl, by simp [hkind, NodeKind.producesValue]; rfl⟩
  | exit hkind => exact ⟨rfl, by simp [hkind, NodeKind.producesValue]; rfl⟩

/-- What becomes of a state in a step that reports some events.  The last output
changes only where a node that produces a value puts one out, and a leg that
ends there does so in the state that it was in. -/
structure Follows (drops : Prop) (graph : Graph) (before : List Event)
    (context : Context) (events : List Event) (next : Leg) : Prop where
  agrees : ∀ after, next.context? = some after →
    Agrees drops graph (before ++ events) after
  value : ∀ after, next.context? = some after →
    after.lastOutput = context.lastOutput ∨
      ∃ node ∈ graph.nodes, node.kind.producesValue = true ∧
        ∃ output, events = [⟨node.id, .output, output⟩] ∧
          after.lastOutput = some output
  failed : ∀ node error, next = .ended (.failed node error) →
    Agrees drops graph (before ++ events) context
  completed : ∀ output, next = .ended (.completed output) →
    output = Json.orNull context.lastOutput ∧
      ∃ node ∈ graph.nodes, node.kind = .finish ∧
        Agrees drops graph (before ++ events)
          (context.recordControl node.id output)

variable {context : Context}

/-- Where a step comes to a state with the same last output. -/
theorem Follows.keep {next : Leg} {after : Context}
    (hafter : next.context? = some after)
    (hvalue : after.lastOutput = context.lastOutput)
    (hagrees : Agrees drops graph (before ++ events) after) :
    Follows drops graph before context events next where
  agrees := by
    intro other hother
    obtain rfl := Option.some.inj (hafter.symm.trans hother)
    exact hagrees
  value := by
    intro other hother
    obtain rfl := Option.some.inj (hafter.symm.trans hother)
    exact .inl hvalue
  failed := by
    rintro node error rfl
    simp [context?] at hafter
  completed := by
    rintro output rfl
    simp [context?] at hafter

/-- Where a step comes to a failure. -/
theorem Follows.fail {node : String} {error : Error}
    (hagrees : Agrees drops graph (before ++ events) context) :
    Follows drops graph before context events
      (.ended (.failed node error)) where
  agrees := by simp [context?]
  value := by simp [context?]
  failed _ _ _ := hagrees
  completed := by simp

/-- Where a step leaves a node. -/
theorem Follows.leave {branch : Option Branch} {after : Context}
    {output : Json} {edge next : String}
    (hgraph : plan.graph.WellFormed refusal?)
    (hnode : node ∈ plan.graph.nodes)
    (hleaves : Leaves plan context node after output branch)
    (hagrees : Agrees drops plan.graph before context) :
    Follows drops plan.graph before context [⟨node.id, .output, output⟩]
      (.between (after.traverse edge) next) := by
  obtain ⟨houtputs, hvalue⟩ := hleaves.records
  have hreport := hagrees.report hgraph hnode houtputs hvalue
  cases hkind : node.kind.producesValue with
  | false =>
      refine .keep rfl ?_ (hreport.congr rfl rfl)
      simpa [Context.traverse, hkind] using hvalue
  | true =>
      refine ⟨?_, ?_, by simp, by simp⟩
      · rintro other ⟨⟩
        exact hreport.congr rfl rfl
      · rintro other ⟨⟩
        refine .inr ⟨node, hnode, hkind, output, rfl, ?_⟩
        simpa [Context.traverse, hkind] using hvalue

/-- Where a step completes the run. -/
theorem Follows.complete (hgraph : graph.WellFormed refusal?)
    (hnode : node ∈ graph.nodes) (hkind : node.kind = .finish)
    (hagrees : Agrees drops graph before context) :
    Follows drops graph before context
      [⟨node.id, .output, Json.orNull context.lastOutput⟩]
      (.ended (.completed (Json.orNull context.lastOutput))) where
  agrees := by simp [context?]
  value := by simp [context?]
  failed := by simp
  completed := by
    rintro output ⟨⟩
    exact ⟨rfl, node, hnode, hkind, hagrees.report hgraph hnode rfl
      (by simp [hkind, NodeKind.producesValue, Context.recordControl])⟩

/-- What a step does to a state that agrees with the events. -/
theorem Goes.follows {leg next : Leg} {move : leg.Move}
    (hgraph : plan.graph.WellFormed refusal?) (hsound : Sound plan leg)
    (hgoes : Goes plan leg move next events)
    (hcontext : leg.context? = some context)
    (hagrees : Agrees drops plan.graph before context) :
    Follows drops plan.graph before context events next := by
  cases hgoes with
  | fails _ => exact .fail (hagrees.skip (by simp))
  | enters _ _ =>
      obtain rfl := Option.some.inj hcontext
      exact .keep rfl rfl ((hagrees.skip (by simp [startedEvent])).congr
        rfl rfl)
  | works _ =>
      obtain rfl := Option.some.inj hcontext
      exact .keep rfl rfl (by simpa using hagrees)
  | leaves hvisits hleaves _ =>
      obtain rfl := Option.some.inj (hvisits.context?_eq.symm.trans hcontext)
      exact .leave hgraph (hvisits.mem hsound) hleaves hagrees
  | completes hkind =>
      obtain rfl := Option.some.inj hcontext
      exact .complete hgraph (Visits.entered.mem hsound) hkind hagrees
  | parks _ =>
      obtain rfl := Option.some.inj hcontext
      exact .keep rfl rfl (by simpa [suspend] using hagrees)
  | keeps =>
      obtain rfl := Option.some.inj hcontext
      exact .keep rfl rfl (by simpa using hagrees)
  | suspends =>
      obtain rfl := Option.some.inj hcontext
      exact .keep rfl rfl (hagrees.skip (by simp))

/-- What a resumption does to a state that a store has kept. -/
theorem Resumes.follows {suspended restored : SuspendedRun}
    {signal : ResumeSignal} {leg : Leg}
    (hgraph : plan.graph.WellFormed refusal?)
    (hawaits : Awaits plan suspended)
    (hrestored : suspended.Restored drops restored)
    (hresumes : Resumes restored signal leg events)
    (hagrees : Agrees drops plan.graph before suspended.context) :
    Follows drops plan.graph before restored.context events leg := by
  have hkept := hagrees.restored hrestored
  cases hresumes with
  | rejected _ => exact .fail (hkept.skip (by simp))
  | approved _ _ =>
      obtain ⟨node, hnode, config, hkind, hid⟩ := hawaits.exists_node
      have hresumed : Agrees drops plan.graph
          (before ++ [⟨restored.cursor, .resumed, signal.payload⟩])
          restored.context := hkept.skip (by simp)
      have hreport : Agrees drops plan.graph
          (before ++ [⟨restored.cursor, .resumed, signal.payload⟩] ++
            [⟨node.id, .output, signal.payload⟩])
          (restored.context.recordControl node.id signal.payload) :=
        hresumed.report hgraph hnode rfl
          (by simp [hkind, NodeKind.producesValue, Context.recordControl])
      rw [hid, ← hrestored.cursor_eq, List.append_assoc] at hreport
      exact .keep rfl rfl (hreport.congr rfl rfl)

end Leg

namespace History

variable {drops : Prop} {around : Surroundings} {run : RunId}
variable {inputs : Assoc Json} {history : History}

end History

end Workflow
