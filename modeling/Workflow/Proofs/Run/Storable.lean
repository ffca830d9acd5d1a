import Workflow.Proofs.Clock.Instant
import Workflow.Proofs.Run.Document
import Workflow.Proofs.Run.Stored

/-!
# Runs that can be stored

Whatever a run on a storable graph is put aside as, its document can tell
(`Stored.storable`): what the run notes is canonical, a counter stays within
the 32 bits of its loop's limit, and the steps stay within the budget of the
leg.  `Regular` are surroundings whose answers are values as they are read and
whose clock shows a time in the known years.
-/

namespace Workflow

open Clock (Date)

/-! ## Deadlines -/

/-- A later second is in no earlier year. -/
theorem Instant.year_le {at_ later : Instant} (hle : at_.seconds ≤ later.seconds) :
    at_.parts.1.year ≤ later.parts.1.year := by
  rcases Int.lt_or_eq_of_le (Int.ediv_le_ediv (by decide : (0 : Int) < 86400) hle)
    with hlt | heq
  · have hbefore := (date_before_iff at_ later).mpr hlt
    unfold Date.Before at hbefore
    omega
  · simp only [parts, heq, Int.le_refl]

/-- A time of a clock that shows no leap second. -/
structure Instant.Plain (at_ : Instant) : Prop where
  minYear_le : minYear ≤ at_.parts.1.year
  le_maxYear : at_.parts.1.year ≤ maxYear
  nanos_lt : at_.nanos < 1000000000

theorem Instant.Plain.valid {at_ : Instant} (hplain : at_.Plain) : at_.Valid :=
  ⟨hplain.minYear_le, hplain.le_maxYear, .inl hplain.nanos_lt⟩

theorem Instant.Plain.deadline? {at_ deadline : Instant} {seconds : Nat}
    (hplain : at_.Plain) (hdeadline : at_.deadline? seconds = some deadline) :
    deadline.Plain := by
  unfold Instant.deadline? later? at hdeadline
  split at hdeadline
  · dsimp only at hdeadline
    split at hdeadline
    · next hyear =>
        obtain rfl := Option.some.inj hdeadline
        have hle : at_.seconds ≤ at_.seconds + (seconds : Int) := by omega
        exact ⟨hplain.minYear_le.trans (year_le hle), hyear, hplain.nanos_lt⟩
    · contradiction
  · contradiction

/-! ## Surroundings -/

/-- Surroundings whose clock shows no leap second and whose answers are values
as they are read. -/
structure Surroundings.Regular (around : Surroundings) : Prop where
  clock : ∀ {context node now},
    around (.entered context node) (some now) → Instant.Plain now
  agent : ∀ {context node request output},
    around (.working context node (.agent request)) (some (.ok output)) →
    Json.Canonical output
  transform : ∀ {context node script bindings millis output},
    around (.working context node (.transform script bindings millis))
      (some (.ok output)) → Json.Canonical output
  tool : ∀ {context node server tool arguments} {output : ToolOutput},
    around (.working context node (.tool server tool arguments))
      (some (.ok output)) →
    ∀ value ∈ output.structured, value.Canonical

theorem ToolOutput.canonical_value {output : ToolOutput}
    (hstructured : ∀ value ∈ output.structured, value.Canonical) :
    output.value.Canonical := by
  unfold ToolOutput.value
  split
  · next value hvalue => exact hstructured value hvalue
  · cases hparse : Json.parse? output.content with
    | none => exact Json.canonical_text _
    | some value => exact Json.canonical_of_parse? hparse

/-! ## States -/

theorem Json.Canonical.insert {members : Assoc Json} {name : String} {value : Json}
    (hmembers : (record members).Canonical) (hvalue : value.Canonical) :
    (record (Assoc.insert members name value)).Canonical := by
  obtain ⟨hsorted, hall⟩ := canonical_record.mp hmembers
  refine canonical_record.mpr ⟨hsorted.insert name value, fun member hmem => ?_⟩
  rcases Assoc.mem_insert hmem with rfl | hmem
  · exact hvalue
  · exact hall member hmem

namespace Context.Storable

variable {context : Context} {node : String} {value : Json}

theorem ofInputs {inputs : Assoc Json} (hinputs : (Json.record inputs).Canonical) :
    (ofInputs inputs).Storable where
  inputs := hinputs
  lastOutput := nofun
  nodeOutputs := Json.canonical_record.mpr (by simp [Context.ofInputs])
  counters_sorted := Assoc.sorted_nil
  counters_lt := nofun

theorem traverse (hcontext : context.Storable) (edge : String) :
    (context.traverse edge).Storable :=
  ⟨hcontext.inputs, hcontext.lastOutput, hcontext.nodeOutputs,
    hcontext.counters_sorted, hcontext.counters_lt⟩

theorem recordControl (hcontext : context.Storable) (hvalue : value.Canonical) :
    (context.recordControl node value).Storable where
  inputs := hcontext.inputs
  lastOutput := hcontext.lastOutput
  nodeOutputs := hcontext.nodeOutputs.insert hvalue
  counters_sorted := hcontext.counters_sorted
  counters_lt := hcontext.counters_lt

theorem recordOutput (hcontext : context.Storable) (hvalue : value.Canonical) :
    (context.recordOutput node value).Storable where
  inputs := hcontext.inputs
  lastOutput := by
    intro last hlast
    exact Option.some.inj hlast ▸ hvalue
  nodeOutputs := hcontext.nodeOutputs.insert hvalue
  counters_sorted := hcontext.counters_sorted
  counters_lt := hcontext.counters_lt

theorem setCounter {count : Nat} (hcontext : context.Storable)
    (hcount : count < Width.span 32) : (context.setCounter node count).Storable where
  inputs := hcontext.inputs
  lastOutput := hcontext.lastOutput
  nodeOutputs := hcontext.nodeOutputs
  counters_sorted := hcontext.counters_sorted.insert node count
  counters_lt := by
    intro counter hmem
    rcases Assoc.mem_insert hmem with rfl | hmem
    · exact hcount
    · exact hcontext.counters_lt counter hmem

theorem clearCounter (hcontext : context.Storable) :
    (context.clearCounter node).Storable where
  inputs := hcontext.inputs
  lastOutput := hcontext.lastOutput
  nodeOutputs := hcontext.nodeOutputs
  counters_sorted := hcontext.counters_sorted.erase node
  counters_lt := fun counter hmem => hcontext.counters_lt counter (Assoc.mem_erase hmem)

theorem restored {suspended restored : SuspendedRun} {drops : Prop}
    (hcontext : suspended.context.Storable)
    (hrestored : suspended.Restored drops restored) : restored.context.Storable := by
  cases hrestored with
  | same => exact hcontext
  | dropped =>
      exact ⟨hcontext.inputs, nofun, hcontext.nodeOutputs, hcontext.counters_sorted,
        hcontext.counters_lt⟩

end Context.Storable

/-! ## Stages -/

namespace Leg

variable {plan : Plan}

/-- A stage whose state can be stored.  Where a node has been started, the
steps are within the budget. -/
def Storable (plan : Plan) : Leg → Prop
  | between context _ => context.Storable
  | entered context _ | working context _ _ =>
    context.Storable ∧ context.steps ≤ plan.limits.maxSteps
  | parking suspended | parked suspended | ended (.suspended suspended) =>
    suspended.Storable ∧ suspended.context.steps ≤ plan.limits.maxSteps
  | ended _ => True

theorem storable_leave {context : Context} {node : String} {output : Json}
    {branch : Option Branch} (hcontext : context.Storable) :
    (leave plan context node output branch).1.Storable plan := by
  unfold leave
  split
  · exact hcontext.traverse _
  · trivial

theorem storable_enter {context : Context} {next : String}
    (hcontext : context.Storable) :
    (enter plan context next).1.Storable plan := by
  unfold enter
  dsimp only
  split
  · trivial
  · next hbudget =>
      split
      · trivial
      · exact ⟨⟨hcontext.inputs, hcontext.lastOutput, hcontext.nodeOutputs,
          hcontext.counters_sorted, hcontext.counters_lt⟩, Nat.le_of_not_lt hbudget⟩

theorem storable_suspend {context : Context} {node : String}
    {config : ApprovalConfig} {now : Instant} (hgraph : plan.graph.Storable)
    (hcontext : context.Storable) (hnow : now.Plain) :
    (suspend plan context node config now).Storable where
  graph := hgraph
  context := hcontext
  suspendedAt := hnow.valid
  expiresAt := by
    intro deadline hdeadline
    obtain ⟨seconds, -, hdeadline⟩ := Option.bind_eq_some_iff.mp hdeadline
    exact (hnow.deadline? hdeadline).valid

theorem storable_dispatch {context : Context} {node : Node} {now : Instant}
    (hgraph : plan.graph.Storable) (hnow : now.Plain)
    (hcontext : context.Storable) (hsteps : context.steps ≤ plan.limits.maxSteps) :
    (dispatch plan context node now).1.Storable plan := by
  unfold dispatch
  split
  · exact storable_leave (hcontext.recordControl hcontext.inputs)
  · trivial
  · exact ⟨hcontext, hsteps⟩
  · exact ⟨hcontext, hsteps⟩
  · exact ⟨hcontext, hsteps⟩
  · dsimp only
    split
    · exact storable_leave (hcontext.clearCounter.recordControl
        (Json.canonical_ofMembers (by simp)))
    · exact ⟨hcontext, hsteps⟩
  · exact ⟨storable_suspend hgraph hcontext hnow, hsteps⟩
  · exact ⟨hcontext, hsteps⟩

/-- A counter that has not reached its loop's limit fits 32 bits once more. -/
theorem counter_lt {node : Node} {config : WhileConfig} {count : Nat}
    (hgraph : plan.graph.Storable) (hnode : node ∈ plan.graph.nodes)
    (hkind : node.kind = .loop config)
    (hlimit : count < loopLimit plan.limits config) :
    count + 1 < Width.span 32 := by
  have hstorable : node.kind.Storable := hgraph node hnode
  rw [hkind] at hstorable
  have hiterations : config.maxIterations < Width.span 32 := hstorable
  have hle : loopLimit plan.limits config ≤ config.maxIterations :=
    Nat.min_le_left _ _
  omega

theorem storable_finish {around : Surroundings} {context : Context} {node : Node}
    {work : Work} {result : Except Error work.Result}
    (hregular : around.Regular)
    (hmove : around (.working context node work) (some result))
    (hgraph : plan.graph.Storable) (hnode : node ∈ plan.graph.nodes)
    (hwork : Asks plan context node work) (hcontext : context.Storable) :
    (finish plan context node.id work result).1.Storable plan := by
  cases hwork with
  | agent hkind =>
      cases result with
      | error error => trivial
      | ok output =>
          exact storable_leave (hcontext.recordOutput (hregular.agent hmove))
  | transform hkind =>
      cases result with
      | error error => trivial
      | ok output =>
          exact storable_leave (hcontext.recordOutput (hregular.transform hmove))
  | choice hkind =>
      cases result with
      | error error => trivial
      | ok truth =>
          exact storable_leave
            (hcontext.recordControl (Json.canonical_ofMembers (by simp)))
  | iteration hkind hlimit =>
      match result with
      | .error error => trivial
      | .ok true =>
          have hcount := counter_lt hgraph hnode hkind hlimit
          exact storable_leave ((hcontext.setCounter hcount).recordControl
            (Json.canonical_ofMembers (by simp)))
      | .ok false =>
          exact storable_leave (hcontext.clearCounter.recordControl
            (Json.canonical_ofMembers (by simp)))
  | tool hkind =>
      cases result with
      | error error => trivial
      | ok output =>
          have hvalue := ToolOutput.canonical_value (hregular.tool hmove)
          unfold finish
          dsimp only
          split
          · trivial
          · exact storable_leave (hcontext.recordOutput hvalue)

theorem Storable.step {around : Surroundings} {leg : Leg} {move : leg.Move}
    (hregular : around.Regular) (hmove : around leg move)
    (hgraph : plan.graph.Storable) (hsound : Sound plan leg)
    (hleg : leg.Storable plan) : (leg.step plan move).1.Storable plan := by
  cases hsound with
  | between hnode =>
      match move with
      | true => trivial
      | false => exact storable_enter hleg
  | entered hnode =>
      match move with
      | none => trivial
      | some now =>
          exact storable_dispatch hgraph (hregular.clock hmove) hleg.1 hleg.2
  | working hnode hwork =>
      match move with
      | none => trivial
      | some result =>
          exact storable_finish hregular hmove hgraph hnode hwork hleg.1
  | parking hawaits =>
      match move with
      | none => exact hleg
      | some error => trivial
  | parked hawaits => exact hleg
  | completed output => exact move.elim
  | failed node error => exact move.elim
  | suspended hawaits => exact move.elim

end Leg

/-! ## Inputs -/

namespace Inputs

/-- Whatever a value is brought to has no parts. -/
theorem canonical_coerce {type : VariableType} {value bound : Json}
    (hcoerce : coerce type value = .ok bound) : bound.Canonical := by
  unfold coerce at hcoerce
  split at hcoerce
  all_goals first
    | contradiction
    | exact Except.ok.inj hcoerce ▸ trivial
    | split at hcoerce
      · exact Except.ok.inj hcoerce ▸ trivial
      · contradiction

theorem canonical_bindAll {declared : List InputVariable}
    {supplied sofar bound : Assoc Json} (hsofar : (Json.record sofar).Canonical)
    (hbind : bindAll declared supplied sofar = .ok bound) :
    (Json.record bound).Canonical := by
  fun_induction bindAll declared supplied sofar with
  | case1 => exact Except.ok.inj hbind ▸ hsofar
  | case2 => contradiction
  | case3 _ _ _ _ _ _ _ ih => exact ih hsofar hbind
  | case4 => contradiction
  | case5 _ _ _ _ _ _ _ value hcoerce ih =>
      exact ih (hsofar.insert (canonical_coerce hcoerce)) hbind

theorem canonical_boundInputs {node : Node} {inputs bound : Assoc Json}
    (hinputs : (Json.record inputs).Canonical)
    (hbind : Leg.boundInputs node inputs = .ok bound) :
    (Json.record bound).Canonical := by
  unfold Leg.boundInputs at hbind
  split at hbind
  · unfold bind at hbind
    split at hbind
    · exact Except.ok.inj hbind ▸ hinputs
    · exact canonical_bindAll (Json.canonical_record.mpr (by simp)) hbind
  · exact Except.ok.inj hbind ▸ hinputs

end Inputs

/-! ## Histories -/

namespace Leg

theorem storable_start {plan : Plan} {inputs : Assoc Json} {leg : Leg}
    {told : List Event} (hinputs : (Json.record inputs).Canonical)
    (hstart : start plan inputs = .ok (leg, told)) : leg.Storable plan := by
  have hgraph := (starts_of_start hstart).1
  obtain ⟨node, hnode, -, -⟩ := hgraph.exists_start
  rw [start_eq hgraph hnode] at hstart
  cases hbound : boundInputs node inputs with
  | error error =>
      rw [hbound] at hstart
      obtain ⟨rfl, -⟩ := Prod.mk.inj (Except.ok.inj hstart)
      trivial
  | ok bound =>
      rw [hbound] at hstart
      obtain ⟨rfl, -⟩ := Prod.mk.inj (Except.ok.inj hstart)
      exact .ofInputs (Inputs.canonical_boundInputs hinputs hbound)

theorem canonical_payload (signal : ResumeSignal) : signal.payload.Canonical := by
  refine Json.canonical_ofMembers ?_
  have hnote : (Json.orNull (signal.note.map .text)).Canonical :=
    Json.canonical_orNull (by simp)
  simpa using hnote

theorem storable_resume {limits : EngineConfig} {suspended : SuspendedRun}
    {signal : ResumeSignal} {leg : Leg} {told : List Event}
    (hcontext : suspended.context.Storable)
    (hresume : resume limits suspended signal = .ok (leg, told)) :
    leg.Storable (planOf limits suspended) := by
  unfold resume at hresume
  split at hresume
  · contradiction
  · obtain ⟨rfl, -⟩ := Prod.mk.inj (Except.ok.inj hresume)
    cases signal.decision with
    | reject => trivial
    | approve =>
        exact storable_leave (hcontext.recordControl (canonical_payload signal))

end Leg

namespace History

variable {drops : Prop} {around : Surroundings} {run : RunId} {graph : Graph}
variable {inputs : Assoc Json} {history : History}

theorem Stored.storable (hregular : around.Regular) (hgraph : graph.Storable)
    (hinputs : (Json.record inputs).Canonical)
    (hstored : Stored drops around run graph inputs history) :
    history.leg.Storable history.plan := by
  -- Every leg has a plan of its own, with the same graph and maybe another budget.
  induction hstored with
  | start hstart => exact Leg.storable_start hinputs hstart
  | @step history hstored move hmove ih =>
      obtain ⟨⟨limits, hplan⟩, hsound⟩ := hstored.sound
      have hgraph : history.plan.graph.Storable := by rwa [hplan]
      exact ih.step hregular hmove hgraph hsound
  | resume hstored hleg hrestored hresume ih =>
      rw [hleg] at ih
      exact Leg.storable_resume (ih.1.context.restored hrestored) hresume

/-- A run that has been put aside can be stored. -/
theorem Stored.storable_suspended {suspended : SuspendedRun}
    (hregular : around.Regular) (hgraph : graph.Storable)
    (hinputs : (Json.record inputs).Canonical)
    (hstored : Stored drops around run graph inputs history)
    (hleg : history.leg = .ended (.suspended suspended)) :
    suspended.Storable ∧ suspended.context.steps ≤ history.plan.limits.maxSteps := by
  have hstorable := hstored.storable hregular hgraph hinputs
  rwa [hleg] at hstorable

end History

end Workflow
