import Workflow.Proofs.Manager.Worker
import Workflow.Proofs.Run.Trace

/-!
# Legs whose token has been cancelled

Such a leg finds out at its next look, and a leg that has looked already still
does what it is about to do.  `Stops` lists the steps that are left to it, and
`Winding` says what any number of them come to: no other node is dispatched,
the run is not put aside, and there are few steps until the leg has settled
with an outcome that it was bound to when its token was cancelled.
-/

namespace Workflow

namespace Leg

/-- A node that has been started, and the same node when it waits for work. -/
inductive Underway : Leg → Leg → Prop
  | same {leg : Leg} : Underway leg leg
  | asks {context : Context} {node : Node} {work : Work} :
      Underway (.entered context node) (.working context node work)

/-- The node that is started next at a stage, if the token has been found not
cancelled. -/
def coming (clear : Bool) : Leg → List String
  | .between _ next => if clear then [next] else []
  | _ => []

/-- The node that is dispatched at a stage, if the token has been found not
cancelled. -/
def inFlight (clear : Bool) : Leg → List String
  | .entered _ node => if clear then [node.id] else []
  | _ => []

/-- How many steps there are at most from a stage, if no later look finds the
token not cancelled. -/
def ahead (clear : Bool) : Leg → Nat
  | .between .. | .working .. => if clear then 3 else 2
  | .entered .. => if clear then 4 else 2
  | .parking _ => 2
  | .parked _ | .ended _ => 1

end Leg

namespace Worker

variable {worker next first last : Worker}

/-- The node that a leg starts next, having looked at its token already. -/
def coming (worker : Worker) : List String :=
  match worker.task.stage with
  | .running _ leg => leg.coming (worker.grasp = .clear)
  | _ => []

/-- The node that a leg has started, and dispatches without another look. -/
def inFlight (worker : Worker) : List String :=
  match worker.task.stage with
  | .running _ leg => leg.inFlight (worker.grasp = .clear)
  | _ => []

/-- How many steps a leg makes at most once its token is cancelled. -/
def ahead (worker : Worker) : Nat :=
  match worker.task.stage with
  | .submitted .. | .claimed .. => 3
  | .running _ leg => leg.ahead (worker.grasp = .clear)
  | .settled _ => 0

/-- How a leg can end whose token is cancelled now.  It is cancelled, unless
something else comes first: it has ended already, its inputs are bad, its run
has been rejected, or the node that it has in flight ends the run or fails. -/
inductive Bound (worker : Worker) : Outcome → Prop
  | cancelled (node : String) : Bound worker (.failed node .cancelled)
  | ended {plan : Plan} {outcome : Outcome}
      (hstage : worker.task.stage = .running plan (.ended outcome)) :
      Bound worker outcome
  | settled {outcome : Outcome}
      (hstage : worker.task.stage = .settled (.ok outcome)) :
      Bound worker outcome
  | input {graph : Graph} {inputs : Assoc Json} {start : Node}
      {name reason : String}
      (hstage : worker.task.stage = .submitted graph inputs)
      (hstart : graph.start? = some start) :
      Bound worker (.failed start.id (.invalidInput name reason))
  | rejected {suspended : SuspendedRun} {signal : ResumeSignal}
      (hstage : worker.task.stage = .claimed suspended signal)
      (hdecision : signal.decision = .reject) :
      Bound worker (.failed suspended.cursor
        (.rejected suspended.cursor signal.note))
  | finish {plan : Plan} {context : Context} {node : Node}
      (hstage : worker.task.stage = .running plan (.entered context node))
      (hgrasp : worker.grasp = .clear) (hkind : node.kind = .finish) :
      Bound worker (.completed (Json.orNull context.lastOutput))
  | own {plan : Plan} {leg later : Leg} {move : later.Move} {node : String}
      {error : Error} (hstage : worker.task.stage = .running plan leg)
      (hgrasp : worker.grasp = .clear) (hunderway : leg.Underway later)
      (hmove : later.Proceeds move)
      (hfails : Leg.Fails plan later move node error) :
      Bound worker (.failed node error)

/-- The steps of a leg whose token is cancelled. -/
inductive Stops (worker : Worker) : Worker → Prop
  | launch {plan : Plan} {leg : Leg} {events : List Event}
      (hopens : worker.Opens leg events) :
      Stops worker (worker.after (.running plan leg) .nothing events)
  | yield {plan : Plan} {leg : Leg} {move : leg.Move}
      (hstage : worker.task.stage = .running plan leg)
      (hgrasp : worker.grasp = .nothing) (hmove : leg.Yields move) :
      Stops worker (worker.goesOn plan leg move .nothing)
  | proceed {plan : Plan} {leg : Leg} {move : leg.Move}
      (hstage : worker.task.stage = .running plan leg)
      (hgrasp : worker.grasp = .clear) (hmove : leg.Proceeds move) :
      Stops worker (worker.goesOn plan leg move
        (if (leg.step plan move).1.isWorking then .clear else .nothing))
  | wait {plan : Plan} {leg : Leg}
      (hstage : worker.task.stage = .running plan leg)
      (hgrasp : worker.grasp = .clear) (hworking : leg.isWorking = true) :
      Stops worker (worker.after (.running plan leg) .nothing [])
  | refuse {plan : Plan} {suspended : SuspendedRun}
      (hstage : worker.task.stage = .running plan (.parking suspended)) :
      Stops worker
        (worker.goesOn plan (.parking suspended) (some Error.cancelled)
          .nothing)
  | settle {plan : Plan} {outcome : Outcome}
      (hstage : worker.task.stage = .running plan (.ended outcome)) :
      Stops worker (worker.after (.settled (.ok outcome)) .nothing [])

end Worker

/-- A leg that has its run in hand, and whose token is cancelled, makes one of
these steps. -/
theorem Turn.stops {σ : Type} [SuspensionStore σ] [LawfulStore σ] {free : Prop}
    {manager later : Manager σ} {worker next : Worker} {entries : List Entry}
    (hsound : worker.Sound) (hactive : worker.isActive = true)
    (hcancelled : manager.isCancelled worker.task.token = true)
    (hlive : Assoc.get? manager.live worker.task.run =
      some worker.task.token)
    (hturn : Turn free manager worker later next entries) :
    worker.Stops next := by
  obtain ⟨hlisted, hgrasp⟩ := Bool.and_eq_true_iff.mp hactive
  cases hturn with
  | launch hopening =>
      exact .launch (hsound.opens_of_ok hopening).1
  | refused _ hopening => exact absurd hopening hsound.opening_ne_error
  | look _ _ _ htoken => simp [hcancelled] at htoken
  | yield hstage hgrasp hmove _ => exact .yield hstage hgrasp hmove
  | proceed hstage hgrasp hmove => exact .proceed hstage hgrasp hmove
  | wait hstage hgrasp hworking => exact .wait hstage hgrasp hworking
  | keep _ hstage hkeep _ =>
      have hruns := hsound.runs hstage
      have hfound := (manager.keep_eq_none hkeep).1
      rw [hruns.awaits.run_eq.trans hruns.run_eq, hlive] at hfound
      simp [hcancelled] at hfound
  | @refuse plan suspended error _ hstage hkeep =>
      have hruns := hsound.runs hstage
      rw [← hruns.awaits.run_eq.trans hruns.run_eq] at hlive
      have hrefused := manager.keep_of_cancelled hlive hcancelled
      obtain rfl := Option.some.inj (hkeep.symm.trans hrefused)
      exact .refuse hstage
  | release hheld _ => simp [hheld] at hgrasp
  | report hstage => simp [Worker.isListed, hstage, Stage.isListed] at hlisted
  | settle _ hstage => exact .settle hstage

namespace Worker

variable {worker next first last : Worker} {outcome : Outcome}

/-! ## One step -/

theorem Stops.same (hstops : worker.Stops next) :
    next.task.run = worker.task.run ∧ next.task.token = worker.task.token ∧
      next.graph = worker.graph ∧ next.beginning = worker.beginning ∧
      next.turns = worker.turns + 1 := by
  cases hstops <;> exact ⟨rfl, rfl, rfl, rfl, rfl⟩

/-- A leg that looks at its token and finds it cancelled has failed. -/
theorem step_of_yields {plan : Plan} {leg : Leg} {move : leg.Move}
    (hmove : leg.Yields move) :
    ∃ node, leg.step plan move = (.ended (.failed node .cancelled),
      [⟨node, .error, Error.cancelled.payload⟩]) := by
  cases hmove <;> exact ⟨_, rfl⟩

theorem Bound.of_idle {plan : Plan} {leg : Leg}
    (hbound : worker.Bound outcome)
    (hstage : worker.task.stage = .running plan leg)
    (hgrasp : worker.grasp = .nothing) :
    (∃ node, outcome = .failed node .cancelled) ∨ leg = .ended outcome := by
  cases hbound with
  | cancelled node => exact .inl ⟨node, rfl⟩
  | ended hended =>
      rw [hstage] at hended
      exact .inr (Stage.running.inj hended).2
  | settled hsettled => simp [hstage] at hsettled
  | input hsubmitted _ => simp [hstage] at hsubmitted
  | rejected hclaimed _ => simp [hstage] at hclaimed
  | finish _ hclear _ => simp [hgrasp] at hclear
  | own _ hclear _ _ _ => simp [hgrasp] at hclear

theorem Opens.bound {leg : Leg} {events : List Event}
    (hopens : worker.Opens leg events) (hleg : leg = .ended outcome) :
    worker.Bound outcome := by
  subst hleg
  cases hopens with
  | starts hstage hgraph hstarts =>
      cases hstarts with
      | refused hstart => exact .input hstage (hgraph ▸ hstart)
  | resumes hstage hresumes =>
      cases hresumes with
      | rejected hdecision => exact .rejected hstage hdecision

/-- A leg that goes on, and ends with that, ends because of its node. -/
theorem bound_of_proceeds {plan : Plan} {leg : Leg} {move : leg.Move}
    {events : List Event} (hstage : worker.task.stage = .running plan leg)
    (hgrasp : worker.grasp = .clear) (hmove : leg.Proceeds move)
    (hgoes : Leg.Goes plan leg move (.ended outcome) events) :
    worker.Bound outcome := by
  cases hgoes with
  | fails hfails => exact .own hstage hgrasp .same hmove hfails
  | completes hkind => exact .finish hstage hgrasp hkind
  | suspends => cases hmove

/-- What a node does after it has asked for work, it was bound to before. -/
theorem bound_of_asks {plan : Plan} {leg asking : Leg} {move : leg.Move}
    {events : List Event} (hstage : worker.task.stage = .running plan leg)
    (hgrasp : worker.grasp = .clear) (hworking : asking.isWorking = true)
    (hgoes : Leg.Goes plan leg move asking events)
    (hnext : next.task.stage = .running plan asking)
    (hbound : next.Bound outcome) : worker.Bound outcome := by
  cases hgoes with
  | works hwork =>
      cases hbound with
      | cancelled node => exact .cancelled node
      | own hlater _ hunderway hmove hfails =>
          rw [hnext] at hlater
          obtain ⟨rfl, rfl⟩ := Stage.running.inj hlater
          cases hunderway with
          | same => exact .own hstage hgrasp .asks hmove hfails
      | ended hlater => simp [hnext] at hlater
      | settled hlater => simp [hnext] at hlater
      | input hlater _ => simp [hnext] at hlater
      | rejected hlater _ => simp [hnext] at hlater
      | finish hlater _ _ => simp [hnext] at hlater
  | _ => simp [Leg.isWorking] at hworking

/-- No step of a leg that is to stop opens up another way to end. -/
theorem Stops.bound (hsound : worker.Sound) (hstops : worker.Stops next)
    (hbound : next.Bound outcome) : worker.Bound outcome := by
  cases hstops with
  | launch hopens =>
      rcases hbound.of_idle rfl rfl with ⟨node, rfl⟩ | hleg
      · exact .cancelled node
      · exact hopens.bound hleg
  | yield hstage _ hmove =>
      obtain ⟨node, hstep⟩ := step_of_yields hmove
      rcases hbound.of_idle rfl rfl with ⟨node, rfl⟩ | hleg
      · exact .cancelled node
      · rw [hstep] at hleg
        obtain rfl := Leg.ended.inj hleg
        exact .cancelled node
  | @proceed plan leg move hstage hgrasp hmove =>
      have hgoes := (hsound.runs hstage).step move
      cases hworking : (leg.step plan move).1.isWorking with
      | true =>
          -- The result may still arrive before the next look.
          exact bound_of_asks hstage hgrasp hworking hgoes rfl hbound
      | false =>
          rcases hbound.of_idle rfl (by simp [hworking]) with
            ⟨node, rfl⟩ | hleg
          · exact .cancelled node
          · rw [hleg] at hgoes
            exact bound_of_proceeds hstage hgrasp hmove hgoes
  | wait hstage _ hworking =>
      rcases hbound.of_idle rfl rfl with ⟨node, rfl⟩ | rfl
      · exact .cancelled node
      · simp [Leg.isWorking] at hworking
  | refuse hstage =>
      rcases hbound.of_idle rfl rfl with ⟨node, rfl⟩ | hleg
      · exact .cancelled node
      · obtain rfl := Leg.ended.inj hleg
        exact .cancelled _
  | settle hstage =>
      cases hbound with
      | cancelled node => exact .cancelled node
      | settled hsettled =>
          obtain rfl := Except.ok.inj (Stage.settled.inj hsettled)
          exact .ended hstage
      | ended hended => simp at hended
      | input hsubmitted _ => simp at hsubmitted
      | rejected hclaimed _ => simp at hclaimed
      | finish hentered _ _ => simp at hentered
      | own hrunning _ _ _ _ => simp at hrunning

/-- A leg that is to stop and completes all the same has started an end node
last. -/
theorem Bound.started_finish {output : Json} (hsound : worker.Sound)
    (hactive : worker.isActive = true)
    (hbound : worker.Bound (.completed output)) :
    ∃ node ∈ worker.graph.nodes, node.kind = .finish ∧
      (placesOf .started worker.told).getLast? = some node.id := by
  cases hbound with
  | ended hstage =>
      have hruns := hsound.runs hstage
      have hshape : Shape worker.graph worker.beginning worker.told
          (.completed output) := hruns.graph_eq ▸ hruns.reports
      generalize worker.told = told at hshape
      generalize worker.beginning = beginning at hshape
      cases hshape with
      | body _ hending =>
          cases hending with
          | @completed node _ hnode hkind =>
              exact ⟨node, hnode, hkind, by simp [placesOf, Leg.startedEvent]⟩
  | settled hstage =>
      simp [isActive, isListed, hstage, Stage.isListed] at hactive
  | @finish plan context node hstage _ hkind =>
      have hruns := hsound.runs hstage
      obtain ⟨lead, -, htold⟩ := hruns.reports
      refine ⟨node, ?_, hkind, by simp [htold, placesOf, Leg.startedEvent]⟩
      rw [← hruns.graph_eq]
      cases hruns.sound with
      | entered hnode => exact hnode

theorem nothing_coming_of_idle (hgrasp : worker.grasp = .nothing) :
    worker.coming = [] ∧ worker.inFlight = [] := by
  unfold coming inFlight
  split
  next plan leg _ =>
    cases leg <;> simp [Leg.coming, Leg.inFlight, hgrasp]
  next => exact ⟨rfl, rfl⟩

/-- After a step of a leg that is to stop there is a look before everything
else. -/
theorem Stops.nothing_coming (hstops : worker.Stops next) :
    next.coming = [] ∧ next.inFlight = [] := by
  cases hstops with
  | @proceed plan leg move _ _ _ =>
      cases hnext : (leg.step plan move).1 with
      | working context node work =>
          simp [coming, inFlight, hnext, Leg.coming, Leg.inFlight]
      | _ => exact nothing_coming_of_idle (by simp [Leg.isWorking])
  | _ => exact nothing_coming_of_idle rfl

theorem Opens.started_eq_nil {leg : Leg} {events : List Event}
    (hopens : worker.Opens leg events) : placesOf .started events = [] := by
  cases hopens with
  | starts _ _ hstarts => cases hstarts <;> rfl
  | resumes _ hresumes => cases hresumes <;> rfl

/-- The only node that a move starts is the one that comes next. -/
theorem started_of_goes {plan : Plan} {leg later : Leg} {move : leg.Move}
    {events : List Event} (hmove : leg.Proceeds move)
    (hgoes : Leg.Goes plan leg move later events) :
    placesOf .started events <+: leg.coming true := by
  cases hgoes with
  | enters _ _ => exact List.prefix_rfl
  | suspends => cases hmove
  | _ => exact List.nil_prefix

/-- A leg that is to stop starts no node but the one that it looked at its
token for. -/
theorem Stops.told (hsound : worker.Sound) (hstops : worker.Stops next) :
    ∃ events, next.told = worker.told ++ events ∧
      placesOf .started events ++ next.coming <+: worker.coming := by
  rw [hstops.nothing_coming.1]
  cases hstops with
  | launch hopens =>
      refine ⟨_, rfl, ?_⟩
      rw [hopens.started_eq_nil]
      exact List.nil_prefix
  | yield _ _ hmove =>
      obtain ⟨node, hstep⟩ := step_of_yields hmove
      exact ⟨_, congrArg (worker.told ++ ·) (congrArg Prod.snd hstep),
        List.nil_prefix⟩
  | @proceed plan leg move hstage hgrasp hmove =>
      have hgoes := (hsound.runs hstage).step move
      refine ⟨(leg.step plan move).2, rfl, ?_⟩
      simpa [coming, hstage, hgrasp] using started_of_goes hmove hgoes
  | wait _ _ _ => exact ⟨[], rfl, List.nil_prefix⟩
  | refuse _ => exact ⟨_, rfl, List.nil_prefix⟩
  | settle _ => exact ⟨[], rfl, List.nil_prefix⟩

theorem dispatched_of_proceeds {leg : Leg} {move : leg.Move}
    (hmove : leg.Proceeds move) :
    leg.dispatched move = leg.inFlight true := by
  cases hmove <;> rfl

theorem dispatched_of_yields {leg : Leg} {move : leg.Move}
    (hmove : leg.Yields move) : leg.dispatched move = [] := by
  cases hmove <;> rfl

/-- A leg that is to stop dispatches no node but the one in flight. -/
theorem Stops.dispatched (hstops : worker.Stops next) :
    ∃ nodes, next.dispatched = worker.dispatched ++ nodes ∧
      nodes ++ next.inFlight <+: worker.inFlight := by
  rw [hstops.nothing_coming.2]
  cases hstops with
  | launch _ => exact ⟨[], by simp, List.nil_prefix⟩
  | yield _ _ hmove =>
      exact ⟨_, congrArg (worker.dispatched ++ ·) (dispatched_of_yields hmove),
        List.nil_prefix⟩
  | @proceed plan leg move hstage hgrasp hmove =>
      refine ⟨leg.dispatched move, rfl, ?_⟩
      simp [inFlight, hstage, hgrasp, dispatched_of_proceeds hmove]
  | wait _ _ _ => exact ⟨[], by simp, List.nil_prefix⟩
  | refuse _ => exact ⟨_, rfl, List.nil_prefix⟩
  | settle _ => exact ⟨[], by simp, List.nil_prefix⟩

theorem ahead_of_proceeds {plan : Plan} {leg later : Leg} {move : leg.Move}
    {events : List Event} (hmove : leg.Proceeds move)
    (hgoes : Leg.Goes plan leg move later events) :
    later.ahead later.isWorking < leg.ahead true := by
  cases hgoes with
  | fails _ => cases hmove <;> simp [Leg.ahead]
  | leaves hvisits _ _ => cases hvisits <;> simp [Leg.ahead, Leg.isWorking]
  | keeps => cases hmove
  | suspends => cases hmove
  | _ => simp [Leg.ahead, Leg.isWorking]

theorem ahead_le (worker : Worker) : worker.ahead ≤ 4 := by
  have hleg : ∀ (clear : Bool) (leg : Leg), leg.ahead clear ≤ 4 := by
    intro clear leg
    cases leg <;> cases clear <;> simp [Leg.ahead]
  cases hstage : worker.task.stage with
  | running plan leg => simpa [ahead, hstage] using hleg _ leg
  | _ => simp [ahead, hstage]

theorem Stops.ahead_lt (hsound : worker.Sound) (hstops : worker.Stops next) :
    next.ahead < worker.ahead := by
  cases hstops with
  | launch hopens =>
      cases hopens with
      | starts hstage _ hstarts =>
          cases hstarts <;> simp [ahead, hstage, Leg.ahead]
      | resumes hstage hresumes =>
          cases hresumes <;> simp [ahead, hstage, Leg.ahead]
  | yield hstage hgrasp hmove =>
      have hworker : worker.ahead = 2 := by
        cases hmove <;> simp [ahead, hstage, hgrasp, Leg.ahead]
      rw [hworker]
      cases hmove <;> exact Nat.one_lt_two
  | @proceed plan leg move hstage hgrasp hmove =>
      have hlt := ahead_of_proceeds hmove ((hsound.runs hstage).step move)
      cases hworking : (leg.step plan move).1.isWorking <;>
        simpa [ahead, hstage, hgrasp, hworking] using hlt
  | @wait plan leg hstage hgrasp hworking =>
      cases leg <;> simp_all [ahead, Leg.ahead, Leg.isWorking]
  | refuse hstage =>
      have hworker : worker.ahead = 2 := by simp [ahead, hstage, Leg.ahead]
      rw [hworker]
      exact Nat.one_lt_two
  | settle hstage => simp [ahead, hstage, Leg.ahead]

/-- A leg that is to stop keeps its run in hand until it has settled, and does
not end with a suspension. -/
theorem Stops.active (hsound : worker.Sound) (hactive : worker.isActive = true)
    (hstops : worker.Stops next) :
    next.isActive = true ∨ ∃ outcome, next.task.stage = .settled (.ok outcome) ∧
      ∀ suspended, outcome ≠ .suspended suspended := by
  cases hstops with
  | launch hopens =>
      exact .inl (isActive_of_listed hopens.leg_isListed (by simp))
  | @yield plan leg move hstage _ hmove =>
      have hlisted := ((hsound.runs hstage).step move).isListed hmove.watches
      exact .inl (isActive_of_listed hlisted (by simp))
  | @proceed plan leg move hstage _ hmove =>
      have hlisted := ((hsound.runs hstage).step move).isListed hmove.watches
      refine .inl (isActive_of_listed hlisted ?_)
      rw [goesOn_grasp]
      split <;> simp
  | wait _ _ hworking =>
      have hwatches := Leg.watches_of_isWorking hworking
      exact .inl (isActive_of_listed (isListed_of_watches rfl hwatches)
        (by simp))
  | refuse _ =>
      exact .inl (isActive_of_listed rfl (show Grasp.nothing ≠ .lock by simp))
  | settle hstage =>
      refine .inr ⟨_, rfl, ?_⟩
      rintro suspended rfl
      simp [isActive, isListed, hstage, Stage.isListed] at hactive

/-! ## Any number of steps -/

/-- What a leg has come to since its token was cancelled. -/
structure Winding (first worker : Worker) : Prop where
  run_eq : worker.task.run = first.task.run
  token_eq : worker.task.token = first.task.token
  graph_eq : worker.graph = first.graph
  beginning_eq : worker.beginning = first.beginning
  /-- It has not begun to put the run aside, and has not ended with that. -/
  kept : worker.isActive = true ∨
    ∃ outcome, worker.task.stage = .settled (.ok outcome) ∧
      ∀ suspended, outcome ≠ .suspended suspended
  told : ∃ events, worker.told = first.told ++ events ∧
    placesOf .started events ++ worker.coming <+: first.coming
  dispatched : ∃ nodes, worker.dispatched = first.dispatched ++ nodes ∧
    nodes ++ worker.inFlight <+: first.inFlight
  bound : ∀ {outcome}, worker.Bound outcome → first.Bound outcome
  turns_le : worker.turns + worker.ahead ≤ first.turns + first.ahead

theorem Winding.refl (hactive : worker.isActive = true) :
    Winding worker worker where
  run_eq := rfl
  token_eq := rfl
  graph_eq := rfl
  beginning_eq := rfl
  kept := .inl hactive
  told := ⟨[], by simp, List.prefix_rfl⟩
  dispatched := ⟨[], by simp, List.prefix_rfl⟩
  bound := id
  turns_le := le_rfl

theorem Winding.step (hwinding : Winding first worker) (hsound : worker.Sound)
    (hactive : worker.isActive = true) (hstops : worker.Stops next) :
    Winding first next := by
  obtain ⟨hrun, htoken, hgraph, hbeginning, hturns⟩ := hstops.same
  refine ⟨hrun.trans hwinding.run_eq, htoken.trans hwinding.token_eq,
    hgraph.trans hwinding.graph_eq, hbeginning.trans hwinding.beginning_eq,
    hstops.active hsound hactive, ?_, ?_,
    fun hbound => hwinding.bound (hstops.bound hsound hbound), ?_⟩
  · obtain ⟨before, htold, hbefore⟩ := hwinding.told
    obtain ⟨events, hnext, hcoming⟩ := hstops.told hsound
    refine ⟨before ++ events, by rw [hnext, htold, List.append_assoc], ?_⟩
    have hstarted : placesOf .started (before ++ events) =
        placesOf .started before ++ placesOf .started events := by
      simp [placesOf]
    rw [hstarted, List.append_assoc]
    exact ((List.prefix_append_right_inj _).mpr hcoming).trans hbefore
  · obtain ⟨before, hdispatched, hbefore⟩ := hwinding.dispatched
    obtain ⟨nodes, hnext, hflight⟩ := hstops.dispatched
    refine ⟨before ++ nodes, by rw [hnext, hdispatched, List.append_assoc], ?_⟩
    rw [List.append_assoc]
    exact ((List.prefix_append_right_inj _).mpr hflight).trans hbefore
  · have hlt := hstops.ahead_lt hsound
    have hle := hwinding.turns_le
    omega

/-- How a leg has settled that was `first` when its token was cancelled. -/
structure Stopped (first worker : Worker) (outcome : Outcome) : Prop where
  bound : first.Bound outcome
  not_suspended : ∀ suspended, outcome ≠ .suspended suspended
  /-- Only an end node that was in flight lets the run complete. -/
  completed : ∀ {output}, outcome = .completed output →
    ∃ node ∈ first.graph.nodes, node.kind = .finish ∧
      (placesOf .started first.told).getLast? = some node.id
  shape : Shape first.graph first.beginning worker.told outcome
  terminal : ∃ event, worker.told.filter (·.isTerminal first.graph) = [event] ∧
    event.kind = outcome.mark

theorem Stopped.of_winding {first worker : Worker} {outcome : Outcome}
    (hfirst : first.Sound) (hactive : first.isActive = true)
    (hsound : worker.Sound) (hwinding : Winding first worker)
    (hsettled : worker.task.stage = .settled (.ok outcome)) :
    first.Stopped worker outcome := by
  obtain ⟨-, found, hgraph, hfits, hfound, hshape⟩ :
      worker.grasp = .nothing ∧ ∃ found,
        worker.graph.WellFormed Schema.refusal? ∧
          worker.beginning.Fits worker.graph ∧
          Except.ok outcome = Except.ok (ε := Error) found ∧
          Shape worker.graph worker.beginning worker.told found := by
    simpa only [Sound, hsettled] using hsound
  obtain rfl := Except.ok.inj hfound
  rw [hwinding.graph_eq] at hgraph hfits hshape
  rw [hwinding.beginning_eq] at hfits hshape
  have hbound := hwinding.bound (.settled hsettled)
  refine ⟨hbound, ?_, ?_, hshape, hshape.exists_terminal hgraph hfits⟩
  · rcases hwinding.kept with hlisted | ⟨ended, hended, hkept⟩
    · simp [isActive, isListed, hsettled, Stage.isListed] at hlisted
    · have heq := Stage.settled.inj (hsettled.symm.trans hended)
      obtain rfl := Except.ok.inj heq
      exact hkept
  · rintro output rfl
    exact hbound.started_finish hfirst hactive

end Worker

end Workflow
