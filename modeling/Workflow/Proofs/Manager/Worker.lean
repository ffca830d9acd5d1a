import Workflow.Proofs.Manager.Office
import Workflow.Proofs.Run.Shape

/-!
# What a leg does to its manager

`Sound` is what every leg of an office satisfies: it stands at a stage of a
graph without a defect, and what it has reported is how such a stage is come
to.  For such a leg `Turn.effect` says what a step means to the manager: mostly
nothing, and otherwise the run is struck off the table or put into the store.
-/

namespace Workflow

theorem Leg.Awaits.fit {plan : Plan} {suspended : SuspendedRun}
    (hgraph : plan.graph.WellFormed Schema.refusal?)
    (hawaits : Leg.Awaits plan suspended) : suspended.Fit := by
  refine ⟨?_, hawaits.exists_exit hgraph⟩
  rw [hawaits.graph_eq]
  exact hgraph

/-- Whether the token of a leg is in the table of live runs: it has neither
been put aside nor settled. -/
def Stage.isListed : Stage → Bool
  | .running _ (.parked _) | .running _ (.ended (.suspended _)) => false
  | .settled _ => false
  | _ => true

/-- What a leg can take along from a stage. -/
def Grasp.Fits : Grasp → Leg → Prop
  | .nothing, _ => True
  | .clear, leg => leg.watches = true
  | .lock, leg => ∃ suspended, leg = .parking suspended

namespace Worker

def isListed (worker : Worker) : Bool :=
  worker.task.stage.isListed

/-- Whether a leg is the one that has its run in hand: it has neither settled
nor begun to put the run into the store. -/
def isActive (worker : Worker) : Bool :=
  worker.isListed && worker.grasp != .lock

variable {worker : Worker} {plan : Plan} {leg : Leg}

/-- A leg goes through the graph of its plan. -/
structure Runs (worker : Worker) (plan : Plan) (leg : Leg) : Prop where
  run_eq : plan.run = worker.task.run
  graph_eq : plan.graph = worker.graph
  wellFormed : plan.graph.WellFormed Schema.refusal?
  begun : worker.beginning.Fits plan.graph
  sound : Leg.Sound plan leg
  reports : Reports plan.graph worker.beginning worker.told leg
  fits : worker.grasp.Fits leg

/-- What a leg has come to belongs together. -/
def Sound (worker : Worker) : Prop :=
  match worker.task.stage with
  | .submitted graph _ =>
    graph.WellFormed Schema.refusal? ∧ worker.graph = graph ∧
      worker.beginning = .start ∧ worker.told = [] ∧ worker.grasp = .nothing
  | .claimed suspended signal =>
    suspended.Fit ∧ suspended.run = worker.task.run ∧
      signal.run = suspended.run ∧ worker.graph = suspended.graph ∧
      worker.beginning = .resume suspended signal ∧
      worker.told = [] ∧ worker.grasp = .nothing
  | .running plan leg => worker.Runs plan leg
  | .settled result => worker.grasp = .nothing ∧ ∃ outcome,
      worker.graph.WellFormed Schema.refusal? ∧
        worker.beginning.Fits worker.graph ∧ result = .ok outcome ∧
        Shape worker.graph worker.beginning worker.told outcome

theorem Sound.runs (hsound : worker.Sound)
    (hstage : worker.task.stage = .running plan leg) :
    worker.Runs plan leg := by
  simpa [Sound, hstage] using hsound

theorem Sound.parking (hsound : worker.Sound) (hgrasp : worker.grasp = .lock) :
    ∃ plan suspended,
      worker.task.stage = .running plan (.parking suspended) := by
  cases hstage : worker.task.stage with
  | submitted _ _ => simp [Sound, hstage, hgrasp] at hsound
  | claimed _ _ => simp [Sound, hstage, hgrasp] at hsound
  | running plan leg =>
      have hfits := (hsound.runs hstage).fits
      rw [hgrasp] at hfits
      obtain ⟨suspended, rfl⟩ := hfits
      exact ⟨plan, suspended, rfl⟩
  | settled _ => simp [Sound, hstage, hgrasp] at hsound

theorem sound_of_runs (hstage : worker.task.stage = .running plan leg)
    (hruns : worker.Runs plan leg) : worker.Sound := by
  simpa [Sound, hstage] using hruns

theorem Runs.awaits {suspended : SuspendedRun}
    (hruns : worker.Runs plan (.parking suspended)) :
    Leg.Awaits plan suspended := by
  cases hruns.sound with
  | parking hawaits => exact hawaits

theorem Runs.step (hruns : worker.Runs plan leg) (move : leg.Move) :
    Leg.Goes plan leg move (leg.step plan move).1 (leg.step plan move).2 :=
  Leg.goes_step hruns.wellFormed hruns.sound move

theorem Runs.goesOn (hruns : worker.Runs plan leg) (move : leg.Move)
    {grasp : Grasp} (hfits : grasp.Fits (leg.step plan move).1) :
    (worker.goesOn plan leg move grasp).Runs plan (leg.step plan move).1 where
  run_eq := hruns.run_eq
  graph_eq := hruns.graph_eq
  wellFormed := hruns.wellFormed
  begun := hruns.begun
  sound := (hruns.step move).sound hruns.wellFormed hruns.sound
  reports := (hruns.step move).reports hruns.sound hruns.reports
  fits := hfits

/-- A leg that stays where it is. -/
theorem Runs.stays (hruns : worker.Runs plan leg) {grasp : Grasp}
    (hfits : grasp.Fits leg) :
    (worker.after (.running plan leg) grasp []).Runs plan leg where
  run_eq := hruns.run_eq
  graph_eq := hruns.graph_eq
  wellFormed := hruns.wellFormed
  begun := hruns.begun
  sound := hruns.sound
  reports := by simpa using hruns.reports
  fits := hfits

/-! ## The first step -/

variable {limits : EngineConfig}
variable {started : Except Error (Leg × List Event)}

/-- How a leg begins, as far as its manager is concerned. -/
inductive Opens (worker : Worker) : Leg → List Event → Prop
  | starts {graph : Graph} {inputs : Assoc Json} {plan : Plan} {leg : Leg}
      {events : List Event}
      (hstage : worker.task.stage = .submitted graph inputs)
      (hgraph : plan.graph = graph) (hstarts : Leg.Starts plan leg events) :
      Opens worker leg events
  | resumes {suspended : SuspendedRun} {signal : ResumeSignal} {leg : Leg}
      {events : List Event}
      (hstage : worker.task.stage = .claimed suspended signal)
      (hresumes : Leg.Resumes suspended signal leg events) :
      Opens worker leg events

/-- Nothing that has been registered is refused. -/
theorem Sound.opens (hsound : worker.Sound)
    (hopening : worker.task.opening? limits = some (plan, started)) :
    ∃ leg events, started = .ok (leg, events) ∧ worker.Opens leg events ∧
      (worker.after (.running plan leg) .nothing events).Runs plan leg := by
  cases hstage : worker.task.stage with
  | submitted graph inputs =>
      obtain ⟨hgraph, hof, hbeginning, htold, -⟩ :
          graph.WellFormed Schema.refusal? ∧ worker.graph = graph ∧
            worker.beginning = .start ∧ worker.told = [] ∧
            worker.grasp = .nothing := by
        simpa [Sound, hstage] using hsound
      simp only [Task.opening?, hstage, Option.some.injEq,
        Prod.mk.injEq] at hopening
      obtain ⟨rfl, rfl⟩ := hopening
      obtain ⟨start, hstart, -, -⟩ := hgraph.exists_start
      have hstarted : Leg.start ⟨limits, worker.task.run, graph⟩ inputs = _ :=
        Leg.start_eq hgraph hstart
      have hstarts := (Leg.starts_of_start hstarted).2
      refine ⟨_, _, hstarted, .starts hstage rfl hstarts, rfl, hof.symm, hgraph,
        ?_, hstarts.sound, ?_, trivial⟩
      · rw [after_beginning, hbeginning]
        trivial
      · rw [after_beginning, hbeginning, after_told, htold]
        exact hstarts.reports
  | claimed suspended signal =>
      obtain ⟨hfit, hrun, hsignal, hof, hbeginning, htold, -⟩ :
          suspended.Fit ∧ suspended.run = worker.task.run ∧
            signal.run = suspended.run ∧ worker.graph = suspended.graph ∧
            worker.beginning = .resume suspended signal ∧
            worker.told = [] ∧ worker.grasp = .nothing := by
        simpa [Sound, hstage] using hsound
      simp only [Task.opening?, hstage, Option.some.injEq,
        Prod.mk.injEq] at hopening
      obtain ⟨rfl, rfl⟩ := hopening
      obtain ⟨leg, events, hresumed⟩ :
          ∃ leg events,
            Leg.resume limits suspended signal = .ok (leg, events) :=
        Leg.exists_resume_eq_ok hsignal
      have hresumes := (Leg.resumes_of_exit hfit.exits hresumed).2
      refine ⟨leg, events, hresumed, .resumes hstage hresumes, hrun, hof.symm,
        hfit.wellFormed, ?_, hresumes.sound hfit.wellFormed, ?_, trivial⟩
      · rw [after_beginning, hbeginning]
        exact hfit.exits
      · rw [after_beginning, hbeginning, after_told, htold]
        exact hresumes.reports
  | running plan leg => simp [Task.opening?, hstage] at hopening
  | settled result => simp [Task.opening?, hstage] at hopening

theorem Sound.opens_of_ok {events : List Event} (hsound : worker.Sound)
    (hopening : worker.task.opening? limits =
      some (plan, .ok (leg, events))) :
    worker.Opens leg events ∧
      (worker.after (.running plan leg) .nothing events).Runs plan leg := by
  obtain ⟨_, _, hstarted, hopens⟩ := hsound.opens hopening
  obtain ⟨rfl, rfl⟩ := Prod.mk.inj (Except.ok.inj hstarted)
  exact hopens

theorem Sound.opening_ne_error {error : Error} (hsound : worker.Sound) :
    worker.task.opening? limits ≠ some (plan, .error error) := by
  intro hopening
  obtain ⟨_, _, hstarted, -⟩ := hsound.opens hopening
  cases hstarted

end Worker

/-! ## Every step -/

variable {σ : Type} [SuspensionStore σ]
variable {free : Prop} {manager later : Manager σ} {worker next : Worker}
variable {entries : List Entry}

/-- The manager after it has kept a run. -/
theorem Manager.keep_eq_none {suspended : SuspendedRun}
    (hkeep : manager.keep suspended = (none, later)) :
    (Assoc.get? manager.live suspended.run).any manager.isCancelled = false ∧
      ∃ store, SuspensionStore.save manager.store suspended = .ok store ∧
        later = { manager with store } := by
  unfold Manager.keep at hkeep
  split at hkeep
  next => simp at hkeep
  next hcancelled =>
    refine ⟨by simpa using hcancelled, ?_⟩
    split at hkeep
    next => simp at hkeep
    next store hsave =>
      exact ⟨store, hsave, ((Prod.mk.inj hkeep).2).symm⟩

theorem Manager.keep_of_cancelled {suspended : SuspendedRun} {token : Token}
    (hlive : Assoc.get? manager.live suspended.run = some token)
    (hcancelled : manager.isCancelled token = true) :
    (manager.keep suspended).1 = some .cancelled := by
  simp [Manager.keep, hlive, hcancelled]

theorem Manager.keep_of_error {suspended : SuspendedRun} {error : Error}
    (hkeep : (manager.keep suspended).1 = some error) :
    (manager.keep suspended).2 = manager := by
  unfold Manager.keep at hkeep ⊢
  split
  next => rfl
  next hcancelled =>
    simp only [hcancelled] at hkeep
    split
    next => rfl
    next hsave => simp [hsave] at hkeep

variable [LawfulStore σ]

/-- A leg stays the leg of its run, and keeps its token. -/
theorem Turn.same (hturn : Turn free manager worker later next entries) :
    next.task.run = worker.task.run ∧ next.task.token = worker.task.token ∧
      next.graph = worker.graph ∧ next.beginning = worker.beginning ∧
      next.turns = worker.turns + 1 := by
  cases hturn <;> exact ⟨rfl, rfl, rfl, rfl, rfl⟩

theorem Turn.sound (hsound : worker.Sound)
    (hturn : Turn free manager worker later next entries) : next.Sound := by
  cases hturn with
  | launch hopening =>
      exact Worker.sound_of_runs rfl (hsound.opens_of_ok hopening).2
  | refused _ hopening => exact absurd hopening hsound.opening_ne_error
  | look hstage _ hwatches _ =>
      exact Worker.sound_of_runs rfl ((hsound.runs hstage).stays hwatches)
  | yield hstage _ _ _ =>
      exact Worker.sound_of_runs rfl ((hsound.runs hstage).goesOn _ trivial)
  | @proceed plan leg move hstage _ _ =>
      refine Worker.sound_of_runs rfl ((hsound.runs hstage).goesOn move ?_)
      -- What it takes along fits a leg that waits for work.
      split
      next hworking =>
        cases hnext : (leg.step plan move).1 <;>
          simp_all [Leg.isWorking, Grasp.Fits, Leg.watches]
      next => trivial
  | wait hstage _ _ =>
      exact Worker.sound_of_runs rfl ((hsound.runs hstage).stays trivial)
  | keep _ hstage _ _ =>
      exact Worker.sound_of_runs rfl ((hsound.runs hstage).stays ⟨_, rfl⟩)
  | refuse _ hstage _ =>
      exact Worker.sound_of_runs rfl ((hsound.runs hstage).goesOn _ trivial)
  | release _ hstage =>
      exact Worker.sound_of_runs rfl ((hsound.runs hstage).goesOn _ trivial)
  | report hstage =>
      exact Worker.sound_of_runs rfl ((hsound.runs hstage).goesOn _ trivial)
  | settle _ hstage =>
      have hruns := hsound.runs hstage
      refine ⟨rfl, _, ?_, ?_, rfl, ?_⟩
      · exact hruns.graph_eq ▸ hruns.wellFormed
      · exact hruns.graph_eq ▸ hruns.begun
      · simpa [Reports, hruns.graph_eq] using hruns.reports

/-- What a step of a leg is to its manager. -/
inductive Effect (manager : Manager σ) (worker next : Worker) :
    Manager σ → List Entry → Prop
  | quiet (hlisted : next.isListed = worker.isListed)
      (hactive : next.isActive = worker.isActive) :
      Effect manager worker next manager []
  | strikes (hlisted : worker.isListed = true)
      (hstruck : next.isListed = false) :
      Effect manager worker next (manager.release worker.task.run) []
  | saves {suspended : SuspendedRun} {store : σ}
      (hrun : suspended.run = worker.task.run) (hfit : suspended.Fit)
      (hsave : SuspensionStore.save manager.store suspended = .ok store)
      (hfaithful : LawfulStore.Faithful manager.store suspended)
      (hactive : worker.isActive = true) (hlisted : next.isListed = true)
      (hkept : next.isActive = false) :
      Effect manager worker next { manager with store }
        [.saved worker.task.run]

/-- A leg that looks at its token has its run in hand after the next step. -/
theorem Leg.Goes.isListed {plan : Plan} {leg next : Leg} {move : leg.Move}
    {events : List Event} (hwatches : leg.watches = true)
    (hgoes : Leg.Goes plan leg move next events) :
    (Stage.running plan next).isListed = true := by
  cases hgoes with
  | keeps => simp [Leg.watches] at hwatches
  | suspends => simp [Leg.watches] at hwatches
  | _ => rfl

theorem Leg.Yields.watches {leg : Leg} {move : leg.Move}
    (hmove : leg.Yields move) : leg.watches = true := by
  cases hmove <;> rfl

theorem Leg.Proceeds.watches {leg : Leg} {move : leg.Move}
    (hmove : leg.Proceeds move) : leg.watches = true := by
  cases hmove <;> rfl

theorem Leg.watches_of_isWorking {leg : Leg} (hworking : leg.isWorking = true) :
    leg.watches = true := by
  cases leg <;> simp_all [Leg.isWorking, Leg.watches]

namespace Worker

theorem Opens.isListed {leg : Leg} {events : List Event}
    (hopens : worker.Opens leg events) : worker.isListed = true := by
  cases hopens with
  | starts hstage _ _ => simp [Worker.isListed, hstage, Stage.isListed]
  | resumes hstage _ => simp [Worker.isListed, hstage, Stage.isListed]

theorem Opens.leg_isListed {leg : Leg} {events : List Event} {plan : Plan}
    (hopens : worker.Opens leg events) :
    (Stage.running plan leg).isListed = true := by
  cases hopens with
  | starts _ _ hstarts => cases hstarts <;> rfl
  | resumes _ hresumes => cases hresumes <;> rfl

theorem isActive_of_listed (hlisted : worker.isListed = true)
    (hgrasp : worker.grasp ≠ .lock) : worker.isActive = true := by
  simp [isActive, hlisted, hgrasp]

theorem Opens.grasp_eq {leg : Leg} {events : List Event}
    (hopens : worker.Opens leg events) (hsound : worker.Sound) :
    worker.grasp = .nothing := by
  cases hopens with
  | starts hstage _ _ =>
      simp only [Sound, hstage] at hsound
      exact hsound.2.2.2.2
  | resumes hstage _ =>
      simp only [Sound, hstage] at hsound
      exact hsound.2.2.2.2.2.2

/-- A leg at a stage that it looks at its token from is in the table. -/
theorem isListed_of_watches {plan : Plan} {leg : Leg}
    (hstage : worker.task.stage = .running plan leg)
    (hwatches : leg.watches = true) : worker.isListed = true := by
  cases leg <;> simp_all [Leg.watches, isListed, Stage.isListed]

end Worker

/-- The run stays in the hands of the leg. -/
theorem Effect.stays (hlisted : worker.isListed = true)
    (hgrasp : worker.grasp ≠ .lock) (hnext : next.isListed = true)
    (hheld : next.grasp ≠ .lock) : Effect manager worker next manager [] := by
  refine .quiet (by rw [hlisted, hnext]) ?_
  rw [worker.isActive_of_listed hlisted hgrasp,
    next.isActive_of_listed hnext hheld]

/-- The run left the hands of the leg before. -/
theorem Effect.rests (hlisted : worker.isListed = false)
    (hnext : next.isListed = false) :
    Effect manager worker next manager [] := by
  refine .quiet (by rw [hlisted, hnext]) ?_
  simp [Worker.isActive, hlisted, hnext]

theorem Turn.effect (hfree : free → worker.grasp ≠ .lock)
    (hsound : worker.Sound)
    (hturn : Turn free manager worker later next entries) :
    Effect manager worker next later entries := by
  cases hturn with
  | launch hopening =>
      obtain ⟨hopens, -⟩ := hsound.opens_of_ok hopening
      exact .stays hopens.isListed (by simp [hopens.grasp_eq hsound])
        hopens.leg_isListed (by simp)
  | refused _ hopening => exact absurd hopening hsound.opening_ne_error
  | look hstage hgrasp hwatches _ =>
      have hlisted := Worker.isListed_of_watches hstage hwatches
      exact .stays hlisted (by simp [hgrasp])
        (Worker.isListed_of_watches rfl hwatches) (by simp)
  | yield hstage hgrasp hmove _ =>
      have hgoes := (hsound.runs hstage).step
      exact .stays (Worker.isListed_of_watches hstage hmove.watches)
        (by simp [hgrasp]) ((hgoes _).isListed hmove.watches) (by simp)
  | proceed hstage hgrasp hmove =>
      have hgoes := (hsound.runs hstage).step
      refine .stays (Worker.isListed_of_watches hstage hmove.watches)
        (by simp [hgrasp]) ((hgoes _).isListed hmove.watches) ?_
      simp only [Worker.goesOn_grasp]
      split <;> simp
  | wait hstage hgrasp hworking =>
      have hwatches := Leg.watches_of_isWorking hworking
      exact .stays (Worker.isListed_of_watches hstage hwatches)
        (by simp [hgrasp]) (Worker.isListed_of_watches rfl hwatches) (by simp)
  | @keep plan suspended later hnone hstage hkeep hfaithful =>
      have hruns := hsound.runs hstage
      obtain ⟨-, store, hsave, rfl⟩ := manager.keep_eq_none hkeep
      have hawaits := hruns.awaits
      have hrun : suspended.run = worker.task.run :=
        hawaits.run_eq.trans hruns.run_eq
      rw [hrun]
      refine .saves hrun (hawaits.fit hruns.wellFormed) hsave hfaithful ?_ rfl
        ?_
      · simp [Worker.isActive, Worker.isListed, hstage, Stage.isListed,
          hfree hnone]
      · simp [Worker.isActive]
  | refuse hnone hstage hkeep =>
      rw [manager.keep_of_error hkeep]
      refine .stays ?_ (hfree hnone) rfl (show Grasp.nothing ≠ .lock by simp)
      simp [Worker.isListed, hstage, Stage.isListed]
  | release hgrasp hstage =>
      have hruns := hsound.runs hstage
      rw [hruns.awaits.run_eq.trans hruns.run_eq]
      refine .strikes ?_ rfl
      simp [Worker.isListed, hstage, Stage.isListed]
  | report hstage =>
      refine .rests ?_ rfl
      simp [Worker.isListed, hstage, Stage.isListed]
  | @settle plan outcome _ hstage =>
      cases outcome with
      | suspended suspended =>
          refine .rests ?_ rfl
          simp [Worker.isListed, hstage, Stage.isListed]
      | completed output =>
          refine .strikes ?_ rfl
          simp [Worker.isListed, hstage, Stage.isListed]
      | failed node error =>
          refine .strikes ?_ rfl
          simp [Worker.isListed, hstage, Stage.isListed]

end Workflow
