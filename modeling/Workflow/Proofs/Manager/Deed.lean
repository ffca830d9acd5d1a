import Workflow.Proofs.Manager.Found
import Workflow.Proofs.Manager.Timeout

/-!
# What happens around a manager

A `Deed` is one thing that happens around a manager, as it is told from
outside: what a client asks for, that a leg makes a step and what it learns
then, or that a sweep goes on.  A `Scene` is an office whose store keeps the
runs themselves, with its sweeps and all that clients have been answered.

The deeds are the steps of a patrol with their names (`Scene.Does.step`,
`Scene.exists_does`).  A leg is named by its run and its place among the legs
of the run, for the number of its token depends on all the others.
-/

namespace Workflow

/-! ## What a leg is told -/

/-- What a leg is told from outside when it makes a step. -/
inductive Leg.Cue where
  | nothing
  | time (now : Instant)
  /-- Its work has a result. -/
  | answer (work : Work) (result : Except Error work.Result)

namespace Leg

/-- The move of a leg that may go on and is told something. -/
def heeds? : (leg : Leg) → Cue → Option leg.Move
  | .between .., .nothing => some false
  | .entered .., .time now => some (some now)
  | .working _ _ work, .answer asked result =>
    if hasked : asked = work then some (some (hasked ▸ result)) else none
  | _, _ => none

/-- The move of a leg that has found its token cancelled. -/
def yields? : (leg : Leg) → Option leg.Move
  | .between .. => some true
  | .entered .. => some none
  | .working .. => some none
  | _ => none

theorem Proceeds.exists_cue {leg : Leg} {move : leg.Move}
    (hmove : leg.Proceeds move) : ∃ cue, leg.heeds? cue = some move := by
  cases hmove with
  | between => exact ⟨.nothing, rfl⟩
  | entered now => exact ⟨.time now, rfl⟩
  | @working context node work result =>
      exact ⟨.answer work result, by simp [heeds?]⟩

theorem Yields.yields? {leg : Leg} {move : leg.Move} (hmove : leg.Yields move) :
    leg.yields? = some move := by
  cases hmove <;> rfl

theorem isSome_yields? (leg : Leg) : leg.yields?.isSome = leg.watches := by
  cases leg <;> rfl

end Leg

namespace Worker

/-- A leg under another token. -/
def renumber (token : Token) (worker : Worker) : Worker :=
  { worker with task := { worker.task with token } }

/-- The step of a leg that has found out nothing about its token before. -/
def onward (worker : Worker) (plan : Plan) (cancelled : Bool) (leg : Leg) :
    Worker :=
  match leg.yields? with
  | some move =>
    if cancelled then worker.goesOn plan leg move .nothing
    else worker.after (.running plan leg) .clear []
  | none =>
    match leg with
    | .parking suspended =>
      if worker.grasp = .lock then
        worker.goesOn plan (.parking suspended) none .nothing
      else if cancelled then
        worker.goesOn plan (.parking suspended) (some .cancelled) .nothing
      else worker.after (.running plan (.parking suspended)) .lock []
    | .parked suspended => worker.goesOn plan (.parked suspended) () .nothing
    | .ended outcome => worker.after (.settled (.ok outcome)) .nothing []
    | _ => worker

/-- What becomes of a leg by its next step. -/
def next (limits : EngineConfig) (cancelled : Bool) (cue : Leg.Cue)
    (worker : Worker) : Worker :=
  match worker.task.stage with
  | .running plan leg =>
    if worker.grasp = .clear then
      match leg.heeds? cue with
      | some move =>
        worker.goesOn plan leg move
          (if (leg.step plan move).1.isWorking then .clear else .nothing)
      | none => worker.after (.running plan leg) .nothing []
    else worker.onward plan cancelled leg
  | _ =>
    match worker.task.opening? limits with
    | some (plan, .ok (leg, events)) =>
      worker.after (.running plan leg) .nothing events
    | some (_, .error error) =>
      worker.after (.settled (.error error)) .nothing []
    | none => worker

/-- The run that a leg has just put into the store. -/
def puts? (worker : Worker) : Option SuspendedRun :=
  match worker.grasp, worker.task.stage with
  | .lock, .running _ (.parking suspended) => some suspended
  | _, _ => none

@[simp] theorem puts?_renumber (token : Token) (worker : Worker) :
    (worker.renumber token).puts? = worker.puts? := rfl

variable {worker : Worker} {limits : EngineConfig} {cancelled : Bool}
variable {cue : Leg.Cue} {plan : Plan} {leg : Leg}

theorem next_of_running (hstage : worker.task.stage = .running plan leg)
    (hgrasp : worker.grasp ≠ .clear) :
    worker.next limits cancelled cue = worker.onward plan cancelled leg := by
  simp [next, hstage, hgrasp]

theorem next_of_clear (hstage : worker.task.stage = .running plan leg)
    (hgrasp : worker.grasp = .clear) :
    worker.next limits cancelled cue =
      match leg.heeds? cue with
      | some move =>
        worker.goesOn plan leg move
          (if (leg.step plan move).1.isWorking then .clear else .nothing)
      | none => worker.after (.running plan leg) .nothing [] := by
  simp [next, hstage, hgrasp]

theorem next_of_opening {started : Except Error (Leg × List Event)}
    (hopening : worker.task.opening? limits = some (plan, started)) :
    worker.next limits cancelled cue =
      match started with
      | .ok (leg, events) => worker.after (.running plan leg) .nothing events
      | .error error => worker.after (.settled (.error error)) .nothing [] := by
  cases hstage : worker.task.stage with
  | running plan leg => simp [Task.opening?, hstage] at hopening
  | settled result => simp [Task.opening?, hstage] at hopening
  | submitted graph inputs =>
      rcases started with error | ⟨leg, events⟩ <;>
        simp [next, hstage, hopening]
  | claimed suspended signal =>
      rcases started with error | ⟨leg, events⟩ <;>
        simp [next, hstage, hopening]

/-- A leg under another token makes the same steps. -/
theorem renumber_onward (token : Token) :
    (worker.onward plan cancelled leg).renumber token =
      (worker.renumber token).onward plan cancelled leg := by
  cases leg with
  | parking suspended =>
      simp only [onward, Leg.yields?]
      by_cases hgrasp : worker.grasp = .lock
      · simp [hgrasp, renumber, goesOn, after]
      · cases cancelled <;> simp [hgrasp, renumber, goesOn, after]
  | parked suspended => rfl
  | ended outcome => rfl
  | _ => cases cancelled <;> rfl

theorem renumber_next (token : Token) :
    (worker.next limits cancelled cue).renumber token =
      (worker.renumber token).next limits cancelled cue := by
  cases hstage : worker.task.stage with
  | running plan leg =>
      have hstage' : (worker.renumber token).task.stage = .running plan leg :=
        hstage
      by_cases hgrasp : worker.grasp = .clear
      · rw [next_of_clear hstage hgrasp, next_of_clear hstage' hgrasp]
        cases leg.heeds? cue <;> rfl
      · rw [next_of_running hstage hgrasp, next_of_running hstage' hgrasp]
        exact renumber_onward token
  | _ =>
      have hstage' : (worker.renumber token).task.stage = worker.task.stage :=
        rfl
      have hopening : (worker.renumber token).task.opening? limits =
          worker.task.opening? limits := rfl
      simp only [next, hstage', hstage, hopening]
      rcases worker.task.opening? limits with - | ⟨plan, - | ⟨leg, events⟩⟩ <;>
        rfl

theorem Sound.grasp_ne_clear (hsound : worker.Sound)
    (hstage : worker.task.stage = .running plan leg)
    (hwatches : leg.watches = false) : worker.grasp ≠ .clear := by
  intro hgrasp
  have hfits := (hsound.runs hstage).fits
  rw [hgrasp] at hfits
  simp [Grasp.Fits, hwatches] at hfits

end Worker

/-! ## Steps of a leg -/

section turn

variable {free : Prop} {manager later : Manager MemoryStore}
variable {worker next : Worker} {entries : List Entry}

/-- The table of live runs leads from the run of a leg to the leg. -/
def Manager.Knows (manager : Manager MemoryStore) (worker : Worker) : Prop :=
  ∀ {plan suspended}, worker.task.stage = .running plan (.parking suspended) →
    Assoc.get? manager.live suspended.run = some worker.task.token

/-- A store of the runs themselves refuses nothing. -/
theorem Manager.keep_eq {suspended : SuspendedRun} {token : Token}
    (hlive : Assoc.get? manager.live suspended.run = some token) :
    manager.keep suspended =
      if manager.isCancelled token then (some .cancelled, manager)
      else (none, { manager with store := manager.store.save suspended }) := by
  unfold Manager.keep
  rw [hlive, Option.any_some]
  split
  · rfl
  · rfl

/-- What a leg becomes by a step is determined by what it is told. -/
theorem Turn.exists_cue (hsound : worker.Sound)
    (hfree : free → worker.grasp ≠ .lock) (hknows : manager.Knows worker)
    (hturn : Turn free manager worker later next entries) :
    ∃ cue, worker.next manager.limits
      (manager.isCancelled worker.task.token) cue = next := by
  cases hturn with
  | launch hopening => exact ⟨.nothing, Worker.next_of_opening hopening⟩
  | refused _ hopening => exact ⟨.nothing, Worker.next_of_opening hopening⟩
  | @look plan leg hstage hgrasp hwatches htoken =>
      refine ⟨.nothing, ?_⟩
      rw [Worker.next_of_running hstage (by simp [hgrasp]), htoken]
      rw [← leg.isSome_yields?] at hwatches
      obtain ⟨move, hmove⟩ := Option.isSome_iff_exists.mp hwatches
      simp [Worker.onward, hmove]
  | yield hstage hgrasp hmove htoken =>
      refine ⟨.nothing, ?_⟩
      rw [Worker.next_of_running hstage (by simp [hgrasp]), htoken]
      simp [Worker.onward, hmove.yields?]
  | proceed hstage hgrasp hmove =>
      obtain ⟨cue, hcue⟩ := hmove.exists_cue
      refine ⟨cue, ?_⟩
      rw [Worker.next_of_clear hstage hgrasp, hcue]
  | @wait plan leg hstage hgrasp hworking =>
      refine ⟨.nothing, ?_⟩
      rw [Worker.next_of_clear hstage hgrasp]
      cases leg <;> first | rfl | simp [Leg.isWorking] at hworking
  | @keep plan suspended _ hnone hstage hkeep _ =>
      refine ⟨.nothing, ?_⟩
      rw [Manager.keep_eq (hknows hstage)] at hkeep
      split at hkeep
      next => simp at hkeep
      next hcancelled =>
        rw [Worker.next_of_running hstage (hsound.grasp_ne_clear hstage rfl)]
        simp [Worker.onward, Leg.yields?, hfree hnone, hcancelled]
  | @refuse plan suspended error hnone hstage hkeep =>
      refine ⟨.nothing, ?_⟩
      rw [Manager.keep_eq (hknows hstage)] at hkeep
      split at hkeep
      next hcancelled =>
        obtain rfl : Error.cancelled = error := Option.some.inj hkeep
        rw [Worker.next_of_running hstage (hsound.grasp_ne_clear hstage rfl)]
        simp [Worker.onward, Leg.yields?, hfree hnone, hcancelled]
      next => simp at hkeep
  | release hgrasp hstage =>
      refine ⟨.nothing, ?_⟩
      rw [Worker.next_of_running hstage (by simp [hgrasp])]
      simp [Worker.onward, Leg.yields?, hgrasp]
  | report hstage =>
      exact ⟨.nothing,
        Worker.next_of_running hstage (hsound.grasp_ne_clear hstage rfl)⟩
  | settle _ hstage =>
      exact ⟨.nothing,
        Worker.next_of_running hstage (hsound.grasp_ne_clear hstage rfl)⟩

/-- What the store holds after a step of a leg. -/
theorem Turn.store_eq (hturn : Turn free manager worker later next entries) :
    later.store =
      next.puts?.elim manager.store manager.store.save := by
  cases hturn with
  | keep hnone hstage hkeep hfaithful =>
      obtain ⟨-, store, hsave, rfl⟩ := manager.keep_eq_none hkeep
      exact (Except.ok.inj hsave).symm
  | refuse _ _ hkeep =>
      rw [manager.keep_of_error hkeep]
      rfl
  | @proceed plan leg move _ _ _ =>
      cases (leg.step plan move).1.isWorking <;> simp [Worker.puts?]
  | @settle plan outcome _ _ => cases outcome <;> rfl
  | _ => rfl

theorem Turn.limits_eq (hturn : Turn free manager worker later next entries) :
    later.limits = manager.limits := by
  cases hturn with
  | keep _ _ hkeep _ =>
      obtain ⟨-, store, -, rfl⟩ := manager.keep_eq_none hkeep
      rfl
  | refuse _ _ hkeep => rw [manager.keep_of_error hkeep]
  | @settle plan outcome _ _ => cases outcome <;> rfl
  | _ => rfl

/-- A leg can make the same step under another token with another manager, if
the manager says the same of it. -/
theorem Turn.renumber {free' : Prop} {manager' : Manager MemoryStore}
    {token : Token} (hknows : manager.Knows worker)
    (hturn : Turn free manager worker later next entries)
    (hfree : free → free') (hlimits : manager'.limits = manager.limits)
    (hknows' : manager'.Knows (worker.renumber token))
    (hcancelled : manager'.isCancelled token =
      manager.isCancelled worker.task.token) :
    ∃ later' entries', Turn free' manager' (worker.renumber token) later'
      (next.renumber token) entries' := by
  cases hturn with
  | launch hopening =>
      exact ⟨_, _, .launch (hlimits ▸ hopening)⟩
  | refused hnone hopening =>
      exact ⟨_, _, .refused (hfree hnone) (hlimits ▸ hopening)⟩
  | look hstage hgrasp hwatches htoken =>
      exact ⟨_, _, .look hstage hgrasp hwatches (hcancelled.trans htoken)⟩
  | yield hstage hgrasp hmove htoken =>
      exact ⟨_, _, .yield hstage hgrasp hmove (hcancelled.trans htoken)⟩
  | proceed hstage hgrasp hmove =>
      exact ⟨_, _, .proceed hstage hgrasp hmove⟩
  | wait hstage hgrasp hworking =>
      exact ⟨_, _, .wait hstage hgrasp hworking⟩
  | keep hnone hstage hkeep _ =>
      have hkeep' := Manager.keep_eq (hknows' hstage)
      rw [Manager.keep_eq (hknows hstage)] at hkeep
      split at hkeep
      next => simp at hkeep
      next htoken =>
        rw [if_neg (by rwa [hcancelled.symm] at htoken)] at hkeep'
        exact ⟨_, _, .keep (hfree hnone) hstage hkeep'
          (@MemoryStore.faithful manager'.store _)⟩
  | @refuse plan suspended error hnone hstage hkeep =>
      have hkeep' := Manager.keep_eq (hknows' hstage)
      rw [Manager.keep_eq (hknows hstage)] at hkeep
      split at hkeep
      next htoken =>
        rw [if_pos (by rwa [hcancelled.symm] at htoken)] at hkeep'
        have hrefused : (manager'.keep suspended).1 = some error := by
          rw [hkeep']
          exact hkeep
        exact ⟨_, _, .refuse (hfree hnone) hstage hrefused⟩
      next => simp at hkeep
  | release hgrasp hstage => exact ⟨_, _, .release hgrasp hstage⟩
  | report hstage => exact ⟨_, _, .report hstage⟩
  | settle hnone hstage =>
      exact ⟨_, _, .settle (hnone.imp_left hfree) hstage⟩

end turn

/-! ## Deeds -/

/-- One thing that happens around a manager. -/
inductive Deed where
  | submit (run : RunId) (graph : Graph) (inputs : Assoc Json)
  /-- Somebody asks the store for a run, to resume it. -/
  | claim (signal : ResumeSignal)
  /-- What has been taken out of the store is registered. -/
  | adopt (run : RunId)
  | cancel (run : RunId)
  /-- Of the legs of a run, the one in a place makes a step. -/
  | turn (run : RunId) (place : Nat) (cue : Leg.Cue)
  /-- A sweep lists what is overdue. -/
  | list (now : Instant)
  /-- The sweep in a place comes to a run. -/
  | sweep (place : Nat) (run : RunId)

/-- The run that a deed is about.  A listing is about all of them. -/
def Deed.run? : Deed → Option RunId
  | submit run _ _ | adopt run | cancel run | turn run _ _ | sweep _ run => some run
  | claim signal => some signal.run
  | list _ => none

/-- What a client has been answered. -/
inductive Answer where
  | resumed (run : RunId) (answer : Except Error SuspendedRun)
  | cancelled (run : RunId) (answer : Except Error Cancellation)

def Answer.run : Answer → RunId
  | resumed run _ | cancelled run _ => run

/-- An office whose store keeps the runs themselves, with all that goes on
around it. -/
structure Scene where
  office : Office MemoryStore
  sweeps : List (Sweep MemoryStore)
  /-- The answers so far, the latest first. -/
  heard : List Answer

/-- The store is asked for a run. -/
def Office.ask (office : Office MemoryStore) (signal : ResumeSignal) :
    Office MemoryStore :=
  match office.manager.store.find? signal.run with
  | some suspended => { office with
      manager := (office.manager.claim signal.run).2
      claims := (suspended, signal) :: office.claims
      ledger := .taken signal.run :: office.ledger }
  | none => { office with manager := (office.manager.claim signal.run).2 }

/-- How many legs of a run there are before a token. -/
def Office.placeOf (office : Office MemoryStore) (token : Token) (run : RunId) :
    Nat :=
  (office.workers.take token).countP (·.task.run = run)

namespace Scene

def patrol (scene : Scene) : Patrol MemoryStore :=
  ⟨scene.office, scene.sweeps⟩

/-- The store is asked for a run, and says what it has. -/
def ask (scene : Scene) (signal : ResumeSignal) : Scene where
  office := scene.office.ask signal
  sweeps := scene.sweeps
  heard := .resumed signal.run (scene.office.manager.claim signal.run).1 ::
    scene.heard

/-- What can happen next in a scene, by its name. -/
inductive Does (scene : Scene) : Deed → Scene → Prop
  | submit {run : RunId} {graph : Graph} {inputs : Assoc Json} {task : Task}
      {manager : Manager MemoryStore} (hfree : scene.office.Free)
      (hfresh : run ∉ scene.office.used)
      (hsubmit : scene.office.manager.submit run graph inputs =
        .ok (task, manager)) :
      Does scene (.submit run graph inputs) { scene with office :=
        { scene.office with
          manager
          workers := scene.office.workers ++ [.begin task graph .start]
          used := run :: scene.office.used } }
  | claim (signal : ResumeSignal) : Does scene (.claim signal) (scene.ask signal)
  | adopt {suspended : SuspendedRun} {signal : ResumeSignal}
      (hfree : scene.office.Free)
      (hclaim : (suspended, signal) ∈ scene.office.claims) :
      Does scene (.adopt suspended.run) { scene with office :=
        { scene.office with
          manager := (scene.office.manager.adopt suspended signal).2
          claims := scene.office.claims.erase (suspended, signal)
          workers := scene.office.workers ++
            [.begin (scene.office.manager.adopt suspended signal).1
              suspended.graph (.resume suspended signal)] } }
  | cancel (run : RunId) (hfree : scene.office.Free) :
      Does scene (.cancel run) { scene with
        office := scene.office.cancel run
        heard := .cancelled run (scene.office.manager.cancel run).1 ::
          scene.heard }
  | turn {token : Token} {worker : Worker} {manager : Manager MemoryStore}
      {entries : List Entry} (cue : Leg.Cue)
      (hworker : scene.office.workers[token]? = some worker)
      (hturn : Turn scene.office.Free scene.office.manager worker manager
        (worker.next scene.office.manager.limits
          (scene.office.manager.isCancelled token) cue) entries) :
      Does scene
        (.turn worker.task.run (scene.office.placeOf token worker.task.run) cue)
        { scene with office := { scene.office with
          manager
          workers := scene.office.workers.set token
            (worker.next scene.office.manager.limits
              (scene.office.manager.isCancelled token) cue)
          ledger := entries ++ scene.office.ledger } }
  | list (now : Instant) :
      Does scene (.list now) { scene with sweeps := scene.sweeps ++
        [⟨now, scene.office,
          scene.office.manager.store.list.filter (·.isExpired now)⟩] }
  | sweep {place : Nat} {sweep : Sweep MemoryStore} {listed : SuspendedRun}
      {left : List SuspendedRun}
      (hturns : scene.patrol.Turns place sweep listed left) :
      Does scene (.sweep place listed.run)
        { scene.ask (Manager.timeoutSignal listed) with
          sweeps := scene.sweeps.set place { sweep with left } }

/-- Deeds one after the other. -/
inductive Plays (scene : Scene) : List Deed → Scene → Prop
  | nil : Plays scene [] scene
  | snoc {deeds : List Deed} {deed : Deed} {later last : Scene}
      (hplays : Plays scene deeds later) (hdoes : later.Does deed last) :
      Plays scene (deeds ++ [deed]) last

end Scene

/-! ## Deeds and steps -/

/-- Where a run is kept, it is handed out. -/
theorem Manager.claim_memory (manager : Manager MemoryStore) (run : RunId) :
    manager.claim run =
      ((manager.store.find? run).elim (.error (.runNotFound run)) .ok,
        { manager with store := manager.store.erase run }) :=
  manager.claim_eq MemoryStore.take_eq

section ask

variable {office : Office MemoryStore} {signal : ResumeSignal}

theorem Manager.eq_runNotFound {manager : Manager MemoryStore} {run : RunId}
    {error : Error} (hclaim : (manager.claim run).1 = .error error) :
    error = .runNotFound run := by
  rw [manager.claim_memory] at hclaim
  cases hfound : manager.store.find? run with
  | some suspended => simp [hfound] at hclaim
  | none =>
      rw [hfound] at hclaim
      exact (Except.error.inj hclaim).symm

theorem Office.ask_of_ok {suspended : SuspendedRun}
    (hclaim : (office.manager.claim signal.run).1 = .ok suspended) :
    office.ask signal = { office with
      manager := (office.manager.claim signal.run).2
      claims := (suspended, signal) :: office.claims
      ledger := .taken signal.run :: office.ledger } := by
  unfold Office.ask
  rw [office.manager.claim_memory] at hclaim
  cases hfound : office.manager.store.find? signal.run with
  | some found =>
      rw [hfound] at hclaim
      obtain rfl : found = suspended := Except.ok.inj hclaim
      rfl
  | none => simp [hfound] at hclaim

theorem Office.ask_of_error {error : Error}
    (hclaim : (office.manager.claim signal.run).1 = .error error) :
    office.ask signal =
      { office with manager := (office.manager.claim signal.run).2 } := by
  unfold Office.ask
  rw [office.manager.claim_memory] at hclaim
  cases hfound : office.manager.store.find? signal.run with
  | some found => simp [hfound] at hclaim
  | none => rfl

end ask

theorem Office.Orderly.knows {office : Office MemoryStore} {token : Token}
    {worker : Worker} (horderly : office.Orderly)
    (hworker : office.workers[token]? = some worker) :
    office.manager.Knows worker := by
  intro plan suspended hstage
  have hruns := (horderly.sound worker (List.mem_of_getElem? hworker)).runs hstage
  have hrun : suspended.run = worker.task.run :=
    hruns.awaits.run_eq.trans hruns.run_eq
  rw [hrun, horderly.token_eq hworker]
  refine horderly.listed_iff.mpr ⟨worker, hworker, rfl, ?_⟩
  simp [Worker.isListed, hstage, Stage.isListed]

namespace Scene

variable {scene later : Scene} {deed : Deed} {deeds : List Deed}

/-- Whatever happens is a step of the patrol. -/
theorem Does.step (hdoes : scene.Does deed later) :
    scene.patrol.Step later.patrol := by
  cases hdoes with
  | submit hfree hfresh hsubmit => exact .apart (.submit hfree hfresh hsubmit)
  | claim signal =>
      have hstep : scene.office.Step (scene.office.ask signal) := by
        cases hclaim : (scene.office.manager.claim signal.run).1 with
        | ok suspended =>
            rw [Office.ask_of_ok hclaim]
            exact .claim hclaim
        | error error =>
            rw [Office.ask_of_error hclaim]
            exact .miss hclaim
      exact .apart hstep
  | adopt hfree hclaim => exact .apart (.adopt hfree hclaim)
  | cancel run hfree => exact .apart (.cancel run hfree)
  | turn cue hworker hturn => exact .apart (.turn hworker hturn)
  | list now => exact .list rfl
  | @sweep place sweep listed left hturns =>
      change scene.patrol.Step (scene.patrol.goOn place sweep left
        (scene.office.ask (Manager.timeoutSignal listed)))
      cases hclaim : (scene.office.manager.claim listed.run).1 with
      | ok suspended =>
          rw [Office.ask_of_ok hclaim]
          exact .resume hturns hclaim
      | error error =>
          rw [Office.ask_of_error hclaim]
          obtain rfl := Manager.eq_runNotFound hclaim
          exact .skip hturns hclaim

/-- Whatever is a step of the patrol has a name. -/
theorem exists_does (horderly : scene.office.Orderly)
    {next : Patrol MemoryStore} (hstep : scene.patrol.Step next) :
    ∃ deed heard, scene.Does deed ⟨next.office, next.sweeps, heard⟩ := by
  cases hstep with
  | apart hstep =>
      cases hstep with
      | submit hfree hfresh hsubmit =>
          exact ⟨_, _, .submit hfree hfresh hsubmit⟩
      | @claim signal suspended hclaim =>
          have hasked : scene.office.ask signal = _ := Office.ask_of_ok hclaim
          have hdoes : scene.Does _ _ := .claim signal
          rw [ask, hasked] at hdoes
          exact ⟨_, _, hdoes⟩
      | @miss run error hclaim =>
          let signal : ResumeSignal := ⟨run, .approve, none⟩
          have hasked : scene.office.ask signal = _ :=
            Office.ask_of_error hclaim
          have hdoes : scene.Does _ _ := .claim signal
          rw [ask, hasked] at hdoes
          exact ⟨_, _, hdoes⟩
      | adopt hfree hclaim => exact ⟨_, _, .adopt hfree hclaim⟩
      | cancel run hfree => exact ⟨_, _, .cancel run hfree⟩
      | @turn token worker next manager entries hworker hturn =>
          have hmem := List.mem_of_getElem? hworker
          obtain ⟨cue, rfl⟩ := hturn.exists_cue (horderly.sound worker hmem)
            (fun hfree => hfree worker hmem) (horderly.knows hworker)
          rw [horderly.token_eq hworker] at hturn ⊢
          exact ⟨_, _, .turn cue hworker hturn⟩
  | list hlisted =>
      obtain rfl := Except.ok.inj hlisted
      exact ⟨_, _, .list _⟩
  | @resume place sweep listed taken left hturns hclaim =>
      have hasked : scene.office.ask (Manager.timeoutSignal listed) = _ :=
        Office.ask_of_ok hclaim
      have hdoes : scene.Does _ _ := .sweep hturns
      rw [ask, hasked] at hdoes
      exact ⟨_, _, hdoes⟩
  | @skip place sweep listed left missing hturns hclaim =>
      have hasked : scene.office.ask (Manager.timeoutSignal listed) = _ :=
        Office.ask_of_error hclaim
      have hdoes : scene.Does _ _ := .sweep hturns
      rw [ask, hasked] at hdoes
      exact ⟨_, _, hdoes⟩
  | giveUp _ hclaim herror =>
      exact absurd (Manager.eq_runNotFound hclaim) (herror _)

end Scene

end Workflow
