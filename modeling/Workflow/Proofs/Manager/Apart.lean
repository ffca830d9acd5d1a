import Workflow.Proofs.Manager.Aspect

/-!
# Runs do not interfere

Nothing that happens to one run can be told from another one.  If all deeds
about a run are left out of a sequence, the rest can still happen, and what is
shown of any other run is the same (`Scene.Plays.shown_apart`): its events, the
summaries of its legs, the answers about it, its entry in the store and whether
it is live.
-/

namespace Workflow

/-- A store that an office can be opened with: its runs were put aside before,
and their ids are not given out again. -/
structure MemoryStore.Ready (store : MemoryStore) (used : List RunId) :
    Prop where
  used : ∀ suspended ∈ store.runs, suspended.run ∈ used
  fit : ∀ suspended ∈ store.runs, suspended.Fit

theorem MemoryStore.Ready.erase {store : MemoryStore} {used : List RunId}
    (hready : store.Ready used) (run : RunId) : (store.erase run).Ready used where
  used suspended hmem := hready.used suspended (mem_erase_iff.mp hmem).1
  fit suspended hmem := hready.fit suspended (mem_erase_iff.mp hmem).1

namespace MemoryStore

variable {store : MemoryStore} {run other : RunId} {suspended : SuspendedRun}

theorem erase_erase (store : MemoryStore) (run : RunId) :
    (store.erase run).erase run = store.erase run := by
  simp [erase]

theorem erase_comm (store : MemoryStore) (run other : RunId) :
    (store.erase run).erase other = (store.erase other).erase run := by
  simp only [erase]
  rw [List.filter_comm]

theorem erase_save_self :
    (store.save suspended).erase suspended.run = store.erase suspended.run := by
  simp [save, erase]

theorem erase_save_of_ne (hne : suspended.run ≠ run) :
    (store.save suspended).erase run = (store.erase run).save suspended := by
  have hcomm := congrArg runs (erase_comm store suspended.run run)
  refine congrArg mk ?_
  change ((store.erase suspended.run).runs ++ [suspended]).filter _ =
    ((store.erase run).erase suspended.run).runs ++ [suspended]
  rw [List.filter_append, List.filter_cons_of_pos (by simpa using hne),
    List.filter_nil, ← hcomm]
  rfl

end MemoryStore

/-- A run that is cancelled leaves the store, unless a leg has it. -/
theorem Manager.cancel_store (manager : Manager MemoryStore) (run : RunId) :
    (manager.cancel run).2.store =
      if manager.isLive run then manager.store else manager.store.erase run := by
  cases hlive : Assoc.get? manager.live run with
  | some found =>
      simp [manager.cancel_of_live hlive, Manager.isLive, Assoc.has, hlive]
  | none =>
      simp [Manager.cancel_of_unlisted hlive, Manager.isLive, Assoc.has, hlive]

namespace Scene

/-- A scene in which nothing has happened yet. -/
def opened (limits : EngineConfig) (store : MemoryStore) (used : List RunId) :
    Scene :=
  ⟨.opened limits store used, [], []⟩

theorem opened_counted {limits : EngineConfig} {store : MemoryStore}
    {used : List RunId} (hready : store.Ready used) :
    (opened limits store used).office.Counted where
  orderly := by
    refine Office.orderly_opened (fun run hkeeps => ?_) ?_
    · obtain ⟨suspended, hmem, rfl⟩ := Layout.keeps_iff.mp hkeeps
      exact hready.used suspended hmem
    · rintro run offered ⟨suspended, hmem, hrun, hoffered⟩
      obtain rfl : suspended = offered := Except.ok.inj hoffered
      exact ⟨hrun, hready.fit suspended hmem⟩
  cancelled_lt := by simp [opened, Office.opened, Manager.create]

/-- A scene that is the same but for a run, of which it has nothing. -/
structure Lacks (gone : RunId) (scene other : Scene) : Prop where
  counted : scene.office.Counted
  counted' : other.office.Counted
  limits : other.office.manager.limits = scene.office.manager.limits
  aspect : ∀ run ≠ gone, other.aspect run = scene.aspect run
  store : other.office.manager.store = scene.office.manager.store.erase gone
  left : other.sweeps.map (·.left) =
    scene.sweeps.map (·.left.filter (·.run ≠ gone))
  apart : ∀ worker ∈ other.office.workers, worker.task.run ≠ gone

/-- Where two scenes are the same to a run, so are its legs but for their
tokens. -/
theorem exists_counterpart {scene other : Scene} {token : Token}
    {worker : Worker} (horderly : other.office.Orderly)
    (haspect : other.aspect worker.task.run = scene.aspect worker.task.run)
    (horderly' : scene.office.Orderly)
    (hworker : scene.office.workers[token]? = some worker) :
    ∃ token', other.office.workers[token']? = some (worker.renumber token') ∧
      other.office.placeOf token' worker.task.run =
        scene.office.placeOf token worker.task.run ∧
      other.office.manager.isCancelled token' =
        scene.office.manager.isCancelled token := by
  have hsight : (sightsOf other.office.manager.cancelled other.office.workers
      worker.task.run)[scene.office.placeOf token worker.task.run]? =
        some (worker.sight scene.office.manager.cancelled) := by
    have hlegs := congrArg Aspect.legs haspect
    simp only [aspect] at hlegs
    rw [hlegs]
    exact getElem?_sightsOf hworker
  rw [sightsOf, List.getElem?_map, Option.map_eq_some_iff] at hsight
  obtain ⟨found, hfound, hsame⟩ := hsight
  obtain ⟨token', htoken', -, hplace⟩ := exists_of_getElem?_filter hfound
  obtain ⟨hworker', hcancelled⟩ := Prod.mk.inj hsame
  have htoken : found.task.token = token' := horderly.token_eq htoken'
  have heq : found = worker.renumber token' := by
    have hrenumber := congrArg (Worker.renumber token') hworker'
    rw [← htoken] at hrenumber ⊢
    exact hrenumber
  rw [htoken, horderly'.token_eq hworker] at hcancelled
  exact ⟨token', heq ▸ htoken', hplace, hcancelled⟩

section skip

variable {gone : RunId} {scene later : Scene} {deed : Deed}

/-- A deed about a run changes nothing in the store but what is kept for it. -/
theorem Does.store_of_run (hcounted : scene.office.Counted)
    (hdoes : scene.Does deed later) (hdeed : deed.run? = some gone) :
    later.office.manager.store.erase gone =
      scene.office.manager.store.erase gone := by
  cases hdoes with
  | submit _ _ hsubmit =>
      obtain ⟨-, -, rfl⟩ := Manager.submit_eq_ok hsubmit
      rfl
  | claim signal =>
      obtain rfl : signal.run = gone := Option.some.inj hdeed
      simp [Scene.ask, MemoryStore.erase_erase]
  | adopt _ _ => rfl
  | cancel run _ =>
      obtain rfl : run = gone := Option.some.inj hdeed
      change (scene.office.manager.cancel run).2.store.erase run = _
      rw [Manager.cancel_store]
      split
      · rfl
      · exact MemoryStore.erase_erase _ run
  | @turn token worker manager entries cue hworker hturn =>
      obtain rfl : worker.task.run = gone := Option.some.inj hdeed
      have hsound := hcounted.orderly.sound worker (List.mem_of_getElem? hworker)
      simp only [hturn.store_eq]
      cases hputs : Worker.puts? _ with
      | none => rfl
      | some suspended =>
          rw [← hturn.run_of_puts? hsound hputs]
          exact MemoryStore.erase_save_self
  | list now => rfl
  | @sweep place sweep listed left _ =>
      obtain rfl : listed.run = gone := Option.some.inj hdeed
      simp [Scene.ask, Manager.timeoutSignal, MemoryStore.erase_erase]

theorem Does.left_of_run (hdoes : scene.Does deed later)
    (hdeed : deed.run? = some gone) :
    later.sweeps.map (·.left.filter (·.run ≠ gone)) =
      scene.sweeps.map (·.left.filter (·.run ≠ gone)) := by
  cases hdoes with
  | list now => cases hdeed
  | @sweep place sweep listed left hturns =>
      obtain rfl : listed.run = gone := Option.some.inj hdeed
      have hsweep : scene.sweeps[place]? = some sweep := hturns.sweep_eq
      rw [List.map_set]
      refine set_of_getElem? ?_
      simp [hsweep, hturns.left_eq]
  | _ => rfl

end skip

namespace Lacks

variable {gone run : RunId} {scene other later later' : Scene} {deed : Deed}

theorem free (hlacks : Lacks gone scene other) (hfree : scene.office.Free) :
    other.office.Free := by
  intro worker hworker
  obtain ⟨token, htoken⟩ := List.mem_iff_getElem?.mp hworker
  have haspect := hlacks.aspect _ (hlacks.apart worker hworker)
  obtain ⟨token', htoken', -⟩ :=
    exists_counterpart hlacks.counted.orderly haspect.symm
      hlacks.counted'.orderly htoken
  have hgrasp := hfree _ (List.mem_of_getElem? htoken')
  exact hgrasp

theorem not_used (hlacks : Lacks gone scene other) (hne : run ≠ gone)
    (hfresh : run ∉ scene.office.used) : run ∉ other.office.used := by
  have hused : other.office.used.contains run =
    scene.office.used.contains run :=
      congrArg Aspect.used (hlacks.aspect run hne)
  rw [Bool.eq_iff_iff, List.contains_iff_mem, List.contains_iff_mem] at hused
  rwa [hused]

theorem mem_claims (hlacks : Lacks gone scene other)
    {claim : SuspendedRun × ResumeSignal} (hne : claim.1.run ≠ gone)
    (hclaim : claim ∈ scene.office.claims) : claim ∈ other.office.claims := by
  have hclaims : other.office.claims.filter (·.1.run = claim.1.run) =
    scene.office.claims.filter (·.1.run = claim.1.run) :=
      congrArg Aspect.claims (hlacks.aspect claim.1.run hne)
  have hmem : claim ∈ scene.office.claims.filter (·.1.run = claim.1.run) :=
    List.mem_filter.mpr ⟨hclaim, by simp⟩
  exact List.mem_of_mem_filter (hclaims ▸ hmem)

theorem isLive_eq (hlacks : Lacks gone scene other) (hne : run ≠ gone) :
    other.office.manager.isLive run = scene.office.manager.isLive run := by
  rw [← hlacks.counted'.orderly.any_isListed,
    ← hlacks.counted.orderly.any_isListed]
  exact congrArg (·.any (·.1.isListed))
    (congrArg Aspect.legs (hlacks.aspect run hne))

/-- A leg of another run is registered. -/
theorem apart_concat (hlacks : Lacks gone scene other) {new : Worker}
    (hne : new.task.run ≠ gone) :
    ∀ worker ∈ other.office.workers ++ [new], worker.task.run ≠ gone := by
  intro worker hworker
  rcases List.mem_append.mp hworker with hworker | hworker
  · exact hlacks.apart worker hworker
  · obtain rfl := List.mem_singleton.mp hworker
    exact hne

/-- A sweep that comes to another run comes to it without the run that is left
out. -/
theorem turns (hlacks : Lacks gone scene other) {place : Nat}
    {sweep : Sweep MemoryStore} {listed : SuspendedRun}
    {left : List SuspendedRun} (hne : listed.run ≠ gone)
    (hturns : scene.patrol.Turns place sweep listed left) :
    ∃ sweep', other.patrol.Turns place sweep' listed
      (left.filter (·.run ≠ gone)) := by
  have hsweep : scene.sweeps[place]? = some sweep := hturns.sweep_eq
  have hleft : (other.sweeps.map (·.left))[place]? =
      some (listed :: left.filter (·.run ≠ gone)) := by
    simp [hlacks.left, hsweep, hturns.left_eq, hne]
  rw [List.getElem?_map, Option.map_eq_some_iff] at hleft
  obtain ⟨sweep', hsweep', hleft⟩ := hleft
  exact ⟨sweep', hsweep', hleft⟩

/-- A deed about the run that is left out can be left out. -/
theorem skip (hlacks : Lacks gone scene other) (hdoes : scene.Does deed later)
    (hdeed : deed.run? = some gone) : Lacks gone later other where
  counted := hdoes.counted hlacks.counted
  counted' := hlacks.counted'
  limits := hlacks.limits.trans hdoes.limits_eq.symm
  aspect run hne := by
    have hapart : deed.concerns run = false := by
      simp [Deed.concerns_of_run hdeed, Ne.symm hne]
    exact (hlacks.aspect run hne).trans
      (hdoes.aspect_of_ne hlacks.counted hapart).symm
  store := hlacks.store.trans (hdoes.store_of_run hlacks.counted hdeed).symm
  left := hlacks.left.trans (hdoes.left_of_run hdeed).symm
  apart := hlacks.apart

/-- What is shown of the other runs is determined by what is done. -/
theorem of_does (hlacks : Lacks gone scene other) (hdoes : scene.Does deed later)
    (hdoes' : other.Does deed later')
    (hstore : later'.office.manager.store = later.office.manager.store.erase gone)
    (hleft : later'.sweeps.map (·.left) =
      later.sweeps.map (·.left.filter (·.run ≠ gone)))
    (hapart : ∀ worker ∈ later'.office.workers, worker.task.run ≠ gone) :
    Lacks gone later later' where
  counted := hdoes.counted hlacks.counted
  counted' := hdoes'.counted hlacks.counted'
  limits := by rw [hdoes.limits_eq, hdoes'.limits_eq, hlacks.limits]
  aspect run hne := by
    rw [hdoes.aspect_eq hlacks.counted, hdoes'.aspect_eq hlacks.counted',
      hlacks.limits, hlacks.aspect run hne]
  store := hstore
  left := hleft
  apart := hapart

/-- A leg of another run can make its steps without the run that is left out. -/
theorem turn (hlacks : Lacks gone scene other) {token : Token} {worker : Worker}
    {manager : Manager MemoryStore} {entries : List Entry} {cue : Leg.Cue}
    (hne : worker.task.run ≠ gone)
    (hworker : scene.office.workers[token]? = some worker)
    (hturn : Turn scene.office.Free scene.office.manager worker manager
      (worker.next scene.office.manager.limits
        (scene.office.manager.isCancelled token) cue) entries) :
    ∃ later', other.Does
        (.turn worker.task.run (scene.office.placeOf token worker.task.run) cue)
        later' ∧
      later'.office.manager.store = manager.store.erase gone ∧
      later'.sweeps = other.sweeps ∧
      ∀ next ∈ later'.office.workers, next.task.run ≠ gone := by
  obtain ⟨token', hworker', hplace, hcancelled⟩ :=
    exists_counterpart hlacks.counted'.orderly (hlacks.aspect _ hne)
      hlacks.counted.orderly hworker
  have htoken := hlacks.counted.orderly.token_eq hworker
  obtain ⟨manager', entries', hturn'⟩ :=
    hturn.renumber (hlacks.counted.orderly.knows hworker) hlacks.free
      hlacks.limits (hlacks.counted'.orderly.knows hworker')
      (htoken.symm ▸ hcancelled)
  have hstore' := hturn'.store_eq
  rw [Worker.puts?_renumber] at hstore'
  rw [Worker.renumber_next, ← hlacks.limits, ← hcancelled] at hturn'
  have hdoes' := Does.turn cue hworker' hturn'
  change other.Does (.turn worker.task.run
    (other.office.placeOf token' worker.task.run) cue) _ at hdoes'
  rw [hplace] at hdoes'
  have hsound := hlacks.counted.orderly.sound worker
    (List.mem_of_getElem? hworker)
  refine ⟨_, hdoes', ?_, rfl, ?_⟩
  · change manager'.store = manager.store.erase gone
    rw [hstore', hturn.store_eq, hlacks.store]
    cases hputs : Worker.puts? _ with
    | none => rfl
    | some suspended =>
        refine (MemoryStore.erase_save_of_ne ?_).symm
        rw [hturn.run_of_puts? hsound hputs]
        exact hne
  · intro next hnext
    rcases List.mem_or_eq_of_mem_set hnext with hnext | rfl
    · exact hlacks.apart next hnext
    · rw [hturn'.same.1]
      exact hne

/-- Any other deed can be done without the run that is left out. -/
theorem follow (hlacks : Lacks gone scene other) (hdoes : scene.Does deed later)
    (hdeed : deed.run? ≠ some gone) :
    ∃ later', other.Does deed later' ∧ Lacks gone later later' := by
  have hapart : ∀ {run}, deed.run? = some run → run ≠ gone := by
    rintro run hrun rfl
    exact hdeed hrun
  have hdone := hdoes
  cases hdoes with
  | @submit run graph inputs task manager hfree hfresh hsubmit =>
      have hne := hapart rfl
      obtain ⟨hgraph, rfl, rfl⟩ := Manager.submit_eq_ok hsubmit
      have hsubmit' : other.office.manager.submit run graph inputs =
          .ok (⟨run, other.office.manager.issued, .submitted graph inputs⟩,
            (other.office.manager.register run).2) := by
        simp [Manager.submit, hgraph.defect?_eq_none, Manager.register]
      have hdoes' :=
        Does.submit (hlacks.free hfree) (hlacks.not_used hne hfresh) hsubmit'
      exact ⟨_, hdoes', hlacks.of_does hdone hdoes' hlacks.store hlacks.left
        (hlacks.apart_concat hne)⟩
  | claim signal =>
      have hdoes' : other.Does _ _ := .claim signal
      refine ⟨_, hdoes', hlacks.of_does hdone hdoes' ?_ hlacks.left ?_⟩
      · simp [Scene.ask, hlacks.store, MemoryStore.erase_comm _ gone]
      · simpa [Scene.ask] using hlacks.apart
  | @adopt suspended signal hfree hclaim =>
      have hne := hapart rfl
      have hdoes' :=
        Does.adopt (hlacks.free hfree) (hlacks.mem_claims hne hclaim)
      exact ⟨_, hdoes', hlacks.of_does hdone hdoes' hlacks.store hlacks.left
        (hlacks.apart_concat hne)⟩
  | cancel run hfree =>
      have hne := hapart rfl
      have hdoes' := Does.cancel run (hlacks.free hfree)
      refine ⟨_, hdoes',
        hlacks.of_does hdone hdoes' ?_ hlacks.left hlacks.apart⟩
      change (other.office.manager.cancel run).2.store =
        (scene.office.manager.cancel run).2.store.erase gone
      rw [Manager.cancel_store, Manager.cancel_store, hlacks.isLive_eq hne,
        hlacks.store]
      split
      · rfl
      · exact MemoryStore.erase_comm _ _ _
  | turn cue hworker hturn =>
      obtain ⟨later', hdoes', hstore, hsweeps, hworkers⟩ :=
        hlacks.turn (hapart rfl) hworker hturn
      exact ⟨later', hdoes', hlacks.of_does hdone hdoes' hstore
        (hsweeps ▸ hlacks.left) hworkers⟩
  | list now =>
      have hdoes' : other.Does _ _ := .list now
      refine ⟨_, hdoes', hlacks.of_does hdone hdoes' hlacks.store ?_
        hlacks.apart⟩
      simp only [List.map_append, List.map_singleton, hlacks.left, hlacks.store]
      rw [List.filter_comm,
        scene.office.manager.store.filter_list (·.run ≠ gone)]
      rfl
  | @sweep place sweep listed left hturns =>
      obtain ⟨sweep', hturns'⟩ := hlacks.turns (hapart rfl) hturns
      have hdoes' := Does.sweep hturns'
      refine ⟨_, hdoes', hlacks.of_does hdone hdoes' ?_ ?_ ?_⟩
      · simp [Scene.ask, hlacks.store, MemoryStore.erase_comm _ gone]
      · simp only [List.map_set, hlacks.left]
      · simpa [Scene.ask] using hlacks.apart

end Lacks

/-! ## Sequences without a run -/

/-- Whatever happens can happen without all that is about one run. -/
theorem Lacks.plays {gone : RunId} {start start' later : Scene}
    {deeds : List Deed} (hlacks : Lacks gone start start')
    (hplays : start.Plays deeds later) :
    ∃ other, start'.Plays (deeds.filter (·.run? ≠ some gone)) other ∧
      Lacks gone later other := by
  induction hplays with
  | nil => exact ⟨start', .nil, hlacks⟩
  | @snoc deeds deed later last hplays hdoes ih =>
      obtain ⟨other, hothers, hlater⟩ := ih
      rw [List.filter_append]
      by_cases hdeed : deed.run? = some gone
      · refine ⟨other, ?_, hlater.skip hdoes hdeed⟩
        simpa [hdeed] using hothers
      · obtain ⟨other', hdoes', hlast⟩ := hlater.follow hdoes hdeed
        refine ⟨other', ?_, hlast⟩
        simpa [hdeed] using hothers.snoc hdoes'

theorem opened_lacks {limits : EngineConfig} {store : MemoryStore}
    {used : List RunId} (hready : store.Ready used) (gone : RunId) :
    Lacks gone (opened limits store used)
      (opened limits (store.erase gone) used) where
  counted := opened_counted hready
  counted' := opened_counted (hready.erase gone)
  limits := rfl
  aspect run hne := by
    refine Aspect.ext rfl ?_ rfl rfl rfl rfl
    exact MemoryStore.filter_erase_of_ne hne
  store := rfl
  left := rfl
  apart := by simp [opened, Office.opened]

/-- What is about one run is not about another one. -/
theorem filter_concerns {gone run : RunId} (hne : run ≠ gone)
    (deeds : List Deed) :
    (deeds.filter (·.run? ≠ some gone)).filter (·.concerns run) =
      deeds.filter (·.concerns run) := by
  rw [List.filter_filter]
  refine List.filter_congr fun deed _ => ?_
  cases hdeed : deed.run? with
  | none => simp [Deed.concerns, hdeed]
  | some found =>
      rw [Deed.concerns_of_run hdeed]
      by_cases hfound : found = run
      · subst hfound
        simp [hne]
      · simp [hfound]

/-- Runs do not interfere: whatever is done around a manager, by clients, legs
and sweeps in any order, all that is about one run can be left out, and
whenever the rest is done the same is shown of every other run.  What the store
has of the run at first is left out with it, for a sweep would come to it; where
the rest can be done without that, the same is shown as well. -/
theorem Plays.shown_apart {limits : EngineConfig} {store : MemoryStore}
    {used : List RunId} {deeds : List Deed} {later : Scene} {gone run : RunId}
    (hready : store.Ready used)
    (hplays : (opened limits store used).Plays deeds later)
    (hne : run ≠ gone) :
    (∃ other, (opened limits (store.erase gone) used).Plays
      (deeds.filter (·.run? ≠ some gone)) other) ∧
    ∀ {store' : MemoryStore} {deeds' : List Deed} {other : Scene},
      store'.Ready used → store'.erase gone = store.erase gone →
      deeds'.filter (·.run? ≠ some gone) = deeds.filter (·.run? ≠ some gone) →
      (opened limits store' used).Plays deeds' other →
        other.shown run = later.shown run := by
  constructor
  · obtain ⟨other, hothers, -⟩ := (opened_lacks hready gone).plays hplays
    exact ⟨other, hothers⟩
  · intro store' deeds' other hready' hstore hdeeds hplays'
    have hcounted : (opened limits store used).office.Counted :=
      opened_counted hready
    have hcounted' : (opened limits store' used).office.Counted :=
      opened_counted hready'
    have hstart : (opened limits store' used).aspect run =
        (opened limits store used).aspect run := by
      refine Aspect.ext rfl ?_ rfl rfl rfl rfl
      have hkept := congrArg (·.runs.filter (·.run = run)) hstore
      simp only [MemoryStore.filter_erase_of_ne hne] at hkept
      exact hkept
    refine shown_of_aspect (hplays.counted hcounted).orderly
      (hplays'.counted hcounted').orderly ?_
    rw [hplays.aspect_eq hcounted, hplays'.aspect_eq hcounted', hstart,
      ← filter_concerns hne deeds, ← filter_concerns hne deeds', hdeeds]
    rfl

end Scene

/-! ## Two runs that are overdue -/

namespace Pair

/-- A run that waits until one minute into 1970. -/
def waiting (run : RunId) : SuspendedRun :=
  { Far.waitingUntil Far.soon with run }

def store : MemoryStore :=
  ⟨[waiting "a", waiting "b"]⟩

theorem store_ready : store.Ready ["a", "b"] where
  used := by simp [store, waiting]
  fit := by
    have hfit (run : RunId) : (waiting run).Fit :=
      ⟨(Far.waiting_fit Far.soon).wellFormed, (Far.waiting_fit Far.soon).exits⟩
    simp [store, hfit]

/-- A sweep resumes both runs, of which the first is cancelled before the other
goes on. -/
def deeds : List Deed :=
  [.list ⟨61, 0⟩, .sweep 0 "a", .adopt "a", .sweep 0 "b", .adopt "b",
    .cancel "a", .turn "b" 0 .nothing]

theorem overdue_eq :
    store.list.filter (·.isExpired ⟨61, 0⟩) = [waiting "a", waiting "b"] := by
  have hsorted : store.list = store.runs :=
    List.mergeSort_of_pairwise (by simp [store, waiting, Instant.le])
  rw [hsorted]
  rfl

/-- The office before anything has happened. -/
def office : Office MemoryStore :=
  .opened .standard store ["a", "b"]

theorem exists_plays :
    ∃ later, (Scene.opened .standard store ["a", "b"]).Plays deeds later ∧
      (later.shown "b").told.map (·.map (·.kind)) = [[.resumed, .error]] := by
  have hlist : (Scene.opened .standard store ["a", "b"]).Plays
      [.list ⟨61, 0⟩]
      ⟨office, [⟨⟨61, 0⟩, office, [waiting "a", waiting "b"]⟩], []⟩ := by
    rw [← overdue_eq]
    exact .snoc .nil (.list ⟨61, 0⟩)
  have hfirst := hlist.snoc (.sweep (show Patrol.Turns _ 0 _ (waiting "a")
    [waiting "b"] from ⟨rfl, rfl⟩))
  have hadopted := hfirst.snoc
    (.adopt (Twice.free_of_workers rfl) List.mem_cons_self)
  have hsecond := hadopted.snoc (.sweep (show Patrol.Turns _ 0 _ (waiting "b")
    [] from ⟨rfl, rfl⟩))
  have hboth := hsecond.snoc
    (.adopt (Twice.free_of_workers rfl) List.mem_cons_self)
  have hcancelled := hboth.snoc (.cancel "a" (Twice.free_of_workers rfl))
  have hturn := hcancelled.snoc
    (.turn .nothing (show _[1]? = some _ from rfl) (.launch rfl))
  exact ⟨_, hturn, rfl⟩

theorem shown_apart_overdue :
    ∃ later other,
      (Scene.opened .standard store ["a", "b"]).Plays deeds later ∧
      (Scene.opened .standard (store.erase "a") ["a", "b"]).Plays
        (deeds.filter (·.run? ≠ some "a")) other ∧
      other.shown "b" = later.shown "b" ∧
      (other.shown "b").told.map (·.map (·.kind)) = [[.resumed, .error]] := by
  obtain ⟨later, hplays, htold⟩ := exists_plays
  obtain ⟨⟨other, hothers⟩, hsame⟩ :=
    Scene.Plays.shown_apart store_ready hplays (show ("b" : RunId) ≠ "a" by decide)
  have hshown : other.shown "b" = later.shown "b" := by
    refine hsame (store_ready.erase "a") (store.erase_erase "a") ?_ hothers
    exact List.filter_eq_self.mpr fun _ hmem => (List.mem_filter.mp hmem).2
  exact ⟨later, other, hplays, hothers, hshown, hshown ▸ htold⟩

end Pair

end Workflow
