import Workflow.Proofs.Manager.Orderly
import Workflow.Proofs.Run.Trace

/-!
# Runs that are over

A run that is in no store, in the hands of no client and of no leg stays so:
nothing of it is registered or executed any more, and whoever asks for it is
told that there is no such run.
-/

namespace Workflow

variable {σ : Type} [SuspensionStore σ] [LawfulStore σ]

/-- A leg goes through no further node: it starts and dispatches none. -/
structure Worker.Rests (first worker : Worker) : Prop where
  started_eq : placesOf .started worker.told = placesOf .started first.told
  dispatched_eq : worker.dispatched = first.dispatched

theorem Worker.Rests.refl (worker : Worker) : worker.Rests worker :=
  ⟨rfl, rfl⟩

theorem Worker.Rests.trans {first worker next : Worker}
    (hbefore : first.Rests worker) (hafter : worker.Rests next) :
    first.Rests next :=
  ⟨hafter.started_eq.trans hbefore.started_eq,
    hafter.dispatched_eq.trans hbefore.dispatched_eq⟩

/-- A leg that has been put aside or settled stays so, and goes through no
further node. -/
theorem Turn.rests {free : Prop} {manager later : Manager σ}
    {worker next : Worker} {entries : List Entry} (hsound : worker.Sound)
    (hlisted : worker.isListed = false)
    (hturn : Turn free manager worker later next entries) :
    next.isListed = false ∧ worker.Rests next := by
  have hparking : ∀ {plan suspended},
      worker.task.stage ≠ .running plan (.parking suspended) := by
    intro plan suspended hstage
    simp [Worker.isListed, hstage, Stage.isListed] at hlisted
  have hwatches : ∀ {plan leg}, worker.task.stage = .running plan leg →
      leg.watches ≠ true := by
    intro plan leg hstage hwatches
    simp [Worker.isListed_of_watches hstage hwatches] at hlisted
  cases hturn with
  | launch hopening =>
      simp [(hsound.opens_of_ok hopening).1.isListed] at hlisted
  | refused _ hopening => exact absurd hopening hsound.opening_ne_error
  | look hstage _ hlooks _ => exact absurd hlooks (hwatches hstage)
  | yield hstage _ hmove _ => exact absurd hmove.watches (hwatches hstage)
  | proceed hstage _ hmove => exact absurd hmove.watches (hwatches hstage)
  | wait hstage _ hworking =>
      exact absurd (Leg.watches_of_isWorking hworking) (hwatches hstage)
  | keep _ hstage _ _ => exact absurd hstage hparking
  | refuse _ hstage _ => exact absurd hstage hparking
  | release _ hstage => exact absurd hstage hparking
  | @report plan suspended hstage =>
      refine ⟨rfl, ?_, List.append_nil _⟩
      have htold : (worker.goesOn plan (.parked suspended) () .nothing).told =
          worker.told ++ [⟨suspended.cursor, .suspended,
            Leg.suspendedPayload suspended⟩] := rfl
      simp [htold, placesOf]
  | settle _ _ => exact ⟨rfl, by simp, rfl⟩

namespace Office

variable {office later : Office σ} {run : RunId} {token : Token}

/-- A run is over: it is in no store and in nobody's hands, and its id is not
given out again. -/
structure Gone (office : Office σ) (run : RunId) : Prop where
  unkept : LawfulStore.keeps office.manager.store run = false
  unclaimed : ∀ claim ∈ office.claims, claim.1.run ≠ run
  unlisted : ∀ worker ∈ office.workers, worker.task.run = run →
    worker.isListed = false
  used : run ∈ office.used

namespace Gone

theorem claim (hgone : office.Gone run) :
    (office.manager.claim run).1 = .error (.runNotFound run) :=
  LawfulStore.take_of_not_keeps hgone.unkept

theorem cancel (hgone : office.Gone run) (horderly : office.Orderly) :
    (office.manager.cancel run).1 = .ok .notFound := by
  have hlive : Assoc.get? office.manager.live run = none := by
    refine Option.eq_none_iff_forall_ne_some.mpr fun token hlive => ?_
    obtain ⟨worker, hworker, hrun, hlisted⟩ := horderly.listed_iff.mp hlive
    have hmem := List.mem_of_getElem? hworker
    simp [hgone.unlisted worker hmem hrun] at hlisted
  exact office.manager.cancel_of_absent hlive hgone.claim

theorem take (hgone : office.Gone run) (other : RunId) :
    Gone { office with manager := (office.manager.claim other).2 } run where
  unkept := LawfulStore.keeps_take_eq_false hgone.unkept
  unclaimed := hgone.unclaimed
  unlisted := hgone.unlisted
  used := hgone.used

theorem unlisted_concat (hgone : office.Gone run) {worker : Worker}
    (hworker : worker.task.run ≠ run) :
    ∀ other ∈ office.workers ++ [worker], other.task.run = run →
      other.isListed = false := by
  intro other hother hrun
  rcases List.mem_append.mp hother with hother | hother
  · exact hgone.unlisted other hother hrun
  · rw [List.mem_singleton.mp hother] at hrun
    exact absurd hrun hworker

theorem turn (hgone : office.Gone run) (horderly : office.Orderly)
    {worker next : Worker} {manager : Manager σ} {entries : List Entry}
    (hworker : office.workers[token]? = some worker)
    (hturn : Turn office.Free office.manager worker manager next entries) :
    Gone { office with
      manager
      workers := office.workers.set token next
      ledger := entries ++ office.ledger } run := by
  have hmem := List.mem_of_getElem? hworker
  have hsound := horderly.sound worker hmem
  have heffect := hturn.effect (fun hfree => hfree worker hmem) hsound
  have hother : worker.isListed = true → worker.task.run ≠ run := by
    intro hlisted hrun
    simp [hgone.unlisted worker hmem hrun] at hlisted
  refine ⟨?_, hgone.unclaimed, ?_, hgone.used⟩
  · cases heffect with
    | quiet _ _ => exact hgone.unkept
    | strikes _ _ => exact hgone.unkept
    | saves hof _ hsave _ hactive _ _ =>
        -- The run is another one, since a leg has it in hand.
        have hne := hother (Bool.and_eq_true_iff.mp hactive).1
        rw [Bool.eq_false_iff, ne_eq, LawfulStore.keeps_save hsave, hof,
          hgone.unkept]
        simpa [eq_comm] using hne
  · intro found hfound hrun
    rcases List.mem_or_eq_of_mem_set hfound with hfound | rfl
    · exact hgone.unlisted found hfound hrun
    · have hrun' := hturn.same.1.symm.trans hrun
      exact (hturn.rests hsound (hgone.unlisted worker hmem hrun')).1

theorem step (hgone : office.Gone run) (horderly : office.Orderly)
    (hstep : Step office later) : later.Gone run := by
  cases hstep with
  | @submit other _ _ _ _ _ hfresh hsubmit =>
      obtain ⟨-, rfl, rfl⟩ := Manager.submit_eq_ok hsubmit
      have hne : other ≠ run := fun h => hfresh (h ▸ hgone.used)
      exact ⟨hgone.unkept, hgone.unclaimed, hgone.unlisted_concat hne,
        List.mem_cons_of_mem _ hgone.used⟩
  | @claim signal suspended hclaim =>
      obtain ⟨hkept, hoffers⟩ := LawfulStore.keeps_of_take hclaim
      have hof := (horderly.offers_fit hoffers).1
      have htaken := hgone.take signal.run
      refine ⟨htaken.unkept, ?_, hgone.unlisted, hgone.used⟩
      intro claim hmem
      rcases List.mem_cons.mp hmem with rfl | hmem
      · rintro rfl
        have hgone := hgone.unkept
        rw [hof, hkept] at hgone
        exact absurd hgone (by simp)
      · exact hgone.unclaimed claim hmem
  | miss _ => exact hgone.take _
  | adopt _ hclaim =>
      have hne := hgone.unclaimed _ hclaim
      exact ⟨hgone.unkept, fun claim hmem =>
        hgone.unclaimed claim (List.mem_of_mem_erase hmem),
        hgone.unlisted_concat hne, hgone.used⟩
  | cancel other _ =>
      have htaken := hgone.take other
      rcases office.cancel_cases other with ⟨_, heq⟩ | ⟨_, -, heq⟩ | heq
      · rw [heq]
        exact ⟨hgone.unkept, hgone.unclaimed, hgone.unlisted, hgone.used⟩
      · rw [heq]
        exact ⟨htaken.unkept, hgone.unclaimed, hgone.unlisted, hgone.used⟩
      · rw [heq]
        exact htaken
  | turn hworker hturn => exact hgone.turn horderly hworker hturn

theorem steps (hgone : office.Gone run) (horderly : office.Orderly)
    (hsteps : Steps office later) : later.Gone run := by
  induction hsteps with
  | refl => exact hgone
  | step hsteps hstep ih => exact ih.step (horderly.steps hsteps) hstep

/-- No leg of the run is new, and none goes through a node. -/
theorem before_step (hgone : office.Gone run) (horderly : office.Orderly)
    (hstep : Step office later) {worker : Worker}
    (hworker : later.workers[token]? = some worker)
    (hrun : worker.task.run = run) :
    ∃ first, office.workers[token]? = some first ∧ first.task.run = run ∧
      first.Rests worker := by
  cases hstep with
  | @submit other _ _ _ _ _ hfresh hsubmit =>
      obtain ⟨-, rfl, -⟩ := Manager.submit_eq_ok hsubmit
      rcases getElem?_concat_iff.mp hworker with hworker | ⟨-, rfl⟩
      · exact ⟨worker, hworker, hrun, .refl worker⟩
      · obtain rfl : other = run := hrun
        exact absurd hgone.used hfresh
  | claim _ => exact ⟨worker, hworker, hrun, .refl worker⟩
  | miss _ => exact ⟨worker, hworker, hrun, .refl worker⟩
  | adopt _ hclaim =>
      rcases getElem?_concat_iff.mp hworker with hworker | ⟨-, rfl⟩
      · exact ⟨worker, hworker, hrun, .refl worker⟩
      · exact absurd hrun (hgone.unclaimed _ hclaim)
  | cancel _ _ => exact ⟨worker, hworker, hrun, .refl worker⟩
  | @turn moved old next _ _ hold hturn =>
      rcases (getElem?_set_iff hold).mp hworker with ⟨rfl, rfl⟩ | ⟨-, hworker⟩
      · have hmem := List.mem_of_getElem? hold
        have hof : old.task.run = run := hturn.same.1.symm.trans hrun
        exact ⟨old, hold, hof, (hturn.rests (horderly.sound old hmem)
          (hgone.unlisted old hmem hof)).2⟩
      · exact ⟨worker, hworker, hrun, .refl worker⟩

theorem before_steps (hgone : office.Gone run) (horderly : office.Orderly)
    (hsteps : Steps office later) {worker : Worker}
    (hworker : later.workers[token]? = some worker)
    (hrun : worker.task.run = run) :
    ∃ first, office.workers[token]? = some first ∧ first.task.run = run ∧
      first.Rests worker := by
  induction hsteps generalizing worker with
  | refl => exact ⟨worker, hworker, hrun, .refl worker⟩
  | step hsteps hstep ih =>
      obtain ⟨middle, hmiddle, hof, hsame⟩ :=
        (hgone.steps horderly hsteps).before_step (horderly.steps hsteps) hstep
          hworker hrun
      obtain ⟨first, hfirst, hfirstOf, hearlier⟩ := ih hmiddle hof
      exact ⟨first, hfirst, hfirstOf, hearlier.trans hsame⟩

end Gone

/-- A run is over when the leg that has it in hand settles with it. -/
theorem Orderly.gone_of_settled (horderly : office.Orderly)
    {worker next : Worker} {manager : Manager σ} {entries : List Entry}
    (hworker : office.workers[token]? = some worker)
    (hactive : worker.isActive = true)
    (hturn : Turn office.Free office.manager worker manager next entries)
    (hsettled : next.isListed = false) :
    Gone { office with
      manager
      workers := office.workers.set token next
      ledger := entries ++ office.ledger } worker.task.run := by
  have hmem := List.mem_of_getElem? hworker
  have hlater := horderly.turn hworker hturn
  obtain ⟨hunkept, hunclaimed, -⟩ := horderly.alone hmem hactive
  have hlisted := (Bool.and_eq_true_iff.mp hactive).1
  have hused := horderly.mem_used_of_worker hmem
  cases hturn.effect (fun hfree => hfree worker hmem)
      (horderly.sound worker hmem) with
  | quiet hsame _ => simp [hsettled, hlisted] at hsame
  | saves _ _ _ _ _ hstays _ => simp [hsettled] at hstays
  | strikes _ _ =>
      refine ⟨hunkept, hunclaimed, fun other hother hrun => ?_, hused⟩
      obtain ⟨found, hfound⟩ := List.mem_iff_getElem?.mp hother
      by_contra hlists
      have hlive := hlater.listed_iff.mpr
        ⟨other, hfound, hrun, by simpa using hlists⟩
      simp [Manager.release, Assoc.get?_erase_self] at hlive

end Office

end Workflow
