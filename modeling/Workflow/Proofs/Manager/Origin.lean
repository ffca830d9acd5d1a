import Workflow.Proofs.Manager.Telling
import Workflow.Proofs.Store.Listing

/-!
# Where a suspension comes from

A leg that resumes a run goes on from what a store has handed out for it.  That
is what an earlier leg of the run has put into the store, or, if the leg is the
first one of its run, what the store held when the office was opened.
-/

namespace Workflow

/-- What may be resumed after some legs: one of them has put it into the store,
or none of them is a leg of its run. -/
inductive SuspendedRun.Comes (legs : List Worker) (restored : SuspendedRun) :
    Prop
  | put {worker : Worker} {suspended : SuspendedRun} (hworker : worker ∈ legs)
      (hrun : worker.task.run = restored.run) (hputs : worker.Puts suspended)
      (hrestored : suspended.Restored True restored)
  | first (hnone : ∀ worker ∈ legs, worker.task.run ≠ restored.run)

namespace SuspendedRun.Comes

variable {legs : List Worker} {restored : SuspendedRun}

/-- A leg of another run may follow. -/
theorem concat (hcomes : Comes legs restored) {new : Worker}
    (hrun : new.task.run ≠ restored.run) : Comes (legs ++ [new]) restored := by
  cases hcomes with
  | put hworker hof hputs hrestored =>
      exact .put (List.mem_append_left _ hworker) hof hputs hrestored
  | first hnone =>
      refine .first fun worker hworker => ?_
      rcases List.mem_append.mp hworker with hworker | hworker
      · exact hnone worker hworker
      · rwa [List.mem_singleton.mp hworker]

/-- A leg may make a step. -/
theorem set (hcomes : Comes legs restored) {token : Token} {next : Worker}
    (hsame : ∀ worker, legs[token]? = some worker →
      next.task.run = worker.task.run ∧
        ∀ suspended, worker.Puts suspended → next.Puts suspended) :
    Comes (legs.set token next) restored := by
  rcases hold : legs[token]? with _ | old
  · rwa [List.set_eq_of_length_le (List.getElem?_eq_none_iff.mp hold)]
  · obtain ⟨hrun, hkeeps⟩ := hsame old hold
    have hnext : next ∈ legs.set token next :=
      List.mem_of_getElem? (getElem?_set_self_of_getElem? hold)
    cases hcomes with
    | @put worker _ hworker hof hputs hrestored =>
        obtain ⟨place, hplace⟩ := List.mem_iff_getElem?.mp hworker
        by_cases hmoved : place = token
        · subst hmoved
          obtain rfl := Option.some.inj (hold.symm.trans hplace)
          exact .put hnext (hrun.trans hof) (hkeeps _ hputs) hrestored
        · have hstays : (legs.set token next)[place]? = some worker :=
            (getElem?_set_iff hold).mpr (.inr ⟨hmoved, hplace⟩)
          exact .put (List.mem_of_getElem? hstays) hof hputs hrestored
    | first hnone =>
        refine .first fun worker hworker => ?_
        rcases List.mem_or_eq_of_mem_set hworker with hworker | rfl
        · exact hnone worker hworker
        · rw [hrun]
          exact hnone old (List.mem_of_getElem? hold)

end SuspendedRun.Comes

/-- What a step of a leg puts into the store is the run of the leg. -/
theorem Turn.restocks {σ : Type} [SuspensionStore σ] [LawfulStore σ]
    {free : Prop} {manager later : Manager σ} {worker next : Worker}
    {entries : List Entry} (hsound : worker.Sound)
    (hturn : Turn free manager worker later next entries) :
    later.store = manager.store ∨ ∃ suspended, next.Puts suspended ∧
      SuspensionStore.save manager.store suspended = .ok later.store ∧
      LawfulStore.Faithful manager.store suspended ∧
      suspended.run = worker.task.run := by
  cases hturn with
  | @keep plan suspended later _ hstage hkeep hfaithful =>
      have hruns := hsound.runs hstage
      obtain ⟨-, store, hsave, rfl⟩ := manager.keep_eq_none hkeep
      exact .inr ⟨suspended, .parking rfl rfl, hsave, hfaithful,
        hruns.awaits.run_eq.trans hruns.run_eq⟩
  | refuse _ _ hkeep => exact .inl (by rw [manager.keep_of_error hkeep])
  | @settle plan outcome _ _ => cases outcome <;> exact .inl rfl
  | _ => exact .inl rfl

namespace Office

variable {σ : Type} [SuspensionStore σ] [LawfulStore σ]
variable {office later : Office σ}

/-- All that may be resumed comes from a leg, and what a leg has resumed from an
earlier one. -/
structure Traced (office : Office σ) : Prop where
  offers : ∀ {run : RunId} {restored : SuspendedRun},
    LawfulStore.Offers office.manager.store run restored →
      restored.Comes office.workers
  claims : ∀ claim ∈ office.claims, claim.1.Comes office.workers
  begun : ∀ {token : Token} {worker : Worker} {restored : SuspendedRun}
    {signal : ResumeSignal}, office.workers[token]? = some worker →
      worker.beginning = .resume restored signal →
        restored.run = worker.task.run ∧
          restored.Comes (office.workers.take token)

namespace Traced

theorem opened {limits : EngineConfig} {store : σ} {used : List RunId} :
    (opened limits store used).Traced where
  offers _ := .first (by simp [Office.opened])
  claims := by simp [Office.opened]
  begun := by simp [Office.opened]

/-- A store from which something was taken offers nothing else. -/
theorem take (htraced : office.Traced) (run : RunId) (ledger : List Entry) :
    Traced { office with
      manager := (office.manager.claim run).2
      ledger } where
  offers hoffers := htraced.offers (LawfulStore.offers_of_offers_take hoffers)
  claims := htraced.claims
  begun := htraced.begun

/-- A leg has been registered that resumes a claim or nothing. -/
theorem enter [ListingStore σ] (htraced : office.Traced)
    (hlater : later.Orderly) {new : Worker}
    (hstore : later.manager.store = office.manager.store)
    (hworkers : later.workers = office.workers ++ [new])
    (hclaims : later.claims ⊆ office.claims) (hactive : new.isActive = true)
    (hbegun : ∀ restored signal, new.beginning = .resume restored signal →
      restored.run = new.task.run ∧ (restored, signal) ∈ office.claims) :
    later.Traced := by
  have hnew : new ∈ later.workers := by simp [hworkers]
  obtain ⟨hunkept, hunclaimed, -⟩ := hlater.alone hnew hactive
  constructor
  · intro run restored hoffers
    have hkept := ListingStore.keeps_of_offers hoffers
    obtain rfl := (hlater.offers_fit hoffers).1
    rw [hworkers]
    refine (htraced.offers (hstore ▸ hoffers)).concat ?_
    rintro hrun
    simp [hrun, hkept] at hunkept
  · intro claim hclaim
    rw [hworkers]
    exact (htraced.claims claim (hclaims hclaim)).concat
      (hunclaimed claim hclaim).symm
  · intro token worker restored signal hworker hbeginning
    rw [hworkers, getElem?_concat_iff] at hworker
    rw [hworkers]
    rcases hworker with hworker | ⟨rfl, rfl⟩
    · have hlt := (List.getElem?_eq_some_iff.mp hworker).1
      rw [List.take_append_of_le_length hlt.le]
      exact htraced.begun hworker hbeginning
    · obtain ⟨hrun, hclaim⟩ := hbegun restored signal hbeginning
      rw [List.take_left]
      exact ⟨hrun, htraced.claims _ hclaim⟩

theorem turn (htraced : office.Traced) (horderly : office.Orderly)
    {token : Token} {worker next : Worker}
    {manager : Manager σ} {entries : List Entry}
    (hworker : office.workers[token]? = some worker)
    (hturn : Turn office.Free office.manager worker manager next entries) :
    Traced { office with
      manager
      workers := office.workers.set token next
      ledger := entries ++ office.ledger } := by
  have hmem := List.mem_of_getElem? hworker
  have hsound := horderly.sound worker hmem
  have hfree : office.Free → worker.grasp ≠ .lock := fun hfree => hfree _ hmem
  have hsame : ∀ found, office.workers[token]? = some found →
      next.task.run = found.task.run ∧
        ∀ suspended, found.Puts suspended → next.Puts suspended := by
    intro found hfound
    obtain rfl := Option.some.inj (hworker.symm.trans hfound)
    exact ⟨hturn.same.1, fun _ => hturn.puts hsound hfree⟩
  have hset : ∀ {restored : SuspendedRun}, restored.Comes office.workers →
      restored.Comes (office.workers.set token next) := fun h => h.set hsame
  constructor
  · intro run restored hoffers
    have hbefore : LawfulStore.Offers office.manager.store run restored →
        restored.Comes (office.workers.set token next) :=
      fun hoffers => hset (htraced.offers hoffers)
    rcases hturn.restocks hsound with
      hstore | ⟨suspended, hputs, hsave, hfaithful, hrun⟩
    · exact hbefore (hstore ▸ hoffers)
    · rcases LawfulStore.offers_save hsave hfaithful hoffers with
        hoffered | ⟨-, hrestored⟩
      · exact hbefore hoffered
      · exact .put (List.mem_of_getElem? (getElem?_set_self_of_getElem? hworker))
          (hturn.same.1.trans (hrun.symm.trans hrestored.run_eq.symm)) hputs
          hrestored
  · exact fun claim hclaim => hset (htraced.claims claim hclaim)
  · intro other found restored signal hfound hbeginning
    rw [List.take_set]
    obtain ⟨hrun, hbefore⟩ : restored.run = found.task.run ∧
        restored.Comes (office.workers.take other) := by
      rcases (getElem?_set_iff hworker).mp hfound with ⟨rfl, rfl⟩ | ⟨-, hfound⟩
      · rw [hturn.same.1]
        exact htraced.begun hworker (hturn.same.2.2.2.1.symm.trans hbeginning)
      · exact htraced.begun hfound hbeginning
    refine ⟨hrun, hbefore.set fun before hold => hsame before ?_⟩
    rw [List.getElem?_take] at hold
    split at hold
    · exact hold
    · cases hold

theorem step [ListingStore σ] (htraced : office.Traced)
    (horderly : office.Orderly) (hstep : Step office later) :
    later.Traced := by
  have hlater := horderly.step hstep
  cases hstep with
  | submit _ _ hsubmit =>
      obtain ⟨-, rfl, rfl⟩ := Manager.submit_eq_ok hsubmit
      exact htraced.enter hlater rfl rfl (List.Subset.refl _) rfl nofun
  | @claim signal suspended hclaim =>
      have hoffers := (LawfulStore.keeps_of_take hclaim).2
      have htaken := htraced.take signal.run
        (.taken signal.run :: office.ledger)
      refine ⟨htaken.offers, fun claim hmem => ?_, htraced.begun⟩
      rcases List.mem_cons.mp hmem with rfl | hmem
      · exact htraced.offers hoffers
      · exact htraced.claims claim hmem
  | @miss run _ _ => exact htraced.take run _
  | adopt _ hclaim =>
      refine htraced.enter hlater rfl rfl (fun _ => List.mem_of_mem_erase) rfl ?_
      intro restored other hbeginning
      obtain ⟨rfl, rfl⟩ := Beginning.resume.inj hbeginning
      exact ⟨rfl, hclaim⟩
  | cancel run _ =>
      rcases office.cancel_cases run with ⟨_, heq⟩ | ⟨_, -, heq⟩ | heq
      · rw [heq]
        exact ⟨htraced.offers, htraced.claims, htraced.begun⟩
      · rw [heq]
        exact htraced.take run _
      · rw [heq]
        exact htraced.take run _
  | turn hworker hturn => exact htraced.turn horderly hworker hturn

end Traced

theorem Reachable.traced [ListingStore σ] (hreach : office.Reachable) :
    office.Traced := by
  induction hreach with
  | opened _ _ => exact .opened
  | step hreach hstep ih => exact ih.step hreach.orderly hstep

end Office

end Workflow
