import Workflow.Proofs.Manager.Telling

/-!
# A bus for what the legs tell

All legs publish what they report on one bus, and so does a request to cancel a
run that takes it out of the store.  A leg has its run put aside before it
reports so, on purpose: whoever learns of the suspension can act on it.  But
others can act on it even before, and then a leg is `hasty`: its run was taken
out of the store while it still had the suspension to report.

A leg that others follow has reported its suspension or is hasty
(`Bulletin.Reachable.tidy`), and what is on the bus is what the legs have told
(`Bulletin.Reachable.booked`).
-/

namespace Workflow

/-- An event on the bus, with its run and the leg that has reported it; the end
of a run that is discarded is reported by no leg. -/
structure Item where
  run : RunId
  source : Option Token
  event : Event

/-- The items of a leg. -/
def Worker.items (worker : Worker) (token : Token) (events : List Event) :
    List Item :=
  events.map (⟨worker.task.run, some token, ·⟩)

/-- A leg later on. -/
structure Worker.Lasts (worker found : Worker) : Prop where
  run_eq : found.task.run = worker.task.run
  graph_eq : found.graph = worker.graph
  beginning_eq : found.beginning = worker.beginning
  told : worker.told <+: found.told

theorem Worker.Lasts.refl {worker : Worker} : worker.Lasts worker :=
  ⟨rfl, rfl, rfl, List.prefix_rfl⟩

theorem Turn.lasts {σ : Type} [SuspensionStore σ] [LawfulStore σ] {free : Prop}
    {manager later : Manager σ} {worker next : Worker} {entries : List Entry}
    (hturn : Turn free manager worker later next entries) :
    worker.Lasts next := by
  obtain ⟨hrun, -, hgraph, hbeginning, -⟩ := hturn.same
  obtain ⟨events, htold⟩ := hturn.exists_told
  exact ⟨hrun, hgraph, hbeginning, htold ▸ List.prefix_append _ _⟩

/-- The legs of a run that have its suspension still to report. -/
def Office.owing {σ : Type} (office : Office σ) (run : RunId) : List Token :=
  (office.workers.filter fun worker =>
    worker.task.run = run && worker.owes).map (·.task.token)

/-- An office with a bus. -/
structure Bulletin (σ : Type) where
  office : Office σ
  /-- What has been published, the oldest first. -/
  items : List Item
  /-- The legs whose run was taken out of the store before they had reported
  that it was put aside. -/
  hasty : List Token

namespace Bulletin

variable {σ : Type} [SuspensionStore σ] [LawfulStore σ]

/-- What can happen next.  A step that takes nothing out of the store, puts
nothing in and is no step of a leg publishes nothing. -/
inductive Step (bulletin : Bulletin σ) : Bulletin σ → Prop
  | quiet {later : Office σ} (hstep : bulletin.office.Step later)
      (hworkers : bulletin.office.workers <+: later.workers)
      (hledger : later.ledger = bulletin.office.ledger) :
      Step bulletin { bulletin with office := later }
  | claim {signal : ResumeSignal} {suspended : SuspendedRun}
      (hclaim : (bulletin.office.manager.claim signal.run).1 = .ok suspended) :
      Step bulletin { bulletin with
        office := { bulletin.office with
          manager := (bulletin.office.manager.claim signal.run).2
          claims := (suspended, signal) :: bulletin.office.claims
          ledger := .taken signal.run :: bulletin.office.ledger }
        hasty := bulletin.office.owing signal.run ++ bulletin.hasty }
  | discard {run : RunId} {event : Event} (hfree : bulletin.office.Free)
      (hanswer : (bulletin.office.manager.cancel run).1 =
        .ok (.discarded event)) :
      Step bulletin
        { office := bulletin.office.cancel run
          items := bulletin.items ++ [⟨run, none, event⟩]
          hasty := bulletin.office.owing run ++ bulletin.hasty }
  | turn {token : Token} {worker next : Worker} {manager : Manager σ}
      {entries : List Entry} {events : List Event}
      (hworker : bulletin.office.workers[token]? = some worker)
      (hturn : Turn bulletin.office.Free bulletin.office.manager worker manager
        next entries)
      (htold : next.told = worker.told ++ events) :
      Step bulletin { bulletin with
        office := { bulletin.office with
          manager
          workers := bulletin.office.workers.set token next
          ledger := entries ++ bulletin.office.ledger }
        items := bulletin.items ++ worker.items token events }

/-- The offices of managers with a bus, from their opening on. -/
inductive Reachable : Bulletin σ → Prop
  | opened {limits : EngineConfig} {store : σ} {used : List RunId}
      (hreach : (Office.opened limits store used).Reachable) :
      Reachable ⟨.opened limits store used, [], []⟩
  | step {bulletin later : Bulletin σ} (hreach : Reachable bulletin)
      (hstep : Step bulletin later) : Reachable later

variable {bulletin later : Bulletin σ} {run : RunId} {token : Token}
variable {worker : Worker}

theorem Step.office (hstep : Step bulletin later) :
    bulletin.office.Step later.office := by
  cases hstep with
  | quiet hstep _ _ => exact hstep
  | claim hclaim => exact .claim hclaim
  | discard hfree _ => exact .cancel _ hfree
  | turn hworker hturn _ => exact .turn hworker hturn

/-- Whatever an office does, it does with a bus as well. -/
theorem exists_step {office next : Office σ} (hstep : office.Step next)
    (items : List Item) (hasty : List Token) :
    ∃ items' hasty', Step ⟨office, items, hasty⟩ ⟨next, items', hasty'⟩ := by
  cases hstep with
  | submit hfree hfresh hsubmit =>
      exact ⟨_, _, .quiet (.submit hfree hfresh hsubmit)
        (List.prefix_append _ _) rfl⟩
  | claim hclaim => exact ⟨_, _, .claim hclaim⟩
  | miss hclaim => exact ⟨_, _, .quiet (.miss hclaim) List.prefix_rfl rfl⟩
  | adopt hfree hclaim =>
      exact ⟨_, _, .quiet (.adopt hfree hclaim) (List.prefix_append _ _) rfl⟩
  | cancel run hfree =>
      by_cases hkept : office.Discards (office.cancel run) run
      · obtain ⟨-, event, hanswer⟩ := hkept
        exact ⟨_, _, .discard hfree hanswer⟩
      · exact ⟨_, _, .quiet (.cancel run hfree) List.prefix_rfl
          (Office.cancel_ledger hkept)⟩
  | turn hworker hturn =>
      obtain ⟨events, htold⟩ := hturn.exists_told
      exact ⟨_, _, .turn hworker hturn htold⟩

theorem Reachable.office (hreach : bulletin.Reachable) :
    bulletin.office.Reachable := by
  induction hreach with
  | opened hreach => exact hreach
  | step _ hstep ih => exact ih.step hstep.office

/-- Whatever an office has done, it can have done with a bus. -/
theorem exists_reachable {office : Office σ} (hreach : office.Reachable) :
    ∃ items hasty, Reachable ⟨office, items, hasty⟩ := by
  induction hreach with
  | opened hused hfit => exact ⟨_, _, .opened (.opened hused hfit)⟩
  | step _ hstep ih =>
      obtain ⟨items, hasty, hbulletin⟩ := ih
      obtain ⟨_, _, hlater⟩ := exists_step hstep items hasty
      exact ⟨_, _, hbulletin.step hlater⟩

theorem Step.hasty_subset (hstep : Step bulletin later) :
    bulletin.hasty ⊆ later.hasty := by
  cases hstep with
  | quiet _ _ _ => exact List.Subset.refl _
  | claim _ => exact List.subset_append_right _ _
  | discard _ _ => exact List.subset_append_right _ _
  | turn _ _ _ => exact List.Subset.refl _

end Bulletin

namespace Office

variable {σ : Type} [SuspensionStore σ] [LawfulStore σ]
variable {office later : Office σ} {run : RunId} {token : Token}
variable {worker : Worker}

theorem Orderly.mem_owing (horderly : office.Orderly)
    (hworker : office.workers[token]? = some worker)
    (hrun : worker.task.run = run) (howes : worker.owes = true) :
    token ∈ office.owing run := by
  refine List.mem_map.mpr ⟨worker, List.mem_filter.mpr
    ⟨List.mem_of_getElem? hworker, by simp [hrun, howes]⟩, ?_⟩
  exact horderly.token_eq hworker

/-- A run has one leg in the table at most. -/
theorem Orderly.eq_of_listed (horderly : office.Orderly) {other : Token}
    {found : Worker} (hworker : office.workers[token]? = some worker)
    (hfound : office.workers[other]? = some found)
    (hrun : found.task.run = worker.task.run) (hlisted : worker.isListed = true)
    (hlists : found.isListed = true) : other = token := by
  have hlive := horderly.listed_iff.mpr ⟨worker, hworker, rfl, hlisted⟩
  have hother := horderly.listed_iff.mpr ⟨found, hfound, hrun, hlists⟩
  exact Option.some.inj (hother.symm.trans hlive)

/-- A run that a leg has finished is over. -/
theorem Reachable.gone_of_finishes (hreach : office.Reachable)
    (hworker : worker ∈ office.workers) (hfinishes : worker.Finishes) :
    office.Gone worker.task.run := by
  induction hreach with
  | opened _ _ => cases hworker
  | @step office later hreach hstep ih =>
      have horderly := hreach.orderly
      have hbefore : worker ∈ office.workers → later.Gone worker.task.run :=
        fun hworker => (ih hworker).step horderly hstep
      -- A leg that has just been registered has finished nothing.
      have hnew : worker.isListed = true → False := by
        simp [hfinishes.not_listed]
      cases hstep with
      | submit _ _ hsubmit =>
          obtain ⟨-, rfl, -⟩ := Manager.submit_eq_ok hsubmit
          rcases List.mem_append.mp hworker with hworker | hworker
          · exact hbefore hworker
          · obtain rfl := List.mem_singleton.mp hworker
            exact (hnew rfl).elim
      | claim _ => exact hbefore hworker
      | miss _ => exact hbefore hworker
      | adopt _ _ =>
          rcases List.mem_append.mp hworker with hworker | hworker
          · exact hbefore hworker
          · obtain rfl := List.mem_singleton.mp hworker
            exact (hnew rfl).elim
      | cancel _ _ => exact hbefore hworker
      | @turn token old next _ _ hold hturn =>
          rcases List.mem_or_eq_of_mem_set hworker with hworker | rfl
          · exact hbefore hworker
          · have hmem := List.mem_of_getElem? hold
            rw [hturn.same.1]
            exact horderly.gone_of_settled hold
              (hturn.active_of_finishes (horderly.sound old hmem) hfinishes)
              hturn hfinishes.not_listed

/-- What a step does to the legs that is no step of a leg: at most, one of a new
run or of a run that has been taken out of the store is registered. -/
inductive Registers (office later : Office σ) : Prop
  | none (hworkers : later.workers = office.workers)
      (hclaims : later.claims = office.claims)
  | one {new : Worker} (hworkers : later.workers = office.workers ++ [new])
      (hclaims : later.claims ⊆ office.claims) (hactive : new.isActive = true)
      (htold : new.told = [])
      (hearlier : ∀ worker ∈ office.workers,
        worker.task.run = new.task.run →
          office.Free ∧ ∃ claim ∈ office.claims, claim.1.run = new.task.run)

theorem Orderly.registers (horderly : office.Orderly)
    (hstep : Step office later) (hworkers : office.workers <+: later.workers)
    (hledger : later.ledger = office.ledger) : Registers office later := by
  cases hstep with
  | @submit run graph inputs task manager _ hfresh hsubmit =>
      obtain ⟨-, rfl, -⟩ := Manager.submit_eq_ok hsubmit
      refine .one rfl (List.Subset.refl _) rfl rfl fun worker hworker hrun => ?_
      have hrun : worker.task.run = run := hrun
      exact absurd (hrun ▸ horderly.mem_used_of_worker hworker) hfresh
  | claim _ => simp at hledger
  | miss _ => exact .none rfl rfl
  | adopt hfree hclaim =>
      exact .one rfl (fun _ => List.mem_of_mem_erase) rfl rfl
        fun _ _ _ => ⟨hfree, _, hclaim, rfl⟩
  | cancel _ _ => exact .none rfl rfl
  | @turn token worker next manager entries hworker hturn =>
      -- The leg has made a step more than before.
      have hsame : office.workers = office.workers.set token next :=
        hworkers.eq_of_length (by simp)
      have hnext : (office.workers.set token next)[token]? = some next :=
        getElem?_set_self_of_getElem? hworker
      rw [← hsame, hworker] at hnext
      have hturns := hturn.same.2.2.2.2
      rw [Option.some.inj hnext] at hturns
      omega

end Office

namespace Bulletin

variable {σ : Type} [SuspensionStore σ] [LawfulStore σ]
variable {bulletin later : Bulletin σ} {run : RunId} {token : Token}
variable {worker : Worker}

/-! ## Legs that the run has left behind -/

/-- All legs of a run have put it aside once it was taken out of the store, and
all but the last one anyway; those that have not reported it yet are hasty. -/
structure Tidy (bulletin : Bulletin σ) : Prop where
  claimed : ∀ {claim : SuspendedRun × ResumeSignal} {token : Token}
    {worker : Worker}, claim ∈ bulletin.office.claims →
      bulletin.office.workers[token]? = some worker →
      worker.task.run = claim.1.run →
        (worker.isAside = true ∨ worker.grasp = .lock) ∧
          (worker.owes = true → token ∈ bulletin.hasty)
  superseded : ∀ {earlier token : Token} {worker next : Worker},
    earlier < token → bulletin.office.workers[earlier]? = some worker →
      bulletin.office.workers[token]? = some next →
      worker.task.run = next.task.run →
        worker.isAside = true ∧ (worker.owes = true → earlier ∈ bulletin.hasty)

namespace Tidy

theorem quiet (htidy : bulletin.Tidy) (horderly : bulletin.office.Orderly)
    {next : Office σ} (hstep : bulletin.office.Step next)
    (hworkers : bulletin.office.workers <+: next.workers)
    (hledger : next.ledger = bulletin.office.ledger) :
    Tidy { bulletin with office := next } := by
  cases horderly.registers hstep hworkers hledger with
  | none hworkers hclaims =>
      constructor
      · intro claim token worker hclaim hworker hrun
        exact htidy.claimed (hclaims ▸ hclaim) (hworkers ▸ hworker) hrun
      · intro earlier token worker found hlt hworker hfound hrun
        exact htidy.superseded hlt (hworkers ▸ hworker) (hworkers ▸ hfound) hrun
  | @one new hworkers hclaims hactive _ hearlier =>
      have hnew : new ∈ next.workers := by simp [hworkers]
      have hunclaimed := ((horderly.step hstep).alone hnew hactive).2.1
      constructor
      · intro claim token worker hclaim hworker hrun
        rw [hworkers, getElem?_concat_iff] at hworker
        rcases hworker with hworker | ⟨-, rfl⟩
        · exact htidy.claimed (hclaims hclaim) hworker hrun
        · exact absurd hrun.symm (hunclaimed claim hclaim)
      · intro earlier token worker found hlt hworker hfound hrun
        rw [hworkers, getElem?_concat_iff] at hworker hfound
        have hold : bulletin.office.workers[earlier]? = some worker := by
          rcases hworker with hworker | ⟨rfl, -⟩
          · exact hworker
          · rcases hfound with hfound | ⟨rfl, -⟩
            · have hbound := (List.getElem?_eq_some_iff.mp hfound).1
              exact absurd hlt hbound.asymm
            · exact absurd hlt (Nat.lt_irrefl _)
        rcases hfound with hfound | ⟨-, rfl⟩
        · exact htidy.superseded hlt hold hfound hrun
        · have hmem := List.mem_of_getElem? hold
          obtain ⟨hfree, claim, hclaim, hof⟩ := hearlier worker hmem hrun
          obtain ⟨haside, howes⟩ :=
            htidy.claimed hclaim hold (hrun.trans hof.symm)
          exact ⟨haside.resolve_right (hfree worker hmem), howes⟩

theorem claim (htidy : bulletin.Tidy) (hreach : bulletin.office.Reachable)
    {signal : ResumeSignal} {suspended : SuspendedRun}
    (hclaim : (bulletin.office.manager.claim signal.run).1 = .ok suspended) :
    Tidy { bulletin with
      office := { bulletin.office with
        manager := (bulletin.office.manager.claim signal.run).2
        claims := (suspended, signal) :: bulletin.office.claims
        ledger := .taken signal.run :: bulletin.office.ledger }
      hasty := bulletin.office.owing signal.run ++ bulletin.hasty } := by
  have horderly := hreach.orderly
  obtain ⟨hkept, hoffers⟩ := LawfulStore.keeps_of_take hclaim
  have hof := (horderly.offers_fit hoffers).1
  constructor
  · intro claim token worker hmem hworker hrun
    rcases List.mem_cons.mp hmem with rfl | hmem
    · have hrun : worker.task.run = signal.run := hrun.trans hof
      have hleg := List.mem_of_getElem? hworker
      refine ⟨?_, fun howes =>
        List.mem_append_left _ (horderly.mem_owing hworker hrun howes)⟩
      -- The run is in the store, so no leg has it in hand or has finished it.
      by_cases hgrasp : worker.grasp = .lock
      · exact .inr hgrasp
      · refine .inl ?_
        cases hlisted : worker.isListed with
        | true =>
            have hactive := worker.isActive_of_listed hlisted hgrasp
            have hunkept := (horderly.alone hleg hactive).1
            rw [hrun, hkept] at hunkept
            cases hunkept
        | false =>
            refine (worker.aside_or_finishes hlisted).resolve_right ?_
            intro hfinishes
            have hunkept := (hreach.gone_of_finishes hleg hfinishes).unkept
            rw [hrun, hkept] at hunkept
            cases hunkept
    · obtain ⟨haside, howes⟩ := htidy.claimed hmem hworker hrun
      exact ⟨haside, fun h => List.mem_append_right _ (howes h)⟩
  · intro earlier token worker next hlt hworker hnext hrun
    obtain ⟨haside, howes⟩ := htidy.superseded hlt hworker hnext hrun
    exact ⟨haside, fun h => List.mem_append_right _ (howes h)⟩

theorem turn (htidy : bulletin.Tidy) (horderly : bulletin.office.Orderly)
    {next : Worker} {manager : Manager σ} {entries : List Entry}
    {items : List Item}
    (hworker : bulletin.office.workers[token]? = some worker)
    (hturn : Turn bulletin.office.Free bulletin.office.manager worker manager
      next entries) :
    Tidy { bulletin with
      office := { bulletin.office with
        manager
        workers := bulletin.office.workers.set token next
        ledger := entries ++ bulletin.office.ledger }
      items } := by
  have hmem := List.mem_of_getElem? hworker
  have hsound := horderly.sound worker hmem
  have hof := hturn.same.1
  have haside : worker.isAside = true →
      (worker.owes = true → token ∈ bulletin.hasty) →
      next.isAside = true ∧ (next.owes = true → token ∈ bulletin.hasty) := by
    intro haside howes
    obtain ⟨hstays, hstill⟩ := hturn.aside hsound haside
    exact ⟨hstays, fun h => howes (hstill h)⟩
  constructor
  · intro claim other found hclaim hfound hrun
    rcases (getElem?_set_iff hworker).mp hfound with ⟨rfl, rfl⟩ | ⟨-, hfound⟩
    · obtain ⟨hput | hgrasp, howes⟩ :=
        htidy.claimed hclaim hworker (hof.symm.trans hrun)
      · obtain ⟨hstays, hstill⟩ := haside hput howes
        exact ⟨.inl hstays, hstill⟩
      · obtain ⟨plan, suspended, hstage, rfl⟩ :=
          hturn.of_lock hsound (fun hfree => hfree worker hmem) hgrasp
        exact ⟨.inl rfl, fun _ => howes (by simp [Worker.owes, hstage])⟩
    · exact htidy.claimed hclaim hfound hrun
  · intro earlier other found last hlt hfound hlast hrun
    -- The later leg has the same run as before its step.
    obtain ⟨before, hbefore, hsame⟩ : ∃ before,
        bulletin.office.workers[other]? = some before ∧
          last.task.run = before.task.run := by
      rcases (getElem?_set_iff hworker).mp hlast with ⟨rfl, rfl⟩ | ⟨-, hlast⟩
      · exact ⟨worker, hworker, hof⟩
      · exact ⟨last, hlast, rfl⟩
    rw [hsame] at hrun
    rcases (getElem?_set_iff hworker).mp hfound with ⟨rfl, rfl⟩ | ⟨-, hfound⟩
    · obtain ⟨hput, howes⟩ :=
        htidy.superseded hlt hworker hbefore (hof.symm.trans hrun)
      exact haside hput howes
    · exact htidy.superseded hlt hfound hbefore hrun

end Tidy

theorem Reachable.tidy (hreach : bulletin.Reachable) : bulletin.Tidy := by
  induction hreach with
  | opened _ => constructor <;> simp [Office.opened]
  | @step bulletin later hreach hstep ih =>
      have horderly := hreach.office.orderly
      cases hstep with
      | quiet hstep hworkers hledger =>
          exact ih.quiet horderly hstep hworkers hledger
      | claim hclaim => exact ih.claim hreach.office hclaim
      | discard _ _ =>
          constructor
          · intro claim token worker hclaim hworker hrun
            obtain ⟨haside, howes⟩ := ih.claimed hclaim hworker hrun
            exact ⟨haside, fun h => List.mem_append_right _ (howes h)⟩
          · intro earlier token worker next hlt hworker hnext hrun
            obtain ⟨haside, howes⟩ := ih.superseded hlt hworker hnext hrun
            exact ⟨haside, fun h => List.mem_append_right _ (howes h)⟩
      | turn hworker hturn _ => exact ih.turn horderly hworker hturn

/-! ## Items and legs -/

theorem Step.leg (hstep : Step bulletin later)
    (hworker : bulletin.office.workers[token]? = some worker) :
    ∃ found, later.office.workers[token]? = some found ∧
      worker.Lasts found := by
  rcases hstep.office.worker hworker with hsame | ⟨_, next, _, hturn, heq⟩
  · exact ⟨worker, hsame, .refl⟩
  · refine ⟨next, ?_, hturn.lasts⟩
    rw [heq]
    exact getElem?_set_self_of_getElem? hworker

/-- Every item is of a leg of its run, and every event of a leg is an item. -/
structure Booked (bulletin : Bulletin σ) : Prop where
  sources : ∀ item ∈ bulletin.items, ∀ token ∈ item.source,
    ∃ worker, bulletin.office.workers[token]? = some worker ∧
      worker.task.run = item.run ∧ item.event ∈ worker.told
  told : ∀ {token : Token} {worker : Worker},
    bulletin.office.workers[token]? = some worker →
      ∀ event ∈ worker.told,
        ⟨worker.task.run, some token, event⟩ ∈ bulletin.items

theorem Booked.sources_step (hbooked : bulletin.Booked)
    (hstep : Step bulletin later) :
    ∀ item ∈ bulletin.items, ∀ token ∈ item.source,
      ∃ worker, later.office.workers[token]? = some worker ∧
        worker.task.run = item.run ∧ item.event ∈ worker.told := by
  intro item hitem token htoken
  obtain ⟨worker, hworker, hrun, htold⟩ :=
    hbooked.sources item hitem token htoken
  obtain ⟨found, hfound, hlasts⟩ := hstep.leg hworker
  exact ⟨found, hfound, hlasts.run_eq.trans hrun, hlasts.told.subset htold⟩

theorem Booked.step (hbooked : bulletin.Booked) (hreach : bulletin.Reachable)
    (hstep : Step bulletin later) : later.Booked := by
  have hsources := hbooked.sources_step hstep
  cases hstep with
  | quiet hstep hworkers hledger =>
      refine ⟨hsources, ?_⟩
      cases hreach.office.orderly.registers hstep hworkers hledger with
      | none hworkers _ =>
          intro token worker hworker
          exact hbooked.told (hworkers ▸ hworker)
      | one hworkers _ _ htold _ =>
          intro token worker hworker event hevent
          rw [hworkers, getElem?_concat_iff] at hworker
          rcases hworker with hworker | ⟨-, rfl⟩
          · exact hbooked.told hworker event hevent
          · simp [htold] at hevent
  | claim _ => exact ⟨hsources, hbooked.told⟩
  | discard _ _ =>
      constructor
      · intro item hitem token htoken
        rcases List.mem_append.mp hitem with hitem | hitem
        · exact hsources item hitem token htoken
        · obtain rfl := List.mem_singleton.mp hitem
          cases htoken
      · exact fun hworker event hevent =>
          List.mem_append_left _ (hbooked.told hworker event hevent)
  | @turn token worker next _ _ events hworker hturn htold =>
      constructor
      · intro item hitem other hother
        rcases List.mem_append.mp hitem with hitem | hitem
        · exact hsources item hitem other hother
        · obtain ⟨event, hevent, rfl⟩ := List.mem_map.mp hitem
          obtain rfl := Option.some.inj hother
          exact ⟨next, getElem?_set_self_of_getElem? hworker, hturn.same.1,
            by simp [htold, hevent]⟩
      · intro other found hfound event hevent
        rcases (getElem?_set_iff hworker).mp hfound with ⟨rfl, rfl⟩ | ⟨-, hfound⟩
        · rw [hturn.same.1]
          rw [htold] at hevent
          rcases List.mem_append.mp hevent with hevent | hevent
          · exact List.mem_append_left _ (hbooked.told hworker event hevent)
          · exact List.mem_append_right _ (List.mem_map_of_mem hevent)
        · exact List.mem_append_left _ (hbooked.told hfound event hevent)

theorem Reachable.booked (hreach : bulletin.Reachable) : bulletin.Booked := by
  induction hreach with
  | opened _ => constructor <;> simp [Office.opened]
  | step hreach hstep ih => exact ih.step hreach hstep

/-- What no leg has told is not on the bus. -/
theorem Reachable.unreported (hreach : bulletin.Reachable)
    (hnone : ∀ worker ∈ bulletin.office.workers, ∀ event ∈ worker.told,
      event.kind ≠ .suspended) (run : RunId) (token : Token)
    (suspended : SuspendedRun) :
    ⟨run, some token, suspended.notice⟩ ∉ bulletin.items := by
  intro hmem
  obtain ⟨worker, hworker, -, hevent⟩ :=
    hreach.booked.sources _ hmem token rfl
  exact hnone worker (List.mem_of_getElem? hworker) _ hevent rfl

end Bulletin

end Workflow
