import Mathlib.Data.List.Chain
import Workflow.Proofs.Manager.Worker

/-!
# What every step of an office keeps

A run is in one place at most: in the store, in the hands of a client that has
taken it to resume it, or in the hands of one leg that has neither begun to put
it aside nor settled.  `Orderly` says so together with what else has to hold
for every step to keep it, foremost that the table of live runs names just the
legs that have not been put aside or settled yet.
-/

namespace Workflow

/-- What a request to cancel a run does to a manager. -/
inductive Manager.Cancels {σ : Type} [SuspensionStore σ] (manager : Manager σ)
    (run : RunId) : Except Error Cancellation → Manager σ → Prop
  | signalled {token : Token}
      (hlive : Assoc.get? manager.live run = some token) :
      Cancels manager run (.ok .signalled)
        { manager with cancelled := token :: manager.cancelled }
  | discarded {suspended : SuspendedRun}
      (hlive : Assoc.get? manager.live run = none)
      (hclaim : (manager.claim run).1 = .ok suspended) :
      Cancels manager run
        (.ok (.discarded ⟨suspended.cursor, .error, Error.cancelled.payload⟩))
        (manager.claim run).2
  | notFound {missing : RunId} (hlive : Assoc.get? manager.live run = none)
      (hclaim : (manager.claim run).1 = .error (.runNotFound missing)) :
      Cancels manager run (.ok .notFound) (manager.claim run).2
  | failed {error : Error} (hlive : Assoc.get? manager.live run = none)
      (hclaim : (manager.claim run).1 = .error error)
      (herror : ∀ missing, error ≠ .runNotFound missing) :
      Cancels manager run (.error error) (manager.claim run).2

theorem Manager.cancels {σ : Type} [SuspensionStore σ] (manager : Manager σ)
    (run : RunId) :
    manager.Cancels run (manager.cancel run).1 (manager.cancel run).2 := by
  unfold Manager.cancel
  split
  next token hlive => exact .signalled hlive
  next hlive =>
    rcases hclaim : manager.claim run with ⟨answer, later⟩
    have hanswer : (manager.claim run).1 = answer := by rw [hclaim]
    have hlater : (manager.claim run).2 = later := by rw [hclaim]
    cases answer with
    | ok suspended => exact hlater ▸ .discarded hlive hanswer
    | error error =>
        cases error with
        | runNotFound missing => exact hlater ▸ .notFound hlive hanswer
        | _ => exact hlater ▸ .failed hlive hanswer (by simp)

theorem Manager.Cancels.of_signalled {σ : Type} [SuspensionStore σ]
    {manager later : Manager σ} {run : RunId}
    (hcancels : manager.Cancels run (.ok .signalled) later) :
    ∃ token, Assoc.get? manager.live run = some token ∧
      later = { manager with cancelled := token :: manager.cancelled } := by
  cases hcancels with
  | signalled hlive => exact ⟨_, hlive, rfl⟩

theorem Manager.Cancels.of_discarded {σ : Type} [SuspensionStore σ]
    {manager later : Manager σ} {run : RunId} {event : Event}
    (hcancels : manager.Cancels run (.ok (.discarded event)) later) :
    ∃ suspended, Assoc.get? manager.live run = none ∧
      (manager.claim run).1 = .ok suspended ∧
      event = ⟨suspended.cursor, .error, Error.cancelled.payload⟩ ∧
      later = (manager.claim run).2 := by
  cases hcancels with
  | discarded hlive hclaim => exact ⟨_, hlive, hclaim, rfl, rfl⟩

theorem Manager.resume_of_claim_error {σ : Type} [SuspensionStore σ]
    (manager : Manager σ) {signal : ResumeSignal} {error : Error}
    (hclaim : (manager.claim signal.run).1 = .error error) :
    (manager.resume signal).1 = .error error := by
  unfold Manager.resume
  split
  next failure later hfailed =>
    rw [hfailed] at hclaim
    exact congrArg Except.error (Except.error.inj hclaim)
  next suspended later hdone => simp [hdone] at hclaim

theorem Manager.cancel_of_live {σ : Type} [SuspensionStore σ]
    (manager : Manager σ) {run : RunId} {token : Token}
    (hlive : Assoc.get? manager.live run = some token) :
    manager.cancel run = (.ok .signalled,
      { manager with cancelled := token :: manager.cancelled }) := by
  simp [Manager.cancel, hlive]

theorem Manager.cancel_of_absent {σ : Type} [SuspensionStore σ]
    (manager : Manager σ) {run missing : RunId}
    (hlive : Assoc.get? manager.live run = none)
    (hclaim : (manager.claim run).1 = .error (.runNotFound missing)) :
    (manager.cancel run).1 = .ok .notFound := by
  have hcancels := manager.cancels run
  generalize (manager.cancel run).1 = answer at hcancels ⊢
  generalize (manager.cancel run).2 = later at hcancels
  cases hcancels with
  | signalled hfound => simp [hlive] at hfound
  | discarded _ hdone => simp [hclaim] at hdone
  | notFound _ _ => rfl
  | failed _ hfailed herror =>
      rw [hclaim] at hfailed
      exact absurd (Except.error.inj hfailed).symm (herror missing)

/-- Only a graph that may run is taken on. -/
theorem Manager.submit_eq_ok {σ : Type} {manager later : Manager σ}
    {run : RunId} {graph : Graph} {inputs : Assoc Json} {task : Task}
    (hsubmit : manager.submit run graph inputs = .ok (task, later)) :
    graph.WellFormed Schema.refusal? ∧
      task = ⟨run, manager.issued, .submitted graph inputs⟩ ∧
      later = (manager.register run).2 := by
  unfold Manager.submit at hsubmit
  split at hsubmit
  next => simp at hsubmit
  next hdefect =>
    obtain ⟨rfl, rfl⟩ := Prod.mk.inj (Except.ok.inj hsubmit)
    exact ⟨Graph.wellFormed_of_defect?_eq_none hdefect, rfl, rfl⟩

/-- What a request to cancel a run does to an office: it cancels a token, or
what is in the store is asked for. -/
theorem Office.cancel_cases {σ : Type} [SuspensionStore σ] (office : Office σ)
    (run : RunId) :
    (∃ token, office.cancel run = { office with manager := {
      office.manager with cancelled := token :: office.manager.cancelled } }) ∨
    (∃ suspended, (office.manager.claim run).1 = .ok suspended ∧
      office.cancel run = { office with
        manager := (office.manager.claim run).2
        ledger := .taken run :: office.ledger }) ∨
    office.cancel run =
      { office with manager := (office.manager.claim run).2 } := by
  have hcancels := office.manager.cancels run
  unfold Office.cancel
  generalize (office.manager.cancel run).1 = answer at hcancels ⊢
  generalize (office.manager.cancel run).2 = manager at hcancels ⊢
  cases hcancels with
  | signalled _ => exact .inl ⟨_, rfl⟩
  | discarded _ hclaim => exact .inr (.inl ⟨_, hclaim, rfl⟩)
  | notFound _ _ => exact .inr (.inr rfl)
  | failed _ _ _ => exact .inr (.inr rfl)

namespace Office

variable {σ : Type} {office : Office σ} {run : RunId}

/-! ## Where a run can be -/

/-- How often a run has been taken to be resumed and not registered yet. -/
def pending (office : Office σ) (run : RunId) : Nat :=
  office.claims.countP fun claim => claim.1.run = run

/-- How many legs have a run in hand. -/
def active (office : Office σ) (run : RunId) : Nat :=
  office.workers.countP fun worker => worker.task.run = run && worker.isActive

/-- A leg that makes a step may have its run in hand or not, before it and
after it. -/
theorem active_set {token : Token} {worker next : Worker}
    (hworker : office.workers[token]? = some worker)
    (hrun : next.task.run = worker.task.run) (run : RunId) :
    active { office with workers := office.workers.set token next } run +
        (decide (worker.task.run = run) && worker.isActive).toNat =
      office.active run +
        (decide (worker.task.run = run) && next.isActive).toNat := by
  have hcount := countP_set_of_getElem? hworker next fun worker =>
    worker.task.run = run && worker.isActive
  rw [hrun] at hcount
  exact hcount

variable [SuspensionStore σ] [LawfulStore σ]

/-- Whether a run is in the store. -/
def held (office : Office σ) (run : RunId) : Nat :=
  (LawfulStore.keeps office.manager.store run).toNat

/-- In how many places a run is. -/
def places (office : Office σ) (run : RunId) : Nat :=
  office.held run + office.pending run + office.active run

/-- What has been put down about a run last. -/
def last? (office : Office σ) (run : RunId) : Option Entry :=
  office.ledger.find? fun entry => entry.run = run

/-- No run is in two places, and the books are right. -/
structure Orderly (office : Office σ) : Prop where
  token_eq : ∀ {token : Token} {worker : Worker},
    office.workers[token]? = some worker → worker.task.token = token
  issued_eq : office.manager.issued = office.workers.length
  sound : ∀ worker ∈ office.workers, worker.Sound
  claims_fit : ∀ claim ∈ office.claims,
    claim.2.run = claim.1.run ∧ claim.1.Fit
  offers_fit : ∀ {run : RunId} {offered : SuspendedRun},
    LawfulStore.Offers office.manager.store run offered →
      offered.run = run ∧ offered.Fit
  listed_iff : ∀ {run : RunId} {token : Token},
    Assoc.get? office.manager.live run = some token ↔
      ∃ worker, office.workers[token]? = some worker ∧
        worker.task.run = run ∧ worker.isListed = true
  once : ∀ run, office.places run ≤ 1
  unused : ∀ run ∉ office.used,
    LawfulStore.keeps office.manager.store run = false ∧
      (∀ claim ∈ office.claims, claim.1.run ≠ run) ∧
      ∀ worker ∈ office.workers, worker.task.run ≠ run
  consumed : ∀ {run : RunId}, office.last? run = some (.taken run) →
    LawfulStore.keeps office.manager.store run = false
  alternate : ∀ run, (office.ledger.filter fun entry => entry.run = run).IsChain
    fun late early => late = .taken run → early ≠ .taken run

theorem orderly_opened {limits : EngineConfig} {store : σ} {used : List RunId}
    (hused : ∀ run, LawfulStore.keeps store run = true → run ∈ used)
    (hfit : ∀ run offered, LawfulStore.Offers store run offered →
      offered.run = run ∧ offered.Fit) :
    Orderly (opened limits store used) where
  token_eq := by simp [opened]
  issued_eq := rfl
  sound := by simp [opened]
  claims_fit := by simp [opened]
  offers_fit := hfit _ _
  listed_iff := by simp [opened, Manager.create, Assoc.get?]
  once run := by
    simpa [places, held, pending, active, opened] using Bool.toNat_le _
  unused run hrun := by
    refine ⟨?_, by simp [opened], by simp [opened]⟩
    exact Bool.eq_false_iff.mpr fun hkeeps => hrun (hused run hkeeps)
  consumed := by simp [last?, opened]
  alternate := by simp [opened]

namespace Orderly

/-! ## What is put down -/

theorem signal (horderly : office.Orderly) (token : Token) :
    Orderly { office with manager := { office.manager with
      cancelled := token :: office.manager.cancelled } } :=
  ⟨horderly.token_eq, horderly.issued_eq, horderly.sound, horderly.claims_fit,
    horderly.offers_fit, horderly.listed_iff, horderly.once, horderly.unused,
    horderly.consumed, horderly.alternate⟩

theorem use (horderly : office.Orderly) (run : RunId) :
    Orderly { office with used := run :: office.used } :=
  { horderly with
    token_eq := horderly.token_eq
    unused := fun _ hother => horderly.unused _ fun hused =>
      hother (List.mem_cons_of_mem run hused) }

theorem note (horderly : office.Orderly) {entry : Entry}
    (hentry : ∀ run, entry = .taken run →
      LawfulStore.keeps office.manager.store run = false ∧
        office.last? run ≠ some (.taken run)) :
    Orderly { office with ledger := entry :: office.ledger } where
  token_eq := horderly.token_eq
  issued_eq := horderly.issued_eq
  sound := horderly.sound
  claims_fit := horderly.claims_fit
  offers_fit := horderly.offers_fit
  listed_iff := horderly.listed_iff
  once := horderly.once
  unused := horderly.unused
  consumed {run} hlast := by
    by_cases hrun : entry.run = run
    · simp only [last?, List.find?_cons, hrun, decide_true] at hlast
      exact (hentry run (Option.some.inj hlast)).1
    · simp only [last?, List.find?_cons, hrun, decide_false] at hlast
      exact horderly.consumed hlast
  alternate run := by
    by_cases hrun : entry.run = run
    · simp only [List.filter_cons, hrun, decide_true, if_true]
      refine (horderly.alternate run).cons ?_
      intro early hearly hlate
      rw [List.head?_filter] at hearly
      rintro rfl
      exact (hentry run hlate).2 hearly
    · simp only [List.filter_cons, hrun, decide_false]
      exact horderly.alternate run

/-! ## The store gives a run away -/

theorem take (horderly : office.Orderly) (run : RunId) :
    Orderly { office with manager := (office.manager.claim run).2 } where
  token_eq := horderly.token_eq
  issued_eq := horderly.issued_eq
  sound := horderly.sound
  claims_fit := horderly.claims_fit
  offers_fit hoffers :=
    horderly.offers_fit (LawfulStore.offers_of_offers_take hoffers)
  listed_iff := horderly.listed_iff
  once other := by
    have hheld : held { office with manager := (office.manager.claim run).2 }
        other ≤ office.held other := LawfulStore.keeps_take_le
    have honce := horderly.once other
    simp only [places, pending, active] at honce hheld ⊢
    omega
  unused other hother := by
    obtain ⟨hkeeps, hunused⟩ := horderly.unused other hother
    exact ⟨LawfulStore.keeps_take_eq_false hkeeps, hunused⟩
  consumed hlast := LawfulStore.keeps_take_eq_false (horderly.consumed hlast)
  alternate := horderly.alternate

/-- What is taken out is kept no longer, and was not taken before. -/
theorem noteTaken (horderly : office.Orderly) {suspended : SuspendedRun}
    (hclaim : (office.manager.claim run).1 = .ok suspended) :
    Orderly { office with
      manager := (office.manager.claim run).2
      ledger := .taken run :: office.ledger } := by
  refine (horderly.take run).note ?_
  rintro _ ⟨⟩
  refine ⟨LawfulStore.not_keeps_take hclaim, fun hlast => ?_⟩
  have hkeeps := (LawfulStore.keeps_of_take hclaim).1
  rw [horderly.consumed hlast] at hkeeps
  exact absurd hkeeps (by simp)

theorem claim (horderly : office.Orderly) {signal : ResumeSignal}
    {suspended : SuspendedRun}
    (hclaim : (office.manager.claim signal.run).1 = .ok suspended) :
    Orderly { office with
      manager := (office.manager.claim signal.run).2
      claims := (suspended, signal) :: office.claims
      ledger := .taken signal.run :: office.ledger } := by
  have htaken := horderly.noteTaken hclaim
  obtain ⟨hkept, hoffers⟩ := LawfulStore.keeps_of_take hclaim
  obtain ⟨hrun, hfit⟩ := horderly.offers_fit hoffers
  have hgone : LawfulStore.keeps (office.manager.claim signal.run).2.store
      signal.run = false := LawfulStore.not_keeps_take hclaim
  refine { htaken with
    token_eq := htaken.token_eq, claims_fit := ?claims_fit, once := ?once,
    unused := ?unused }
  case claims_fit =>
    rintro claim hmem
    rcases List.mem_cons.mp hmem with rfl | hmem
    · exact ⟨hrun.symm, hfit⟩
    · exact horderly.claims_fit claim hmem
  case once =>
    intro other
    have hbefore := horderly.once other
    have hafter := htaken.once other
    by_cases hother : suspended.run = other
    · subst hother
      rw [hrun] at hbefore hafter ⊢
      simp only [places, held, pending, active, List.countP_cons, hkept, hgone,
        Bool.toNat_true, Bool.toNat_false, hrun] at hbefore hafter ⊢
      simp only [decide_true, if_true]
      omega
    · simpa [places, held, pending, active, List.countP_cons, hother]
        using hafter
  case unused =>
    intro other hother
    obtain ⟨hkeeps, hclaims, hworkers⟩ := horderly.unused other hother
    refine ⟨LawfulStore.keeps_take_eq_false hkeeps, ?_, hworkers⟩
    rintro claim hmem
    rcases List.mem_cons.mp hmem with rfl | hmem
    · rintro rfl
      rw [hrun, hkept] at hkeeps
      exact absurd hkeeps (by simp)
    · exact hclaims claim hmem

/-! ## A leg is registered -/

/-- A claim is given up. -/
theorem drop (horderly : office.Orderly) {claim : SuspendedRun × ResumeSignal}
    (hclaim : claim ∈ office.claims) :
    Orderly { office with claims := office.claims.erase claim } ∧
      places { office with claims := office.claims.erase claim }
        claim.1.run = 0 := by
  have hcount : ∀ run, office.pending run =
      pending { office with claims := office.claims.erase claim } run +
        if claim.1.run = run then 1 else 0 := by
    intro run
    have hperm := (List.perm_cons_erase hclaim).countP_eq
      (fun claim => decide (claim.1.run = run))
    simpa [pending, List.countP_cons] using hperm
  refine ⟨{ horderly with
    token_eq := horderly.token_eq, claims_fit := ?claims_fit, once := ?once,
    unused := ?unused }, ?_⟩
  case claims_fit =>
    exact fun other hother =>
      horderly.claims_fit other (List.mem_of_mem_erase hother)
  case once =>
    intro run
    have honce := horderly.once run
    have hrun := hcount run
    simp only [places, held, active] at honce ⊢
    omega
  case unused =>
    intro run hrun
    obtain ⟨hkeeps, hclaims, hworkers⟩ := horderly.unused run hrun
    exact ⟨hkeeps, fun other hother =>
      hclaims other (List.mem_of_mem_erase hother), hworkers⟩
  · have honce := horderly.once claim.1.run
    have hrun := hcount claim.1.run
    simp only [places, held, active, if_true] at honce hrun ⊢
    omega

theorem places_eq_zero (horderly : office.Orderly) (hrun : run ∉ office.used) :
    office.places run = 0 := by
  obtain ⟨hkeeps, hclaims, hworkers⟩ := horderly.unused run hrun
  have hpending : office.pending run = 0 := by
    simpa [pending, List.countP_eq_zero] using fun suspended signal hmem =>
      hclaims (suspended, signal) hmem
  have hactive : office.active run = 0 := by
    rw [active, List.countP_eq_zero]
    intro worker hworker
    simp [hworkers worker hworker]
  simp [places, held, hkeeps, hpending, hactive]

/-- Where nobody holds the lock, a leg that is in the table has its run in
hand. -/
theorem not_listed (hfree : office.Free) (hempty : office.places run = 0)
    {worker : Worker} (hworker : worker ∈ office.workers)
    (hrun : worker.task.run = run) : worker.isListed = false := by
  have hactive : office.active run = 0 := by
    simp only [places] at hempty
    omega
  have hnone := List.countP_eq_zero.mp hactive worker hworker
  simpa [hrun, Worker.isActive, hfree worker hworker] using hnone

theorem enter (horderly : office.Orderly) {stage : Stage} {graph : Graph}
    {beginning : Beginning} (hlisted : stage.isListed = true)
    (hsound : (Worker.begin ⟨run, office.manager.issued, stage⟩ graph
      beginning).Sound)
    (hfree : office.Free) (hempty : office.places run = 0)
    (hused : run ∈ office.used) :
    Orderly { office with
      manager := (office.manager.register run).2
      workers := office.workers ++
        [.begin ⟨run, office.manager.issued, stage⟩ graph beginning] } where
  token_eq {token worker} hworker := by
    rcases getElem?_concat_iff.mp hworker with hworker | ⟨rfl, rfl⟩
    · exact horderly.token_eq hworker
    · exact horderly.issued_eq
  issued_eq := by
    simp [Manager.register, horderly.issued_eq]
  sound worker hworker := by
    rcases List.mem_append.mp hworker with hworker | hworker
    · exact horderly.sound worker hworker
    · rwa [List.mem_singleton.mp hworker]
  claims_fit := horderly.claims_fit
  offers_fit := horderly.offers_fit
  listed_iff {other token} := by
    -- No older leg of the run is listed, so the entry takes the place of none.
    have hnone : ∀ {worker}, office.workers[token]? = some worker →
        worker.task.run = run → worker.isListed = false := fun hworker =>
      not_listed hfree hempty (List.mem_of_getElem? hworker)
    simp only [Manager.register, getElem?_concat_iff]
    by_cases hother : other = run
    · subst hother
      rw [Assoc.get?_insert_self, Option.some.injEq, horderly.issued_eq]
      constructor
      · rintro rfl
        exact ⟨_, .inr ⟨rfl, rfl⟩, rfl, hlisted⟩
      · rintro ⟨worker, hworker | ⟨rfl, -⟩, hrun, hworks⟩
        · simp [hnone hworker hrun] at hworks
        · rfl
    · rw [Assoc.get?_insert_of_ne _ _ hother, horderly.listed_iff]
      constructor
      · rintro ⟨worker, hworker, hworks⟩
        exact ⟨worker, .inl hworker, hworks⟩
      · rintro ⟨worker, hworker | ⟨-, rfl⟩, hrun, hworks⟩
        · exact ⟨worker, hworker, hrun, hworks⟩
        · exact absurd hrun.symm hother
  once other := by
    have honce := horderly.once other
    by_cases hother : run = other
    · subst hother
      simp only [places, held, pending, active] at hempty ⊢
      simp only [List.countP_append, List.countP_singleton,
        Manager.register] at hempty ⊢
      split <;> omega
    · simpa [places, held, pending, active, Manager.register, Worker.begin,
        hother] using honce
  unused other hother := by
    obtain ⟨hkeeps, hclaims, hworkers⟩ := horderly.unused other hother
    refine ⟨hkeeps, hclaims, fun worker hworker => ?_⟩
    rcases List.mem_append.mp hworker with hworker | hworker
    · exact hworkers worker hworker
    · rw [List.mem_singleton.mp hworker]
      rintro rfl
      exact hother hused
  consumed := horderly.consumed
  alternate := horderly.alternate

/-! ## A leg makes a step -/

section replace

variable {token : Token} {worker next : Worker}

/-- One leg is replaced by what it is after a step.  It does not take its run
back into its hands, and leaves the table with its token. -/
theorem replace (horderly : office.Orderly) {live : Assoc Token}
    (hworker : office.workers[token]? = some worker)
    (hrun : next.task.run = worker.task.run)
    (htoken : next.task.token = worker.task.token) (hsound : next.Sound)
    (hactive : next.isActive = true → worker.isActive = true)
    (hlisted : next.isListed = true → worker.isListed = true)
    (hlive : ∀ {run found}, Assoc.get? live run = some found ↔
      Assoc.get? office.manager.live run = some found ∧
        (found = token → next.isListed = true)) :
    Orderly { office with
      manager := { office.manager with live }
      workers := office.workers.set token next } where
  token_eq {found other} hother := by
    rcases (getElem?_set_iff hworker).mp hother with ⟨rfl, rfl⟩ | ⟨-, hother⟩
    · exact htoken.trans (horderly.token_eq hworker)
    · exact horderly.token_eq hother
  issued_eq := by
    simp [horderly.issued_eq]
  sound other hother := by
    rcases List.mem_or_eq_of_mem_set hother with hother | rfl
    · exact horderly.sound other hother
    · exact hsound
  claims_fit := horderly.claims_fit
  offers_fit := horderly.offers_fit
  listed_iff {run found} := by
    rw [hlive, horderly.listed_iff]
    simp only [getElem?_set_iff hworker]
    constructor
    · rintro ⟨⟨other, hother, hof, hworks⟩, hstays⟩
      by_cases hfound : found = token
      · subst hfound
        obtain rfl := Option.some.inj (hworker.symm.trans hother)
        exact ⟨next, .inl ⟨rfl, rfl⟩, hrun.trans hof, hstays rfl⟩
      · exact ⟨other, .inr ⟨hfound, hother⟩, hof, hworks⟩
    · rintro ⟨other, ⟨rfl, rfl⟩ | ⟨hfound, hother⟩, hof, hworks⟩
      · exact ⟨⟨worker, hworker, hrun.symm.trans hof, hlisted hworks⟩,
          fun _ => hworks⟩
      · exact ⟨⟨other, hother, hof, hworks⟩, fun h => absurd h hfound⟩
  once run := by
    have honce := horderly.once run
    have hcount := active_set hworker hrun run
    have hle : (decide (worker.task.run = run) && next.isActive).toNat ≤
        (decide (worker.task.run = run) && worker.isActive).toNat := by
      cases hnext : next.isActive with
      | false => simp
      | true => simp [hactive hnext]
    simp only [places, held, pending, active] at honce hcount ⊢
    omega
  unused run hrun' := by
    obtain ⟨hkeeps, hclaims, hworkers⟩ := horderly.unused run hrun'
    refine ⟨hkeeps, hclaims, fun other hother => ?_⟩
    rcases List.mem_or_eq_of_mem_set hother with hother | rfl
    · exact hworkers other hother
    · rw [hrun]
      exact hworkers worker (List.mem_of_getElem? hworker)
  consumed := horderly.consumed
  alternate := horderly.alternate

theorem listed_of_live (horderly : office.Orderly)
    (hworker : office.workers[token]? = some worker)
    (hlive : Assoc.get? office.manager.live run = some token) :
    worker.task.run = run ∧ worker.isListed = true := by
  obtain ⟨other, hother, hof⟩ := horderly.listed_iff.mp hlive
  obtain rfl := Option.some.inj (hworker.symm.trans hother)
  exact hof

/-- One leg is replaced that stays in the table, or stays out of it. -/
theorem stay (horderly : office.Orderly)
    (hworker : office.workers[token]? = some worker)
    (hrun : next.task.run = worker.task.run)
    (htoken : next.task.token = worker.task.token) (hsound : next.Sound)
    (hactive : next.isActive = true → worker.isActive = true)
    (hlisted : next.isListed = worker.isListed) :
    Orderly { office with workers := office.workers.set token next } := by
  refine horderly.replace hworker hrun htoken hsound hactive
    (by simp [hlisted]) ?_
  intro run found
  refine (and_iff_left_of_imp ?_).symm
  rintro hlive rfl
  rw [hlisted]
  exact (horderly.listed_of_live hworker hlive).2

/-- One leg is replaced that leaves the table. -/
theorem strike (horderly : office.Orderly)
    (hworker : office.workers[token]? = some worker)
    (hrun : next.task.run = worker.task.run)
    (htoken : next.task.token = worker.task.token) (hsound : next.Sound)
    (hlisted : worker.isListed = true) (hstruck : next.isListed = false) :
    Orderly { office with
      manager := office.manager.release worker.task.run
      workers := office.workers.set token next } := by
  refine horderly.replace hworker hrun htoken hsound
    (by simp [Worker.isActive, hstruck]) (by simp [hstruck]) ?_
  intro run found
  by_cases hof : run = worker.task.run
  · have hlive := horderly.listed_iff.mpr ⟨worker, hworker, rfl, hlisted⟩
    rw [hof, Assoc.get?_erase_self, hlive, hstruck]
    simp [eq_comm]
  · rw [Assoc.get?_erase_of_ne _ hof]
    refine (and_iff_left_of_imp ?_).symm
    rintro hlive rfl
    exact absurd (horderly.listed_of_live hworker hlive).1.symm hof

end replace

/-- A run is put into the store that is nowhere else. -/
theorem save (horderly : office.Orderly) {suspended : SuspendedRun} {store : σ}
    (hfit : suspended.Fit)
    (hsave : SuspensionStore.save office.manager.store suspended = .ok store)
    (hfaithful : LawfulStore.Faithful office.manager.store suspended)
    (hempty : office.places suspended.run = 0)
    (hused : suspended.run ∈ office.used) :
    Orderly { office with
      manager := { office.manager with store }
      ledger := .saved suspended.run :: office.ledger } := by
  have hkeeps : ∀ {run}, run ≠ suspended.run →
      LawfulStore.keeps store run =
        LawfulStore.keeps office.manager.store run := by
    intro run hrun
    rw [Bool.eq_iff_iff, LawfulStore.keeps_save hsave]
    simp [hrun]
  have hnoted : Orderly { office with
      ledger := .saved suspended.run :: office.ledger } :=
    horderly.note (by simp)
  refine { hnoted with
    token_eq := hnoted.token_eq, offers_fit := ?offers_fit, once := ?once,
    unused := ?unused, consumed := ?consumed }
  case offers_fit =>
    intro run offered hoffers
    rcases LawfulStore.offers_save hsave hfaithful hoffers with
      hbefore | ⟨rfl, hnew⟩
    · exact horderly.offers_fit hbefore
    · exact ⟨hnew.run_eq, hnew.fit hfit⟩
  case once =>
    intro run
    by_cases hrun : run = suspended.run
    · subst hrun
      have hheld := Bool.toNat_le (LawfulStore.keeps store suspended.run)
      simp only [places, held, pending, active] at hempty ⊢
      omega
    · have honce := horderly.once run
      simpa only [places, held, pending, active, hkeeps hrun] using honce
  case unused =>
    intro run hrun
    obtain ⟨hbefore, hunused⟩ := horderly.unused run hrun
    refine ⟨?_, hunused⟩
    rw [hkeeps, hbefore]
    rintro rfl
    exact hrun hused
  case consumed =>
    intro run hlast
    have hrun : run ≠ suspended.run := by
      rintro rfl
      simp [last?, Entry.run] at hlast
    rw [hkeeps hrun]
    exact hnoted.consumed hlast

/-! ## Every step -/

theorem mem_used_of_worker (horderly : office.Orderly) {worker : Worker}
    (hworker : worker ∈ office.workers) : worker.task.run ∈ office.used := by
  by_contra hunused
  exact (horderly.unused _ hunused).2.2 worker hworker rfl

theorem mem_used_of_claim (horderly : office.Orderly)
    {claim : SuspendedRun × ResumeSignal} (hclaim : claim ∈ office.claims) :
    claim.1.run ∈ office.used := by
  by_contra hunused
  exact (horderly.unused _ hunused).2.1 claim hclaim rfl

theorem submit (horderly : office.Orderly) {graph : Graph}
    {inputs : Assoc Json} {task : Task} {manager : Manager σ}
    (hfree : office.Free) (hfresh : run ∉ office.used)
    (hsubmit : office.manager.submit run graph inputs = .ok (task, manager)) :
    Orderly { office with
      manager
      workers := office.workers ++ [.begin task graph .start]
      used := run :: office.used } := by
  obtain ⟨hgraph, rfl, rfl⟩ := Manager.submit_eq_ok hsubmit
  have hempty : office.places run = 0 := horderly.places_eq_zero hfresh
  exact (horderly.use run).enter rfl ⟨hgraph, rfl, rfl, rfl, rfl⟩ hfree hempty
    List.mem_cons_self

theorem adopt (horderly : office.Orderly) {suspended : SuspendedRun}
    {signal : ResumeSignal} (hfree : office.Free)
    (hclaim : (suspended, signal) ∈ office.claims) :
    Orderly { office with
      manager := (office.manager.adopt suspended signal).2
      claims := office.claims.erase (suspended, signal)
      workers := office.workers ++
        [.begin (office.manager.adopt suspended signal).1 suspended.graph
          (.resume suspended signal)] } := by
  obtain ⟨hdropped, hempty⟩ := horderly.drop hclaim
  obtain ⟨hsignal, hfit⟩ := horderly.claims_fit _ hclaim
  exact hdropped.enter rfl ⟨hfit, rfl, hsignal, rfl, rfl, rfl, rfl⟩ hfree hempty
    (horderly.mem_used_of_claim hclaim)

theorem cancel (horderly : office.Orderly) (run : RunId) :
    Orderly (office.cancel run) := by
  rcases office.cancel_cases run with ⟨token, heq⟩ | ⟨_, hclaim, heq⟩ | heq
  · rw [heq]
    exact horderly.signal token
  · rw [heq]
    exact horderly.noteTaken hclaim
  · rw [heq]
    exact horderly.take run

theorem turn (horderly : office.Orderly) {token : Token}
    {worker next : Worker} {manager : Manager σ} {entries : List Entry}
    (hworker : office.workers[token]? = some worker)
    (hturn : Turn office.Free office.manager worker manager next entries) :
    Orderly { office with
      manager
      workers := office.workers.set token next
      ledger := entries ++ office.ledger } := by
  have hmem := List.mem_of_getElem? hworker
  have hsound := horderly.sound worker hmem
  obtain ⟨hrun, htoken, -, -, -⟩ := hturn.same
  have hnext := hturn.sound hsound
  cases hturn.effect (fun hfree => hfree worker hmem) hsound with
  | quiet hlisted hactive =>
      exact horderly.stay hworker hrun htoken hnext (by simp [hactive]) hlisted
  | strikes hlisted hstruck =>
      exact horderly.strike hworker hrun htoken hnext hlisted hstruck
  | @saves suspended store hof hfit hsave hfaithful hactive hlisted hkept =>
      -- The leg lets go of its run before the store has it.
      have hput : Orderly { office with
          workers := office.workers.set token next } := by
        refine horderly.stay hworker hrun htoken hnext (by simp [hkept]) ?_
        rw [hlisted, (Bool.and_eq_true_iff.mp hactive).1]
      have hcount := active_set hworker hrun worker.task.run
      have honce := horderly.once worker.task.run
      simp only [hactive, hkept, decide_true, Bool.and_true, Bool.toNat_true,
        Bool.and_false, Bool.toNat_false] at hcount
      rw [← hof] at hcount honce ⊢
      refine hput.save hfit hsave hfaithful ?_ ?_
      · simp only [places, held, pending, active] at hcount honce ⊢
        omega
      · rw [hof]
        exact horderly.mem_used_of_worker hmem

theorem step (horderly : office.Orderly) (hstep : Step office later) :
    later.Orderly := by
  cases hstep with
  | submit hfree hfresh hsubmit => exact horderly.submit hfree hfresh hsubmit
  | claim hclaim => exact horderly.claim hclaim
  | @miss run _ _ => exact horderly.take run
  | adopt hfree hclaim => exact horderly.adopt hfree hclaim
  | cancel run hfree => exact horderly.cancel run
  | turn hworker hturn => exact horderly.turn hworker hturn

end Orderly

/-- A run that a leg has in hand is nowhere else. -/
theorem Orderly.alone (horderly : office.Orderly) {worker : Worker}
    (hworker : worker ∈ office.workers) (hactive : worker.isActive = true) :
    LawfulStore.keeps office.manager.store worker.task.run = false ∧
      (∀ claim ∈ office.claims, claim.1.run ≠ worker.task.run) ∧
      office.active worker.task.run = 1 := by
  have honce := horderly.once worker.task.run
  have hpos : 0 < office.active worker.task.run :=
    List.countP_pos_iff.mpr ⟨worker, hworker, by simp [hactive]⟩
  simp only [places] at honce
  have hheld : office.held worker.task.run = 0 := by omega
  have hpending : office.pending worker.task.run = 0 := by omega
  refine ⟨?_, ?_, by omega⟩
  · simpa [held] using hheld
  · intro claim hclaim
    simpa using List.countP_eq_zero.mp hpending claim hclaim

theorem Orderly.steps (horderly : office.Orderly)
    (hsteps : Steps office later) : later.Orderly := by
  induction hsteps with
  | refl => exact horderly
  | step _ hstep ih => exact ih.step hstep

theorem Reachable.orderly (hreach : Reachable office) : office.Orderly := by
  induction hreach with
  | opened hused hfit => exact orderly_opened hused hfit
  | step _ hstep ih => exact ih.step hstep

end Office

end Workflow
