import Workflow.Proofs.Manager.Found

/-!
# What a leg tells in one step

The event by which a run ends is the last one of its leg, and the leg that has
told it has only to settle.  A leg that has put its run aside tells one thing
more, that it did so, and until then it `owes` this.
-/

namespace Workflow

/-- Events with which a run has completed or failed. -/
def Event.isFinal (graph : Graph) (event : Event) : Bool :=
  event.isTerminal graph && event.kind != .suspended

/-- The report that a run was put aside. -/
def SuspendedRun.notice (suspended : SuspendedRun) : Event :=
  ⟨suspended.cursor, .suspended, Leg.suspendedPayload suspended⟩

theorem SuspendedRun.Restored.notice_eq {drops : Prop}
    {suspended restored : SuspendedRun}
    (hrestored : suspended.Restored drops restored) :
    restored.notice = suspended.notice := by
  cases hrestored <;> rfl

section shape

variable {graph : Graph} {beginning : Beginning} {told : List Event}
variable {outcome : Outcome} {refusal? : Json → Option String}

theorem Lead.not_isTerminal (hgraph : graph.WellFormed refusal?)
    (hfits : beginning.Fits graph) (hlead : Lead graph beginning told) :
    ∀ event ∈ told, event.isTerminal graph = false := by
  simpa [List.filter_eq_nil_iff] using hlead.filter_isTerminal hgraph hfits

/-- The terminal event of a leg is the last one. -/
theorem Shape.exists_concat (hgraph : graph.WellFormed refusal?)
    (hfits : beginning.Fits graph) (hshape : Shape graph beginning told outcome) :
    ∃ init event, told = init ++ [event] ∧
      (∀ earlier ∈ init, earlier.isTerminal graph = false) ∧
      event.kind = outcome.mark := by
  cases hshape with
  | refused _ => exact ⟨[], _, rfl, by simp, rfl⟩
  | rejected _ => exact ⟨[_], _, rfl, by simp, rfl⟩
  | @body _ lead _ _ hlead hending =>
      have hbefore := hlead.not_isTerminal hgraph hfits
      have hstarted : ∀ node, ∀ event ∈ lead ++ [Leg.startedEvent node],
          event.isTerminal graph = false := by
        intro node event hevent
        rcases List.mem_append.mp hevent with hevent | hevent
        · exact hbefore event hevent
        · obtain rfl := List.mem_singleton.mp hevent
          rfl
      have hconcat : ∀ node event, lead ++ [Leg.startedEvent node, event] =
          lead ++ [Leg.startedEvent node] ++ [event] := by simp
      cases hending with
      | completed _ _ => exact ⟨_, _, hconcat _ _, hstarted _, rfl⟩
      | suspended _ _ _ => exact ⟨_, _, hconcat _ _, hstarted _, rfl⟩
      | failed _ => exact ⟨_, _, rfl, hbefore, rfl⟩
      | failedInside _ => exact ⟨_, _, hconcat _ _, hstarted _, rfl⟩

theorem Shape.notice_mem {suspended : SuspendedRun}
    (hshape : Shape graph beginning told (.suspended suspended)) :
    suspended.notice ∈ told := by
  cases hshape with
  | body hlead hending =>
      cases hending with
      | suspended _ _ hcursor => simp [SuspendedRun.notice, hcursor]

/-- A leg tells of a resumption only if it begins with it. -/
theorem Lead.resumes (hlead : Lead graph beginning told) {event : Event}
    (hevent : event ∈ told) (hkind : event.kind = .resumed) :
    ∃ suspended signal, beginning = .resume suspended signal := by
  induction hlead with
  | start => cases hevent
  | approve _ => exact ⟨_, _, rfl⟩
  | pass _ _ _ ih =>
      rcases List.mem_append.mp hevent with hevent | hevent
      · exact ih hevent
      · rcases List.mem_pair.mp hevent with rfl | rfl <;> cases hkind

theorem Shape.resumes (hshape : Shape graph beginning told outcome)
    {event : Event} (hevent : event ∈ told) (hkind : event.kind = .resumed) :
    ∃ suspended signal, beginning = .resume suspended signal := by
  cases hshape with
  | refused _ =>
      obtain rfl := List.mem_singleton.mp hevent
      cases hkind
  | rejected _ => exact ⟨_, _, rfl⟩
  | body hlead hending =>
      rcases List.mem_append.mp hevent with hevent | hevent
      · exact hlead.resumes hevent hkind
      · cases hending with
        | failed _ =>
            obtain rfl := List.mem_singleton.mp hevent
            cases hkind
        | _ => rcases List.mem_pair.mp hevent with rfl | rfl <;> cases hkind

/-- Before its end a leg has told of the nodes that it went through, and maybe
of the start of one more. -/
theorem Reports.exists_lead {leg : Leg}
    (hreports : Reports graph beginning told leg)
    (hleg : ∀ outcome, leg ≠ .ended outcome) :
    ∃ lead rest, Lead graph beginning lead ∧ told = lead ++ rest ∧
      ∀ event ∈ rest, event.kind = .started := by
  have hstarted : ∀ node : Node, ∀ event ∈ [Leg.startedEvent node],
      event.kind = .started := by
    simp [Leg.startedEvent]
  cases leg with
  | between context next => exact ⟨told, [], hreports, by simp, by simp⟩
  | entered context node =>
      obtain ⟨lead, hlead, htold⟩ := hreports
      exact ⟨lead, _, hlead, htold, hstarted node⟩
  | working context node work =>
      obtain ⟨lead, hlead, htold⟩ := hreports
      exact ⟨lead, _, hlead, htold, hstarted node⟩
  | parking suspended =>
      obtain ⟨lead, node, config, hlead, htold, -⟩ := hreports
      exact ⟨lead, _, hlead, htold, hstarted node⟩
  | parked suspended =>
      obtain ⟨lead, node, config, hlead, htold, -⟩ := hreports
      exact ⟨lead, _, hlead, htold, hstarted node⟩
  | ended outcome => exact absurd rfl (hleg outcome)

theorem Reports.resumes {leg : Leg} (hreports : Reports graph beginning told leg)
    {event : Event} (hevent : event ∈ told) (hkind : event.kind = .resumed) :
    ∃ suspended signal, beginning = .resume suspended signal := by
  by_cases hended : ∃ outcome, leg = .ended outcome
  · obtain ⟨outcome, rfl⟩ := hended
    exact Shape.resumes hreports hevent hkind
  · obtain ⟨lead, rest, hlead, rfl, hrest⟩ :=
      hreports.exists_lead fun outcome hleg => hended ⟨outcome, hleg⟩
    rcases List.mem_append.mp hevent with hevent | hevent
    · exact hlead.resumes hevent hkind
    · simp [hrest event hevent] at hkind

theorem Reports.not_isTerminal {leg : Leg} (hgraph : graph.WellFormed refusal?)
    (hfits : beginning.Fits graph) (hreports : Reports graph beginning told leg)
    (hleg : ∀ outcome, leg ≠ .ended outcome) :
    ∀ event ∈ told, event.isTerminal graph = false := by
  obtain ⟨lead, rest, hlead, rfl, hrest⟩ := hreports.exists_lead hleg
  intro event hevent
  rcases List.mem_append.mp hevent with hevent | hevent
  · exact hlead.not_isTerminal hgraph hfits event hevent
  · simp [Event.isTerminal, hrest event hevent]

end shape

namespace Worker

variable {worker : Worker}

/-- Whether a leg has the suspension of its run still to report. -/
def owes (worker : Worker) : Bool :=
  match worker.task.stage with
  | .running _ (.parking _) | .running _ (.parked _) => true
  | _ => false

/-- Whether a leg has put its run aside. -/
def isAside (worker : Worker) : Bool :=
  match worker.task.stage with
  | .running _ (.parked _) | .running _ (.ended (.suspended _)) => true
  | .settled (.ok (.suspended _)) => true
  | _ => false

/-- Whether a leg has told that its run completed or failed, and has still to
settle. -/
def isEnding (worker : Worker) : Bool :=
  match worker.task.stage with
  | .running _ (.ended (.completed _)) | .running _ (.ended (.failed _ _)) => true
  | _ => false

theorem not_listed_of_aside (haside : worker.isAside = true) :
    worker.isListed = false := by
  unfold isAside at haside
  unfold isListed
  split at haside <;> simp_all [Stage.isListed]

theorem Finishes.not_listed (hfinishes : worker.Finishes) :
    worker.isListed = false := by
  obtain ⟨result, hsettled, -⟩ := hfinishes
  simp [isListed, hsettled, Stage.isListed]

theorem listed_of_ending (hending : worker.isEnding = true) :
    worker.isListed = true := by
  unfold isEnding at hending
  unfold isListed
  split at hending <;> simp_all [Stage.isListed]

/-- A leg that is in the table no longer has put its run aside or finished
it. -/
theorem aside_or_finishes (hlisted : worker.isListed = false) :
    worker.isAside = true ∨ worker.Finishes := by
  unfold isListed Stage.isListed at hlisted
  unfold isAside Finishes
  split at hlisted
  · simp_all
  · simp_all
  · next result hstage =>
      rcases result with error | ⟨_ | _ | suspended⟩ <;> simp_all
  · cases hlisted

/-- What a leg has put into the store, and aside as soon as it gives back the
lock. -/
inductive Puts (worker : Worker) (suspended : SuspendedRun) : Prop
  | parking {plan : Plan} (hgrasp : worker.grasp = .lock)
      (hstage : worker.task.stage = .running plan (.parking suspended))
  | parked {plan : Plan}
      (hstage : worker.task.stage = .running plan (.parked suspended))
  | ended {plan : Plan}
      (hstage : worker.task.stage = .running plan (.ended (.suspended suspended)))
  | settled (hstage : worker.task.stage = .settled (.ok (.suspended suspended)))

theorem Sound.resumes {event : Event} (hsound : worker.Sound)
    (hevent : event ∈ worker.told) (hkind : event.kind = .resumed) :
    ∃ suspended signal, worker.beginning = .resume suspended signal := by
  cases hstage : worker.task.stage with
  | submitted _ _ =>
      simp only [Sound, hstage] at hsound
      simp [hsound.2.2.2.1] at hevent
  | claimed _ _ =>
      simp only [Sound, hstage] at hsound
      exact ⟨_, _, hsound.2.2.2.2.1⟩
  | running plan leg =>
      exact (hsound.runs hstage).reports.resumes hevent hkind
  | settled result =>
      simp only [Sound, hstage] at hsound
      obtain ⟨-, outcome, -, -, -, hshape⟩ := hsound
      exact hshape.resumes hevent hkind

/-- A leg that has put its run aside and reported it has told so. -/
theorem Sound.notice_mem {suspended : SuspendedRun} (hsound : worker.Sound)
    (hputs : worker.Puts suspended) (howes : worker.owes = false) :
    suspended.notice ∈ worker.told := by
  cases hputs with
  | parking _ hstage => simp [owes, hstage] at howes
  | parked hstage => simp [owes, hstage] at howes
  | ended hstage =>
      exact Shape.notice_mem (hsound.runs hstage).reports
  | settled hstage =>
      simp only [Sound, hstage] at hsound
      obtain ⟨-, outcome, -, -, houtcome, hshape⟩ := hsound
      obtain rfl := Except.ok.inj houtcome
      exact hshape.notice_mem

end Worker

/-! ## Steps -/

section turn

variable {σ : Type} [SuspensionStore σ] [LawfulStore σ] {free : Prop}
variable {manager later : Manager σ} {worker next : Worker}
variable {entries : List Entry} {events : List Event}

theorem Turn.exists_told (hturn : Turn free manager worker later next entries) :
    ∃ events, next.told = worker.told ++ events := by
  cases hturn <;> exact ⟨_, rfl⟩

/-- A leg that is in the table no longer reports that it has put its run aside,
or settles with that. -/
theorem Turn.of_unlisted (hsound : worker.Sound)
    (hlisted : worker.isListed = false)
    (hturn : Turn free manager worker later next entries) :
    ∃ plan suspended,
      (worker.task.stage = .running plan (.parked suspended) ∧
        next = worker.goesOn plan (.parked suspended) () .nothing) ∨
      (worker.task.stage = .running plan (.ended (.suspended suspended)) ∧
        next = worker.after (.settled (.ok (.suspended suspended))) .nothing
          []) := by
  have hlists : ∀ {plan leg}, worker.task.stage = .running plan leg →
      (Stage.running plan leg).isListed ≠ true := by
    intro plan leg hstage
    simpa [Worker.isListed, hstage] using hlisted
  have hwatches : ∀ {plan leg}, worker.task.stage = .running plan leg →
      leg.watches ≠ true := by
    intro plan leg hstage hwatches
    simp [Worker.isListed_of_watches hstage hwatches] at hlisted
  cases hturn with
  | launch hopening =>
      simp [(hsound.opens_of_ok hopening).1.isListed] at hlisted
  | refused _ hopening => exact absurd hopening hsound.opening_ne_error
  | look hstage _ hlooks _ => exact absurd hlooks (hwatches hstage)
  | yield hstage _ hmove _ => exact absurd hmove.watches (hwatches hstage)
  | proceed hstage _ hmove => exact absurd hmove.watches (hwatches hstage)
  | wait hstage _ hworking =>
      exact absurd (Leg.watches_of_isWorking hworking) (hwatches hstage)
  | keep _ hstage _ _ => exact absurd rfl (hlists hstage)
  | refuse _ hstage _ => exact absurd rfl (hlists hstage)
  | release _ hstage => exact absurd rfl (hlists hstage)
  | report hstage => exact ⟨_, _, .inl ⟨hstage, rfl⟩⟩
  | @settle plan outcome _ hstage =>
      cases outcome with
      | suspended suspended => exact ⟨plan, suspended, .inr ⟨hstage, rfl⟩⟩
      | completed _ => exact absurd rfl (hlists hstage)
      | failed _ _ => exact absurd rfl (hlists hstage)

/-- A leg that holds the lock gives it back. -/
theorem Turn.of_lock (hsound : worker.Sound) (hfree : free → worker.grasp ≠ .lock)
    (hgrasp : worker.grasp = .lock)
    (hturn : Turn free manager worker later next entries) :
    ∃ plan suspended,
      worker.task.stage = .running plan (.parking suspended) ∧
        next = worker.goesOn plan (.parking suspended) none .nothing := by
  obtain ⟨plan, suspended, hparking⟩ := hsound.parking hgrasp
  cases hturn with
  | launch hopening =>
      have hnothing := (hsound.opens_of_ok hopening).1.grasp_eq hsound
      simp [hgrasp] at hnothing
  | refused hnone _ => exact absurd hgrasp (hfree hnone)
  | look _ hnothing _ _ => simp [hgrasp] at hnothing
  | yield _ hnothing _ _ => simp [hgrasp] at hnothing
  | proceed _ hclear _ => simp [hgrasp] at hclear
  | wait _ hclear _ => simp [hgrasp] at hclear
  | keep hnone _ _ _ => exact absurd hgrasp (hfree hnone)
  | refuse hnone _ _ => exact absurd hgrasp (hfree hnone)
  | release _ hstage => exact ⟨_, _, hstage, rfl⟩
  | report hstage => simp [hparking] at hstage
  | settle _ hstage => simp [hparking] at hstage

/-- A leg whose run is at its end settles with that. -/
theorem Turn.of_ending (hending : worker.isEnding = true)
    (hturn : Turn free manager worker later next entries) :
    next.told = worker.told ∧ next.Finishes := by
  have hended : ∀ {plan leg}, worker.task.stage = .running plan leg →
      ∃ outcome, leg = .ended outcome ∧ ∀ suspended,
        outcome ≠ .suspended suspended := by
    intro plan leg hstage
    rw [Worker.isEnding, hstage] at hending
    cases leg with
    | ended outcome =>
        refine ⟨outcome, rfl, ?_⟩
        rintro suspended rfl
        cases hending
    | _ => cases hending
  cases hturn with
  | launch hopening =>
      unfold Worker.isEnding at hending
      split at hending <;> simp_all [Task.opening?]
  | refused _ _ => exact ⟨by simp, _, rfl, by simp⟩
  | look hstage _ hlooks _ =>
      obtain ⟨_, rfl, -⟩ := hended hstage
      cases hlooks
  | yield hstage _ hmove _ =>
      obtain ⟨_, rfl, -⟩ := hended hstage
      cases hmove
  | proceed hstage _ hmove =>
      obtain ⟨_, rfl, -⟩ := hended hstage
      cases hmove
  | wait hstage _ hworking =>
      obtain ⟨_, rfl, -⟩ := hended hstage
      cases hworking
  | keep _ hstage _ _ => simpa using hended hstage
  | refuse _ hstage _ => simpa using hended hstage
  | release _ hstage => simpa using hended hstage
  | report hstage => simpa using hended hstage
  | settle _ hstage =>
      obtain ⟨outcome, hleg, houtcome⟩ := hended hstage
      obtain rfl := Leg.ended.inj hleg
      exact ⟨by simp, _, rfl, by simpa using houtcome⟩

theorem Turn.aside (hsound : worker.Sound) (haside : worker.isAside = true)
    (hturn : Turn free manager worker later next entries) :
    next.isAside = true ∧ (next.owes = true → worker.owes = true) := by
  obtain ⟨plan, suspended, ⟨hstage, rfl⟩ | ⟨hstage, rfl⟩⟩ :=
    hturn.of_unlisted hsound (Worker.not_listed_of_aside haside)
  · exact ⟨rfl, fun _ => by simp [Worker.owes, hstage]⟩
  · exact ⟨rfl, fun howes => by simp [Worker.owes] at howes⟩

/-- What a leg has put into the store it has put aside. -/
theorem Turn.puts {suspended : SuspendedRun} (hsound : worker.Sound)
    (hfree : free → worker.grasp ≠ .lock)
    (hturn : Turn free manager worker later next entries)
    (hputs : worker.Puts suspended) : next.Puts suspended := by
  have hrests : worker.isListed = false → next.Puts suspended := by
    intro hlisted
    obtain ⟨plan, other, ⟨hother, rfl⟩ | ⟨hother, rfl⟩⟩ :=
      hturn.of_unlisted hsound hlisted
    · cases hputs with
      | parked hstage =>
          obtain ⟨-, rfl⟩ : _ ∧ suspended = other := by
            simpa [hother] using hstage.symm
          exact .ended rfl
      | parking _ hstage => simp [hother] at hstage
      | ended hstage => simp [hother] at hstage
      | settled hstage => simp [hother] at hstage
    · cases hputs with
      | ended hstage =>
          obtain ⟨-, rfl⟩ : _ ∧ suspended = other := by
            simpa [hother] using hstage.symm
          exact .settled rfl
      | parking _ hstage => simp [hother] at hstage
      | parked hstage => simp [hother] at hstage
      | settled hstage => simp [hother] at hstage
  cases hputs with
  | parking hgrasp hstage =>
      obtain ⟨plan, other, hother, rfl⟩ := hturn.of_lock hsound hfree hgrasp
      obtain ⟨-, rfl⟩ : _ ∧ suspended = other := by
        simpa [hother] using hstage.symm
      exact .parked rfl
  | parked hstage =>
      exact hrests (by simp [Worker.isListed, hstage, Stage.isListed])
  | ended hstage =>
      exact hrests (by simp [Worker.isListed, hstage, Stage.isListed])
  | settled hstage =>
      exact hrests (by simp [Worker.isListed, hstage, Stage.isListed])

/-- A leg that is in the table no longer has only one thing to tell. -/
theorem Turn.tells_suspended (hsound : worker.Sound)
    (hlisted : worker.isListed = false)
    (hturn : Turn free manager worker later next entries)
    (htold : next.told = worker.told ++ events) :
    ∀ event ∈ events, event.kind = .suspended ∧ worker.owes = true := by
  obtain ⟨plan, suspended, ⟨hstage, rfl⟩ | ⟨hstage, rfl⟩⟩ :=
    hturn.of_unlisted hsound hlisted
  · obtain rfl : [⟨suspended.cursor, .suspended,
        Leg.suspendedPayload suspended⟩] = events :=
      List.append_cancel_left htold
    simp [Worker.owes, hstage]
  · obtain rfl : [] = events := List.append_cancel_left htold
    simp

theorem Turn.exists_running
    (hturn : Turn free manager worker later next entries)
    (htold : next.told = worker.told ++ events) (hevents : events ≠ []) :
    ∃ plan leg, next.task.stage = .running plan leg := by
  cases hturn with
  | refused _ _ => exact absurd (List.append_cancel_left htold).symm hevents
  | settle _ _ => exact absurd (List.append_cancel_left htold).symm hevents
  | _ => exact ⟨_, _, rfl⟩

/-- Only a leg that has its run in hand finishes it. -/
theorem Turn.active_of_finishes (hsound : worker.Sound)
    (hturn : Turn free manager worker later next entries)
    (hfinishes : next.Finishes) : worker.isActive = true := by
  obtain ⟨result, hsettled, hresult⟩ := hfinishes
  cases hturn with
  | refused _ hopening => exact absurd hopening hsound.opening_ne_error
  | @settle plan outcome _ hstage =>
      obtain rfl : .ok outcome = result := Stage.settled.inj hsettled
      have hgrasp : worker.grasp ≠ .lock := by
        intro hgrasp
        obtain ⟨_, _, hparking⟩ := hsound.parking hgrasp
        simp [hparking] at hstage
      refine worker.isActive_of_listed (Worker.listed_of_ending ?_) hgrasp
      cases outcome with
      | suspended suspended => exact absurd rfl (hresult suspended)
      | completed _ => simp [Worker.isEnding, hstage]
      | failed _ _ => simp [Worker.isEnding, hstage]
  | _ => cases hsettled

/-- The event by which a run ends is the last one that its leg tells. -/
theorem Turn.of_final {init rest : List Event} {event : Event}
    (hsound : worker.Sound)
    (hturn : Turn free manager worker later next entries)
    (htold : next.told = worker.told ++ (init ++ event :: rest))
    (hfinal : event.isFinal worker.graph = true) :
    rest = [] ∧ next.isEnding = true := by
  obtain ⟨hterminal, hkind⟩ := Bool.and_eq_true_iff.mp hfinal
  obtain ⟨plan, leg, hstage⟩ := hturn.exists_running htold (by simp)
  have hruns := (hturn.sound hsound).runs hstage
  have hgraph : plan.graph = worker.graph :=
    hruns.graph_eq.trans hturn.same.2.2.1
  have hmem : event ∈ next.told := by simp [htold]
  have hended : ∃ outcome, leg = .ended outcome := by
    by_contra hleg
    have hnone := hruns.reports.not_isTerminal hruns.wellFormed hruns.begun
      (fun outcome houtcome => hleg ⟨outcome, houtcome⟩) event hmem
    simp [hgraph, hterminal] at hnone
  obtain ⟨outcome, rfl⟩ := hended
  obtain ⟨before, last, hlast, hbefore, hmark⟩ :=
    Shape.exists_concat hruns.wellFormed hruns.begun hruns.reports
  rw [htold, ← List.append_assoc] at hlast
  rcases List.eq_nil_or_concat rest with rfl | ⟨rest, final, rfl⟩
  · obtain ⟨-, hlast⟩ := List.append_inj' hlast rfl
    obtain rfl : event = last := List.cons.inj hlast |>.1
    refine ⟨rfl, ?_⟩
    cases outcome with
    | suspended _ => simp [hmark, Outcome.mark] at hkind
    | completed _ => simp [Worker.isEnding, hstage]
    | failed _ _ => simp [Worker.isEnding, hstage]
  · -- An event that others follow is not terminal.
    have hlast : (worker.told ++ init ++ event :: rest) ++ [final] =
        before ++ [last] := by simpa using hlast
    have hinit := (List.append_inj' hlast rfl).1
    have hnone := hbefore event (by simp [← hinit])
    simp [hgraph, hterminal] at hnone

end turn

end Workflow
