import Workflow.Proofs.Manager.Bulletin
import Workflow.Proofs.Manager.Origin

/-!
# What an observer of all runs sees

On the bus a resumption comes after the report of the suspension that it
answers, and nothing of a run comes after its end, but for what hasty legs still
have to report (`Bulletin.Reachable.ordered`).  That can come after either
(`Twice.seen_late`).
-/

namespace Workflow

namespace Bulletin

variable {σ : Type} [SuspensionStore σ] [LawfulStore σ]
variable {bulletin later : Bulletin σ} {run : RunId} {token : Token}
variable {worker : Worker}

/-! ## The end of a run -/

/-- The items with which a run has completed, failed or been discarded. -/
inductive Ends (bulletin : Bulletin σ) : Item → Prop
  | told {run : RunId} {token : Token} {event : Event} {worker : Worker}
      (hworker : bulletin.office.workers[token]? = some worker)
      (hfinal : event.isFinal worker.graph = true) :
      Ends bulletin ⟨run, some token, event⟩
  | discarded {run : RunId} {event : Event} : Ends bulletin ⟨run, none, event⟩

/-- An item ends its run from the beginning, or never. -/
theorem Booked.ends_before (hbooked : bulletin.Booked)
    (hstep : Step bulletin later) {item : Item} (hitem : item ∈ bulletin.items)
    (hends : later.Ends item) : bulletin.Ends item := by
  cases hends with
  | discarded => exact .discarded
  | @told _ token _ found hfound hfinal =>
      obtain ⟨worker, hworker, -⟩ := hbooked.sources _ hitem token rfl
      obtain ⟨same, hsame, hlasts⟩ := hstep.leg hworker
      obtain rfl := Option.some.inj (hsame.symm.trans hfound)
      exact .told hworker (hlasts.graph_eq ▸ hfinal)

/-- The end of a run has been published: what there is of it still to tell are
the suspensions of hasty legs. -/
structure Closed (bulletin : Bulletin σ) (run : RunId) : Prop where
  excused : ∀ {token : Token} {worker : Worker},
    bulletin.office.workers[token]? = some worker → worker.task.run = run →
      worker.isListed = false → worker.owes = true → token ∈ bulletin.hasty
  ended : bulletin.office.Gone run ∨ ∃ worker ∈ bulletin.office.workers,
    worker.task.run = run ∧ worker.isEnding = true

namespace Closed

/-- The leg that is in the table has only to settle. -/
theorem ending (hclosed : bulletin.Closed run)
    (horderly : bulletin.office.Orderly)
    (hworker : bulletin.office.workers[token]? = some worker)
    (hrun : worker.task.run = run) (hlisted : worker.isListed = true) :
    worker.isEnding = true := by
  rcases hclosed.ended with hgone | ⟨found, hfound, hof, hending⟩
  · have hunlisted := hgone.unlisted worker (List.mem_of_getElem? hworker) hrun
    simp [hlisted] at hunlisted
  · obtain ⟨other, hother⟩ := List.mem_iff_getElem?.mp hfound
    obtain rfl := horderly.eq_of_listed hworker hother (hof.trans hrun.symm)
      hlisted (Worker.listed_of_ending hending)
    obtain rfl := Option.some.inj (hworker.symm.trans hother)
    exact hending

/-- What a leg of the run tells is its suspension, if it is hasty. -/
theorem late (hclosed : bulletin.Closed run)
    (horderly : bulletin.office.Orderly) {next : Worker} {manager : Manager σ}
    {entries : List Entry} {events : List Event}
    (hworker : bulletin.office.workers[token]? = some worker)
    (hrun : worker.task.run = run)
    (hturn : Turn bulletin.office.Free bulletin.office.manager worker manager
      next entries)
    (htold : next.told = worker.told ++ events) :
    ∀ event ∈ events, event.kind = .suspended ∧ token ∈ bulletin.hasty := by
  intro event hevent
  have hsound := horderly.sound worker (List.mem_of_getElem? hworker)
  cases hlisted : worker.isListed with
  | true =>
      have hending := hclosed.ending horderly hworker hrun hlisted
      rw [(hturn.of_ending hending).1] at htold
      simp [List.self_eq_append_right.mp htold] at hevent
  | false =>
      obtain ⟨hkind, howes⟩ :=
        hturn.tells_suspended hsound hlisted htold event hevent
      exact ⟨hkind, hclosed.excused hworker hrun hlisted howes⟩

theorem not_discarded (hclosed : bulletin.Closed run)
    (horderly : bulletin.office.Orderly) (event : Event) :
    (bulletin.office.manager.cancel run).1 ≠ .ok (.discarded event) := by
  rcases hclosed.ended with hgone | ⟨worker, hworker, hrun, hending⟩
  · simp [hgone.cancel horderly]
  · obtain ⟨token, htoken⟩ := List.mem_iff_getElem?.mp hworker
    have hlive := horderly.listed_iff.mpr
      ⟨worker, htoken, hrun, Worker.listed_of_ending hending⟩
    simp [bulletin.office.manager.cancel_of_live hlive]

theorem step (hclosed : bulletin.Closed run) (hreach : bulletin.Reachable)
    (hstep : Step bulletin later) : later.Closed run := by
  have horderly := hreach.office.orderly
  have hgone : bulletin.office.Gone run → later.office.Gone run :=
    fun hgone => hgone.step horderly hstep.office
  have hlater := hreach.office.step hstep.office
  cases hstep with
  | quiet hstep hworkers hledger =>
      constructor
      · intro token worker hworker hrun hlisted howes
        cases horderly.registers hstep hworkers hledger with
        | none hworkers _ =>
            exact hclosed.excused (hworkers ▸ hworker) hrun hlisted howes
        | one hworkers _ hactive _ _ =>
            rw [hworkers, getElem?_concat_iff] at hworker
            rcases hworker with hworker | ⟨-, rfl⟩
            · exact hclosed.excused hworker hrun hlisted howes
            · simp [Worker.isActive, hlisted] at hactive
      · refine hclosed.ended.imp hgone ?_
        rintro ⟨worker, hworker, hof⟩
        exact ⟨worker, hworkers.subset hworker, hof⟩
  | claim _ =>
      refine ⟨fun hworker hrun hlisted howes => ?_, hclosed.ended.imp hgone id⟩
      exact List.mem_append_right _
        (hclosed.excused hworker hrun hlisted howes)
  | discard _ _ =>
      refine ⟨fun hworker hrun hlisted howes => ?_, hclosed.ended.imp hgone id⟩
      exact List.mem_append_right _
        (hclosed.excused hworker hrun hlisted howes)
  | @turn token worker next _ _ events hworker hturn htold =>
      have hmem := List.mem_of_getElem? hworker
      have hsound := horderly.sound worker hmem
      have hnext : next ∈ bulletin.office.workers.set token next :=
        List.mem_of_getElem? (getElem?_set_self_of_getElem? hworker)
      constructor
      · intro other found hfound hrun hunlisted howes
        rcases (getElem?_set_iff hworker).mp hfound with ⟨rfl, rfl⟩ | ⟨-, hfound⟩
        · have hrun := hturn.same.1.symm.trans hrun
          cases hlisted : worker.isListed with
          | true =>
              have hending := hclosed.ending horderly hworker hrun hlisted
              obtain ⟨-, result, hsettled, -⟩ := hturn.of_ending hending
              simp [Worker.owes, hsettled] at howes
          | false =>
              rcases worker.aside_or_finishes hlisted with haside | hfinishes
              · have howed := (hturn.aside hsound haside).2 howes
                exact hclosed.excused hworker hrun hlisted howed
              · obtain ⟨result, hsettled, -⟩ := hfinishes
                exact absurd hsettled hturn.stage_ne_settled
        · exact hclosed.excused hfound hrun hunlisted howes
      · rcases hclosed.ended with hdone | ⟨found, hfound, hrun, hending⟩
        · exact .inl (hgone hdone)
        · obtain ⟨other, hother⟩ := List.mem_iff_getElem?.mp hfound
          by_cases hsame : other = token
          · subst hsame
            obtain rfl := Option.some.inj (hworker.symm.trans hother)
            obtain ⟨-, hfinishes⟩ := hturn.of_ending hending
            rw [← hrun, ← hturn.same.1]
            exact .inl (hlater.gone_of_finishes hnext hfinishes)
          · refine .inr ⟨found, List.mem_of_getElem?
              ((getElem?_set_iff hworker).mpr (.inr ⟨hsame, hother⟩)), hrun,
              hending⟩

end Closed

/-- A leg that has told the end of its run has closed it. -/
theorem Reachable.closed_of_ending (hreach : bulletin.Reachable)
    (hworker : bulletin.office.workers[token]? = some worker)
    (hending : worker.isEnding = true) : bulletin.Closed worker.task.run := by
  have hlisted := Worker.listed_of_ending hending
  refine ⟨?_, .inr ⟨worker, List.mem_of_getElem? hworker, rfl, hending⟩⟩
  intro other found hfound hrun hunlisted howes
  rcases Nat.lt_trichotomy other token with hlt | rfl | hlt
  · exact (hreach.tidy.superseded hlt hfound hworker hrun).2 howes
  · obtain rfl := Option.some.inj (hworker.symm.trans hfound)
    simp [hlisted] at hunlisted
  · -- A leg that another one follows is in the table no longer.
    have haside := (hreach.tidy.superseded hlt hworker hfound hrun.symm).1
    simp [Worker.not_listed_of_aside haside] at hlisted

/-- A run that has been discarded is closed. -/
theorem Reachable.closed_of_discarded (hreach : bulletin.Reachable)
    {event : Event} (hanswer : (bulletin.office.manager.cancel run).1 =
      .ok (.discarded event)) :
    Closed { office := bulletin.office.cancel run
             items := bulletin.items ++ [⟨run, none, event⟩]
             hasty := bulletin.office.owing run ++ bulletin.hasty } run := by
  have horderly := hreach.office.orderly
  have hcancels := bulletin.office.manager.cancels run
  rw [hanswer] at hcancels
  obtain ⟨suspended, hlive, hclaim, -, hlater⟩ := hcancels.of_discarded
  refine ⟨fun hworker hrun _ howes => ?_,
    .inl (horderly.gone_of_discarded hlive hclaim hlater)⟩
  exact List.mem_append_left _ (horderly.mem_owing hworker hrun howes)

theorem Reachable.closed (hreach : bulletin.Reachable) :
    ∀ item ∈ bulletin.items, bulletin.Ends item → bulletin.Closed item.run := by
  induction hreach with
  | opened _ => simp
  | @step bulletin later hreach hstep ih =>
      intro item hitem hends
      have hbefore : item ∈ bulletin.items → later.Closed item.run :=
        fun hmem => (ih item hmem
          (hreach.booked.ends_before hstep hmem hends)).step hreach hstep
      have hlater : later.Reachable := hreach.step hstep
      cases hstep with
      | quiet _ _ _ => exact hbefore hitem
      | claim _ => exact hbefore hitem
      | discard _ hanswer =>
          rcases List.mem_append.mp hitem with hitem | hitem
          · exact hbefore hitem
          · obtain rfl := List.mem_singleton.mp hitem
            exact hreach.closed_of_discarded hanswer
      | @turn token worker next _ _ events hworker hturn htold =>
          rcases List.mem_append.mp hitem with hitem | hitem
          · exact hbefore hitem
          · obtain ⟨event, hevent, rfl⟩ := List.mem_map.mp hitem
            have hnext : (bulletin.office.workers.set token next)[token]? =
                some next := getElem?_set_self_of_getElem? hworker
            obtain ⟨init, rest, rfl⟩ := List.append_of_mem hevent
            cases hends with
            | @told _ _ _ found hfound hfinal =>
                obtain rfl := Option.some.inj (hnext.symm.trans hfound)
                rw [hturn.same.2.2.1] at hfinal
                have hsound := hreach.office.orderly.sound worker
                  (List.mem_of_getElem? hworker)
                obtain ⟨-, hending⟩ := hturn.of_final hsound htold hfinal
                have hclosed := hlater.closed_of_ending hnext hending
                rwa [hturn.same.1] at hclosed

/-! ## The order of the items -/

/-- What a hasty leg reports after its run was taken out of the store. -/
def IsLate (bulletin : Bulletin σ) (item : Item) : Prop :=
  item.event.kind = .suspended ∧ ∃ token ∈ bulletin.hasty,
    item.source = some token

/-- The leg of a token has resumed what an earlier leg of its run has put
aside. -/
inductive Answers (bulletin : Bulletin σ) (token earlier : Token)
    (restored : SuspendedRun) : Prop
  | intro {worker found : Worker} {signal : ResumeSignal}
      {suspended : SuspendedRun}
      (hworker : bulletin.office.workers[token]? = some worker)
      (hbeginning : worker.beginning = .resume restored signal)
      (hlt : earlier < token)
      (hfound : bulletin.office.workers[earlier]? = some found)
      (hrun : found.task.run = worker.task.run)
      (hputs : found.Puts suspended)
      (hrestored : suspended.Restored True restored)

/-- No leg of the run comes before the one of a token. -/
def IsFirst (bulletin : Bulletin σ) (run : RunId) (token : Token) : Prop :=
  ∀ earlier < token, ∀ worker, bulletin.office.workers[earlier]? = some worker →
    worker.task.run ≠ run

/-- All runs are seen in order, apart from the suspensions of hasty legs. -/
structure Ordered (bulletin : Bulletin σ) : Prop where
  /-- Before a resumption the suspension has been reported that it answers,
  unless that was in the store before all legs of the run. -/
  answered : ∀ {before after : List Item} {item : Item} {token : Token},
    bulletin.items = before ++ item :: after → item.event.kind = .resumed →
      item.source = some token →
      bulletin.IsFirst item.run token ∨
        ∃ earlier suspended, bulletin.Answers token earlier suspended ∧
          (earlier ∈ bulletin.hasty ∨
            ⟨item.run, some earlier, suspended.notice⟩ ∈ before)
  /-- After the end of a run there is nothing else of it. -/
  last : bulletin.items.Pairwise fun item later =>
    bulletin.Ends item → later.run = item.run → bulletin.IsLate later

theorem IsLate.step {item : Item} (hlate : bulletin.IsLate item)
    (hstep : Step bulletin later) : later.IsLate item := by
  obtain ⟨hkind, token, htoken, hsource⟩ := hlate
  exact ⟨hkind, token, hstep.hasty_subset htoken, hsource⟩

theorem Step.puts (hreach : bulletin.Reachable) (hstep : Step bulletin later)
    {suspended : SuspendedRun}
    (hworker : bulletin.office.workers[token]? = some worker)
    (hputs : worker.Puts suspended) :
    ∃ found, later.office.workers[token]? = some found ∧
      found.task.run = worker.task.run ∧ found.Puts suspended := by
  have hmem := List.mem_of_getElem? hworker
  rcases hstep.office.worker hworker with hsame | ⟨_, next, _, hturn, heq⟩
  · exact ⟨worker, hsame, rfl, hputs⟩
  · refine ⟨next, ?_, hturn.same.1, ?_⟩
    · rw [heq]
      exact getElem?_set_self_of_getElem? hworker
    · exact hturn.puts (hreach.office.orderly.sound worker hmem)
        (fun hfree => hfree worker hmem) hputs

theorem Answers.step {earlier : Token} {restored : SuspendedRun}
    (hanswers : bulletin.Answers token earlier restored)
    (hreach : bulletin.Reachable) (hstep : Step bulletin later) :
    later.Answers token earlier restored := by
  obtain ⟨hworker, hbeginning, hlt, hfound, hrun, hputs, hrestored⟩ := hanswers
  obtain ⟨next, hnext, hlasts⟩ := hstep.leg hworker
  obtain ⟨last, hlast, hof, hput⟩ := hstep.puts hreach hfound hputs
  exact .intro hnext (hlasts.beginning_eq.trans hbeginning) hlt hlast
    (hof.trans (hrun.trans hlasts.run_eq.symm)) hput hrestored

theorem IsFirst.step (hfirst : bulletin.IsFirst run token)
    (hstep : Step bulletin later)
    (hbound : token ≤ bulletin.office.workers.length) :
    later.IsFirst run token := by
  intro earlier hlt worker hworker
  obtain ⟨found, hfound, hlasts⟩ :=
    hstep.leg (List.getElem?_eq_getElem (hlt.trans_le hbound))
  obtain rfl := Option.some.inj (hfound.symm.trans hworker)
  rw [hlasts.run_eq]
  exact hfirst earlier hlt _ (List.getElem?_eq_getElem (hlt.trans_le hbound))

/-- What a leg resumes comes from an earlier leg. -/
theorem Reachable.answers [ListingStore σ] (hreach : bulletin.Reachable)
    {restored : SuspendedRun} {signal : ResumeSignal}
    (hworker : bulletin.office.workers[token]? = some worker)
    (hbeginning : worker.beginning = .resume restored signal) :
    bulletin.IsFirst worker.task.run token ∨
      ∃ earlier, bulletin.Answers token earlier restored := by
  obtain ⟨hrun, hcomes⟩ := hreach.office.traced.begun hworker hbeginning
  cases hcomes with
  | put hmem hof hputs hrestored =>
      obtain ⟨earlier, hfound⟩ := List.mem_iff_getElem?.mp hmem
      rw [List.getElem?_take] at hfound
      split at hfound
      next hlt =>
        exact .inr ⟨earlier, .intro hworker hbeginning hlt hfound
          (hof.trans hrun) hputs hrestored⟩
      next => cases hfound
  | first hnone =>
      refine .inl fun earlier hlt found hfound => ?_
      rw [← hrun]
      refine hnone found (List.mem_of_getElem? (i := earlier) ?_)
      rwa [List.getElem?_take_of_lt hlt]

/-- A leg that another one follows has reported its suspension, unless it is
hasty. -/
theorem Answers.reported {earlier : Token} {restored : SuspendedRun}
    (hanswers : bulletin.Answers token earlier restored)
    (hreach : bulletin.Reachable)
    (hworker : bulletin.office.workers[token]? = some worker) :
    earlier ∈ bulletin.hasty ∨
      ⟨worker.task.run, some earlier, restored.notice⟩ ∈ bulletin.items := by
  obtain ⟨hsame, -, hlt, hfound, hrun, hputs, hrestored⟩ := hanswers
  obtain rfl := Option.some.inj (hsame.symm.trans hworker)
  obtain ⟨-, howes⟩ := hreach.tidy.superseded hlt hfound hworker hrun
  by_cases hhasty : earlier ∈ bulletin.hasty
  · exact .inl hhasty
  · have hsound := hreach.office.orderly.sound _ (List.mem_of_getElem? hfound)
    have htold := hsound.notice_mem hputs
      (Bool.eq_false_iff.mpr fun hstill => hhasty (howes hstill))
    rw [hrestored.notice_eq, ← hrun]
    exact .inr (hreach.booked.told hfound _ htold)

theorem Ordered.last_step (hordered : bulletin.Ordered)
    (hreach : bulletin.Reachable) (hstep : Step bulletin later) :
    later.items.Pairwise fun item next =>
      later.Ends item → next.run = item.run → later.IsLate next := by
  have hbooked := hreach.booked
  have horderly := hreach.office.orderly
  have hlate : ∀ {item}, bulletin.IsLate item → later.IsLate item :=
    fun hlate => hlate.step hstep
  have hends : ∀ {item}, item ∈ bulletin.items → later.Ends item →
      bulletin.Ends item := fun hitem => hbooked.ends_before hstep hitem
  have hbefore : bulletin.items.Pairwise fun item next =>
      later.Ends item → next.run = item.run → later.IsLate next :=
    hordered.last.imp_of_mem fun hitem _ hold hend hrun =>
      hlate (hold (hends hitem hend) hrun)
  cases hstep with
  | quiet _ _ _ => exact hbefore
  | claim _ => exact hbefore
  | @discard run event _ hanswer =>
      refine List.pairwise_append.mpr ⟨hbefore, List.pairwise_singleton _ _, ?_⟩
      intro item hitem next hnext hend hrun
      obtain rfl := List.mem_singleton.mp hnext
      have hclosed := hreach.closed item hitem (hends hitem hend)
      rw [← hrun] at hclosed
      exact absurd hanswer (hclosed.not_discarded horderly event)
  | @turn token worker next _ _ events hworker hturn htold =>
      have hsound := horderly.sound worker (List.mem_of_getElem? hworker)
      refine List.pairwise_append.mpr ⟨hbefore, ?_, ?_⟩
      · -- The end of a run is the last thing that its leg tells.
        refine List.pairwise_map.mpr (List.pairwise_iff_forall_sublist.mpr ?_)
        intro event other hsublist hend _
        obtain ⟨front, back, rfl, hfront, hback⟩ :=
          List.cons_sublist_iff.mp hsublist
        obtain ⟨init, rest, rfl⟩ := List.append_of_mem hfront
        cases hend with
        | @told _ _ _ found hfound hfinal =>
            have hnext : (bulletin.office.workers.set token next)[token]? =
                some next := getElem?_set_self_of_getElem? hworker
            obtain rfl := Option.some.inj (hnext.symm.trans hfound)
            rw [hturn.same.2.2.1] at hfinal
            rw [List.append_assoc, List.cons_append] at htold
            obtain ⟨hnone, -⟩ := hturn.of_final hsound htold hfinal
            obtain ⟨-, rfl⟩ := List.append_eq_nil_iff.mp hnone
            simp at hback
      · intro item hitem late hlater hend hrun
        obtain ⟨event, hevent, rfl⟩ := List.mem_map.mp hlater
        have hclosed := hreach.closed item hitem (hends hitem hend)
        obtain ⟨hkind, hhasty⟩ :=
          hclosed.late horderly hworker hrun hturn htold event hevent
        exact ⟨hkind, token, hhasty, rfl⟩

/-- An item is among the old ones, or among the new ones after all the old
ones. -/
theorem eq_append_cases {items new before after : List Item} {item : Item}
    (heq : items ++ new = before ++ item :: after) :
    (∃ rest, items = before ++ item :: rest) ∨ items ⊆ before ∧ item ∈ new := by
  rcases List.append_eq_append_iff.mp heq with ⟨mid, rfl, rfl⟩ | ⟨mid, rfl, hmid⟩
  · exact .inr ⟨List.subset_append_left _ _, by simp⟩
  · cases mid with
    | nil =>
        obtain rfl : item :: after = new := hmid
        exact .inr ⟨by simp, List.mem_cons_self⟩
    | cons first rest =>
        obtain ⟨rfl, -⟩ := List.cons.inj hmid
        exact .inl ⟨rest, rfl⟩

theorem Ordered.answered_step [ListingStore σ] (hordered : bulletin.Ordered)
    (hreach : bulletin.Reachable) (hstep : Step bulletin later)
    {before after : List Item} {item : Item} {token : Token}
    (hitems : later.items = before ++ item :: after)
    (hkind : item.event.kind = .resumed) (hsource : item.source = some token) :
    later.IsFirst item.run token ∨
      ∃ earlier suspended, later.Answers token earlier suspended ∧
        (earlier ∈ later.hasty ∨
          ⟨item.run, some earlier, suspended.notice⟩ ∈ before) := by
  have hstays : ∀ {earlier suspended},
      bulletin.Answers token earlier suspended →
        later.Answers token earlier suspended :=
    fun hanswers => hanswers.step hreach hstep
  have hfirst : ∀ {worker}, bulletin.office.workers[token]? = some worker →
      bulletin.IsFirst item.run token → later.IsFirst item.run token :=
    fun hworker hfirst =>
      hfirst.step hstep (List.getElem?_eq_some_iff.mp hworker).1.le
  have hold : ∀ rest, bulletin.items = before ++ item :: rest →
      later.IsFirst item.run token ∨
        ∃ earlier suspended, later.Answers token earlier suspended ∧
          (earlier ∈ later.hasty ∨
            ⟨item.run, some earlier, suspended.notice⟩ ∈ before) := by
    intro rest hitems
    obtain ⟨worker, hworker, -⟩ :=
      hreach.booked.sources item (by simp [hitems]) token hsource
    refine (hordered.answered hitems hkind hsource).imp (hfirst hworker) ?_
    rintro ⟨earlier, suspended, hanswers, hreported⟩
    exact ⟨earlier, suspended, hstays hanswers,
      hreported.imp_left fun hhasty => hstep.hasty_subset hhasty⟩
  cases hstep with
  | quiet _ _ _ => exact hold after hitems
  | claim _ => exact hold after hitems
  | discard _ _ =>
      rcases eq_append_cases hitems with ⟨rest, hitems⟩ | ⟨-, hnew⟩
      · exact hold rest hitems
      · obtain rfl := List.mem_singleton.mp hnew
        cases hsource
  | @turn moved worker next _ _ events hmoved hturn htold =>
      rcases eq_append_cases hitems with ⟨rest, hitems⟩ | ⟨hsubset, hnew⟩
      · exact hold rest hitems
      · obtain ⟨event, hevent, rfl⟩ := List.mem_map.mp hnew
        obtain rfl := Option.some.inj hsource
        have hsound := hreach.office.orderly.sound worker
          (List.mem_of_getElem? hmoved)
        obtain ⟨suspended, signal, hbeginning⟩ := (hturn.sound hsound).resumes
          (by simp [htold, hevent]) hkind
        rw [hturn.same.2.2.2.1] at hbeginning
        refine (hreach.answers hmoved hbeginning).imp (hfirst hmoved) ?_
        rintro ⟨earlier, hanswers⟩
        exact ⟨earlier, suspended, hstays hanswers,
          (hanswers.reported hreach hmoved).imp_right fun hmem => hsubset hmem⟩

theorem Ordered.step [ListingStore σ] (hordered : bulletin.Ordered)
    (hreach : bulletin.Reachable) (hstep : Step bulletin later) :
    later.Ordered :=
  ⟨hordered.answered_step hreach hstep, hordered.last_step hreach hstep⟩

/-- In every order of what legs, clients and sweeps do, the runs are seen in
order: a resumption after the suspension that it answers, and nothing of a run
after its end, but for the suspensions of legs whose run was taken out of the
store before they had reported it. -/
theorem Reachable.ordered [ListingStore σ] (hreach : bulletin.Reachable) :
    bulletin.Ordered := by
  induction hreach with
  | opened _ => constructor <;> simp
  | step hreach hstep ih => exact ih.step hreach hstep

end Bulletin

/-! ## A run that is resumed at once -/

namespace Twice

def refusal : ResumeSignal :=
  ⟨"run", .reject, none⟩

/-- A leg that has resumed the run with a refusal, before it has settled. -/
def refused (token : Token) : Worker :=
  (answering refusal token).after
    (.running plan (.ended (.failed "ask" (.rejected "ask" none)))) .nothing
    [⟨"ask", .resumed, refusal.payload⟩,
      ⟨"ask", .error, Error.payload (.rejected "ask" none)⟩]

/-- The run has failed before its first leg has reported that it was put
aside. -/
def overtaken : Office MemoryStore where
  manager := (stored.manager.resume refusal).2
  claims := []
  workers := [waiting [], refused 1]
  used := ["run"]
  ledger := [.taken "run", .saved "run"]

theorem refused_reachable {later : Office MemoryStore} {token : Token}
    (hreach : (later.put token (answering refusal token)).Reachable)
    (hlt : token < later.workers.length)
    (hlimits : later.manager.limits = .standard) :
    (later.put token (refused token)).Reachable := by
  have hlaunch : Turn (later.put token (answering refusal token)).Free
      later.manager (answering refusal token) later.manager (refused token)
      [] :=
    .launch (by rw [hlimits]; rfl)
  exact hreach.step (.put hlt hlaunch)

theorem overtaken_reachable : overtaken.Reachable := by
  have hclaimed := stored_reachable.step
    (@Office.Step.claim _ _ _ stored refusal (first []) rfl)
  have hadopted := hclaimed.step
    (.adopt (free_of_workers rfl) List.mem_cons_self)
  have hrefusing : (overtaken.put 1 (answering refusal 1)).Reachable := hadopted
  exact refused_reachable hrefusing (by decide) rfl

theorem ordered_overtaken : ∃ items hasty,
    (Bulletin.mk overtaken items hasty).Reachable ∧
      (Bulletin.mk overtaken items hasty).Ordered := by
  obtain ⟨items, hasty, hreach⟩ := Bulletin.exists_reachable overtaken_reachable
  exact ⟨items, hasty, hreach, hreach.ordered⟩

/-- The run has failed in an office that has found it in its store. -/
def reopened : Office MemoryStore where
  manager := ((Manager.create .standard stored.manager.store).resume refusal).2
  claims := []
  workers := [refused 0]
  used := ["run"]
  ledger := [.taken "run"]

theorem reopened_reachable : reopened.Reachable := by
  have hopened : (Office.opened .standard stored.manager.store
      ["run"]).Reachable := by
    refine .opened (fun run hkeeps => ?_) fun _ _ =>
      stored_reachable.orderly.offers_fit
    obtain ⟨kept, hkept, rfl⟩ := Layout.keeps_iff.mp hkeeps
    obtain rfl := List.mem_singleton.mp hkept
    exact List.mem_singleton_self _
  have hclaimed := hopened.step
    (@Office.Step.claim _ _ _ _ refusal (first []) rfl)
  have hadopted := hclaimed.step
    (.adopt (free_of_workers rfl) List.mem_cons_self)
  have hrefusing : (reopened.put 0 (answering refusal 0)).Reachable := hadopted
  exact refused_reachable hrefusing (by decide) rfl

/-- A leg reports that it has put the run aside after the run has been resumed
and has failed; and if no leg of the office has put it aside nothing of the kind
is reported at all. -/
theorem seen_late : (∃ bulletin : Bulletin MemoryStore, bulletin.Reachable ∧
    bulletin.Answers 1 0 (first []) ∧ ∃ items,
      bulletin.items = items ++ [⟨"run", some 0, (first []).notice⟩] ∧
      ⟨"run", some 0, (first []).notice⟩ ∉ items ∧
      ⟨"run", some 1, ⟨"ask", .resumed, refusal.payload⟩⟩ ∈ items ∧
      ∃ ended ∈ items, ended.run = "run" ∧ bulletin.Ends ended) ∧
    ∃ bulletin : Bulletin MemoryStore, bulletin.Reachable ∧
      ⟨"run", some 0, ⟨"ask", .resumed, refusal.payload⟩⟩ ∈ bulletin.items ∧
      ∀ token, ⟨"run", some token, (first []).notice⟩ ∉ bulletin.items := by
  constructor
  · obtain ⟨items, hasty, hreach⟩ :=
      Bulletin.exists_reachable overtaken_reachable
    have hnone : ∀ worker ∈ overtaken.workers, ∀ event ∈ worker.told,
        event.kind ≠ .suspended := by decide
    have htold : ∀ event ∈ (refused 1).told, ⟨"run", some 1, event⟩ ∈ items :=
      hreach.booked.told (show overtaken.workers[1]? = some (refused 1) from rfl)
    have hreport : Turn overtaken.Free overtaken.manager (waiting [])
        overtaken.manager
        ((waiting []).goesOn plan (.parked (first [])) () .nothing) [] :=
      .report rfl
    have hstep := @Bulletin.Step.turn _ _ _ ⟨overtaken, items, hasty⟩ 0
      (waiting []) _ _ [] [(first []).notice] rfl hreport rfl
    refine ⟨_, hreach.step hstep, ?_, items, rfl,
      hreach.unreported hnone _ _ _, htold _ (by simp [refused]), _,
      htold _ (List.getLast_mem (by simp [refused])), rfl, .told rfl rfl⟩
    exact .intro rfl rfl Nat.one_pos rfl rfl (.ended rfl) .same
  · obtain ⟨items, hasty, hreach⟩ :=
      Bulletin.exists_reachable reopened_reachable
    have hnone : ∀ worker ∈ reopened.workers, ∀ event ∈ worker.told,
        event.kind ≠ .suspended := by decide
    refine ⟨_, hreach, ?_, fun token => hreach.unreported hnone _ token _⟩
    exact hreach.booked.told
      (show reopened.workers[0]? = some (refused 0) from rfl) _
      (by simp [refused])

end Twice

end Workflow
