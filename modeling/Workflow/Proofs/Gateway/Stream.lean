import Workflow.Gateway.Reply
import Workflow.Proofs.EventStream.Frames
import Workflow.Proofs.Manager.Orderly
import Workflow.Proofs.Manager.Progress

/-!
# The stream of a leg

A client that reads the stream of a leg gets one frame for each event that the
leg has reported, in order, and when the leg has ended a frame with the summary
(`Office.Reachable.stream_reads`).  Comments that keep the connection open are
not seen.

The summary is not a second account of the leg.  `RunSummary.Closes` says which
of the events it repeats, and that there is nothing else in it.
-/

namespace Workflow

/-! ## Summaries and events -/

/-- The last event of a kind. -/
def lastOf? (kind : EventKind) (events : List Event) : Option Event :=
  (events.filter (·.kind = kind)).getLast?

/-- An event that comes last of all is the last one of its kind. -/
theorem lastOf?_of_getLast? {events : List Event} {event : Event}
    (hlast : events.getLast? = some event) :
    lastOf? event.kind events = some event := by
  obtain ⟨before, rfl⟩ := List.getLast?_eq_some_iff.mp hlast
  simp [lastOf?]

/-- The summary of a leg says what the last event of one kind has said. -/
inductive RunSummary.Closes (run : RunId) (events : List Event) :
    RunSummary → Prop
  | completed {event : Event} (hlast : lastOf? .output events = some event) :
      Closes run events
        ⟨run, .completed, none, some event.payload, none, none⟩
  | failed {event : Event} (hlast : lastOf? .error events = some event) :
      Closes run events
        ⟨run, .failed, some event.node, none, some event.payload, none⟩
  | suspended {event : Event} {prompt : String}
      (hlast : lastOf? .suspended events = some event)
      (hprompt : event.payload.member? "prompt" = some (.text prompt)) :
      Closes run events
        ⟨run, .suspended, some event.node, none, none, some prompt⟩

theorem Leg.suspendedPayload_prompt (suspended : SuspendedRun) :
    (suspendedPayload suspended).member? "prompt" =
      some (.text suspended.prompt) := by
  have honTimeout : "prompt" ≠ "onTimeout" := by decide
  have hexpiresAt : "prompt" ≠ "expiresAt" := by decide
  refine (Assoc.get?_insert_of_ne _ _ honTimeout).trans ?_
  refine (Assoc.get?_insert_of_ne _ _ hexpiresAt).trans ?_
  exact Assoc.get?_insert_self ..

namespace RunSummary.Closes

variable {run : RunId} {events : List Event}

theorem of_output {node : String} {output : Json}
    (hlast : events.getLast? = some ⟨node, .output, output⟩) :
    Closes run events (.ofResult run (.ok (.completed output))) :=
  @completed run events ⟨node, .output, output⟩ (lastOf?_of_getLast? hlast)

theorem of_error {node : String} {error : Error}
    (hlast : events.getLast? = some ⟨node, .error, error.payload⟩) :
    Closes run events (.ofResult run (.ok (.failed node error))) :=
  @failed run events ⟨node, .error, error.payload⟩ (lastOf?_of_getLast? hlast)

theorem of_suspended {suspended : SuspendedRun}
    (hlast : events.getLast? = some
      ⟨suspended.cursor, .suspended, Leg.suspendedPayload suspended⟩) :
    Closes run events (.ofResult run (.ok (.suspended suspended))) :=
  @RunSummary.Closes.suspended run events
    ⟨suspended.cursor, .suspended, Leg.suspendedPayload suspended⟩
    suspended.prompt (lastOf?_of_getLast? hlast)
    (Leg.suspendedPayload_prompt suspended)

end RunSummary.Closes

/-- What a leg reports and how it ends have the same last word. -/
theorem Shape.closes {graph : Graph} {beginning : Beginning}
    {events : List Event} {outcome : Outcome}
    (hshape : Shape graph beginning events outcome) (run : RunId) :
    RunSummary.Closes run events (.ofResult run (.ok outcome)) := by
  cases hshape with
  | refused _ => exact .of_error rfl
  | rejected _ => exact .of_error rfl
  | @body _ lead _ _ _ hending =>
      cases hending with
      | @completed node output _ _ =>
          have hlast : (lead ++ [Leg.startedEvent node,
              ⟨node.id, .output, output⟩]).getLast? =
                some ⟨node.id, .output, output⟩ := by
            simp
          exact .of_output hlast
      | suspended _ _ hcursor => exact .of_suspended (by simp [hcursor])
      | failed _ => exact .of_error (by simp)
      | failedInside _ => exact .of_error (by simp)

namespace Gateway

open EventStream (Carries Frame Reader)

/-! ## Frames -/

theorem simple_eventFrame (notice : Notice) :
    (eventFrame notice).Simple notice.event.kind.label where
  named := rfl
  kind_oneLine := by
    cases notice.event.kind <;> exact ⟨by decide, by decide⟩
  data_oneLine := Json.oneLine_render _
  untrimmed := by
    cases notice.event.kind <;> decide

theorem simple_doneFrame (summary : RunSummary) :
    (doneFrame summary).Simple "done" where
  named := rfl
  kind_oneLine := ⟨by decide, by decide⟩
  data_oneLine := Json.oneLine_render _
  untrimmed := by decide

/-- The frames of a stream, as far as a leg has come. -/
def framesOf (notices : List Notice) (summary : Option RunSummary) :
    List Frame :=
  notices.map (fun notice =>
      ⟨some notice.event.kind.label, notice.render⟩) ++
    (summary.map fun summary =>
      ⟨some "done", summary.toJson.render⟩).toList

theorem simple_framesOf {notices : List Notice}
    {summary : Option RunSummary} :
    ∀ frame ∈ framesOf notices summary, ∃ kind, frame.Simple kind := by
  intro frame hframe
  rcases List.mem_append.mp hframe with hevent | hdone
  · obtain ⟨notice, -, rfl⟩ := List.mem_map.mp hevent
    exact ⟨_, simple_eventFrame notice⟩
  · obtain ⟨summary, -, rfl⟩ :=
      Option.map_eq_some_iff.mp (Option.mem_toList.mp hdone)
    exact ⟨_, simple_doneFrame summary⟩

/-- Without comments a body is the stream itself. -/
theorem carries_stream (notices : List Notice)
    (summary : Option RunSummary) :
    Carries (framesOf notices summary) (stream notices summary) :=
  EventStream.carries_join _

end Gateway

/-! ## Legs -/

namespace Office

open EventStream (Carries Reader)

variable {σ : Type} [SuspensionStore σ] [LawfulStore σ]
variable {office : Office σ} {token : Token} {worker : Worker}

theorem Orderly.closes (horderly : office.Orderly)
    (hworker : office.workers[token]? = some worker) {summary : RunSummary}
    (hsummary : worker.task.summary? = some summary) :
    summary.Closes worker.task.run worker.told := by
  have hsound := horderly.sound worker (List.mem_of_getElem? hworker)
  cases hstage : worker.task.stage with
  | settled result =>
      simp only [Worker.Sound, hstage] at hsound
      obtain ⟨-, outcome, -, -, rfl, hshape⟩ := hsound
      have hresult : RunSummary.ofResult worker.task.run (.ok outcome) =
          summary := by
        simpa [Task.summary?, hstage] using hsummary
      rw [← hresult]
      exact hshape.closes worker.task.run
  | submitted _ _ | claimed _ _ | running _ _ =>
      simp [Task.summary?, hstage] at hsummary

/-- The stream of a leg is read back, in one piece and with any comments in
between: one frame for each event that the leg has reported, named after its
kind and with its text, and one frame with the summary once the leg has ended.
The summary says what the last output, the last error or the last suspension has
said. -/
theorem Reachable.stream_reads (hreach : office.Reachable)
    (hworker : office.workers[token]? = some worker) {notices : List Notice}
    (htold : notices.map (·.event) = worker.told) :
    (∀ body,
      Carries (Gateway.framesOf notices worker.task.summary?) body →
      Reader.fresh.feed body.toList =
        (Reader.fresh, Gateway.framesOf notices worker.task.summary?)) ∧
    Carries (Gateway.framesOf notices worker.task.summary?)
      (Gateway.stream notices worker.task.summary?) ∧
    ∀ summary, worker.task.summary? = some summary →
      summary.Closes worker.task.run (notices.map (·.event)) := by
  refine ⟨?_, Gateway.carries_stream _ _, ?_⟩
  · intro body hcarries
    exact hcarries.feed_eq Gateway.simple_framesOf
  · intro summary hsummary
    rw [htold]
    exact hreach.orderly.closes hworker hsummary

end Office

/-! ## A leg that is put aside -/

namespace Twice

/-- The leg when it has reported that the run was put aside. -/
def reported : Worker :=
  (waiting []).goesOn plan (.parked (first [])) () .nothing

/-- The leg when it has ended. -/
def aside : Worker :=
  reported.after (.settled (.ok (.suspended (first [])))) .nothing []

def asideWith (worker : Worker) : Office MemoryStore :=
  { stored with workers := [worker] }

theorem aside_reachable : (asideWith aside).Reachable := by
  have hwaiting : stored.workers[0]? = some (waiting []) := rfl
  have hreport : Office.Step stored (asideWith reported) :=
    .turn hwaiting (.report rfl)
  have hreported : (asideWith reported).workers[0]? = some reported := rfl
  have hsettle : Office.Step (asideWith reported) (asideWith aside) :=
    .turn hreported (.settle (.inr ⟨first [], rfl⟩) rfl)
  exact (stored_reachable.step hreport).step hsettle

/-- What the leg has told, all at one time. -/
def notices : List Notice :=
  aside.told.map (⟨"run", ·, ⟨0, 0⟩⟩)

/-- The body of the stream, when the connection was kept open twice before the
summary came. -/
def body : String :=
  Gateway.stream notices none ++ (EventStream.comment "" ++
    (EventStream.comment " still here" ++
      Gateway.stream [] aside.task.summary?))

theorem stream_reads_aside :
    (asideWith aside).Reachable ∧
      EventStream.Reader.fresh.feed body.toList =
        (EventStream.Reader.fresh,
          Gateway.framesOf notices aside.task.summary?) ∧
      RunSummary.Closes "run" aside.told
        ⟨"run", .suspended, some "ask", none, none, some "Go on?"⟩ := by
  have hworker : (asideWith aside).workers[0]? = some aside := rfl
  have htold : notices.map (·.event) = aside.told := rfl
  obtain ⟨hreads, -, hcloses⟩ := aside_reachable.stream_reads hworker htold
  have hkept : EventStream.Carries
      (Gateway.framesOf notices none ++
        Gateway.framesOf [] aside.task.summary?) body :=
    (Gateway.carries_stream notices none).append
      (((Gateway.carries_stream [] _).comment
        ⟨by decide, by decide⟩).comment ⟨by decide, by decide⟩)
  exact ⟨aside_reachable, hreads body hkept, hcloses _ rfl⟩

end Twice

end Workflow
