import Workflow.Proofs.Run.Document
import Workflow.Proofs.Run.Stored

/-!
# Runs that nobody can tell apart

Two states are `Alike` if they are the same but for a last output that is
`null` in one of them and absent in the other.  Scripts, templates and end
nodes see a last output only with `null` in place of an absent one, so alike
stages ask for the same work, report the same events and stay alike under the
same moves (`Leg.Alike.step`), and alike runs are resumed alike
(`SuspendedRun.Alike.resume`).
-/

namespace Workflow

/-- The same state, where a last output that is `null` may be absent. -/
inductive Context.Alike : Context → Context → Prop
  | intro {inputs nodeOutputs : Assoc Json} {counters : Assoc Nat}
      {trace : List String} {steps : Nat} {lastOutput other : Option Json}
      (hvalue : Json.orNull lastOutput = Json.orNull other) :
      Alike ⟨inputs, lastOutput, nodeOutputs, counters, trace, steps⟩
        ⟨inputs, other, nodeOutputs, counters, trace, steps⟩

namespace Context.Alike

variable {context other : Context}

theorem refl (context : Context) : context.Alike context :=
  .intro rfl

theorem symm (halike : context.Alike other) : other.Alike context := by
  obtain ⟨hvalue⟩ := halike
  exact .intro hvalue.symm

theorem orNull_eq (halike : context.Alike other) :
    Json.orNull context.lastOutput = Json.orNull other.lastOutput := by
  obtain ⟨hvalue⟩ := halike
  exact hvalue

theorem bindings_eq (halike : context.Alike other) :
    context.bindings = other.bindings := by
  obtain ⟨hvalue⟩ := halike
  simp only [bindings, hvalue]

end Context.Alike

/-! ## Templates -/

namespace Template

variable {context other : Context}

/-- An absent last output is displayed like `null`. -/
theorem getD_display (value : Option Json) :
    (value.map Json.display).getD "" = (Json.orNull value).display := by
  cases value <;> rfl

theorem Piece.render_eq (halike : context.Alike other) (piece : Piece) :
    piece.render context = piece.render other := by
  cases piece with
  | literal text => rfl
  | reference target =>
      cases target with
      | input name =>
          obtain ⟨-⟩ := halike
          rfl
      | lastOutput =>
          simp only [Piece.render, Reference.render, getD_display, halike.orNull_eq]

theorem text_eq (halike : context.Alike other) (template : String) :
    (resolve template context).text = (resolve template other).text := by
  simp only [resolve, funext (Piece.render_eq halike)]

mutual

theorem resolveJson_eq (halike : context.Alike other) :
    (value : Json) → resolveJson context value = resolveJson other value
  | .null | .bool _ | .number _ => by simp [resolveJson]
  | .text s => by simp [resolveJson, text_eq halike s]
  | .list items => by simp [resolveJson, resolveItems_eq halike items]
  | .record members => by simp [resolveJson, resolveMembers_eq halike members]

theorem resolveItems_eq (halike : context.Alike other) :
    (items : List Json) → resolveItems context items = resolveItems other items
  | [] => rfl
  | item :: rest => by
      simp [resolveItems, resolveJson_eq halike item, resolveItems_eq halike rest]

theorem resolveMembers_eq (halike : context.Alike other) :
    (members : List (String × Json)) →
      resolveMembers context members = resolveMembers other members
  | [] => rfl
  | (_, value) :: rest => by
      simp [resolveMembers, resolveJson_eq halike value,
        resolveMembers_eq halike rest]

end

end Template

/-! ## Stages -/

/-- The same run, put aside in alike states. -/
inductive SuspendedRun.Alike : SuspendedRun → SuspendedRun → Prop
  | intro {run : RunId} {graph : Graph} {context other : Context}
      {cursor prompt : String} {suspendedAt : Instant} {expiresAt : Option Instant}
      {onTimeout : Decision} (hcontext : context.Alike other) :
      Alike ⟨run, graph, context, cursor, prompt, suspendedAt, expiresAt, onTimeout⟩
        ⟨run, graph, other, cursor, prompt, suspendedAt, expiresAt, onTimeout⟩

theorem SuspendedRun.Alike.symm {suspended other : SuspendedRun}
    (halike : suspended.Alike other) : other.Alike suspended := by
  obtain ⟨hcontext⟩ := halike
  exact .intro hcontext.symm

/-- The same outcome, where runs that have been put aside are alike. -/
inductive Outcome.Alike : Outcome → Outcome → Prop
  | completed (output : Json) : Alike (.completed output) (.completed output)
  | failed (node : String) (error : Error) :
      Alike (.failed node error) (.failed node error)
  | suspended {run other : SuspendedRun} (hrun : run.Alike other) :
      Alike (.suspended run) (.suspended other)

theorem Outcome.Alike.symm {outcome other : Outcome}
    (halike : outcome.Alike other) : other.Alike outcome := by
  cases halike with
  | completed output => exact .completed output
  | failed node error => exact .failed node error
  | suspended hrun => exact .suspended hrun.symm

namespace Leg

/-- The same stage in alike states. -/
inductive Alike : Leg → Leg → Prop
  | between {context other : Context} {next : String}
      (hcontext : context.Alike other) :
      Alike (.between context next) (.between other next)
  | entered {context other : Context} {node : Node}
      (hcontext : context.Alike other) :
      Alike (.entered context node) (.entered other node)
  | working {context other : Context} {node : Node} {work : Work}
      (hcontext : context.Alike other) :
      Alike (.working context node work) (.working other node work)
  | parking {suspended other : SuspendedRun} (hrun : suspended.Alike other) :
      Alike (.parking suspended) (.parking other)
  | parked {suspended other : SuspendedRun} (hrun : suspended.Alike other) :
      Alike (.parked suspended) (.parked other)
  | ended {outcome other : Outcome} (houtcome : outcome.Alike other) :
      Alike (.ended outcome) (.ended other)

namespace Alike

variable {leg other : Leg} {plan : Plan}

theorem fail (node : String) (error : Error) :
    Alike (.ended (.failed node error)) (.ended (.failed node error)) :=
  .ended (.failed node error)

/-- At alike stages the same can happen. -/
theorem move_eq (halike : leg.Alike other) : leg.Move = other.Move := by
  cases halike <;> rfl

/-- The same move at an alike stage. -/
def move (halike : leg.Alike other) (move : leg.Move) : other.Move :=
  cast halike.move_eq move

theorem symm (halike : leg.Alike other) : other.Alike leg := by
  cases halike with
  | between hcontext => exact .between hcontext.symm
  | entered hcontext => exact .entered hcontext.symm
  | working hcontext => exact .working hcontext.symm
  | parking hrun => exact .parking hrun.symm
  | parked hrun => exact .parked hrun.symm
  | ended houtcome => exact .ended houtcome.symm

theorem symm_move (halike : leg.Alike other) (move : leg.Move) :
    halike.symm.move (halike.move move) = move :=
  cast_cast _ _ _

end Alike

/-- A stage with events, and an alike stage with the same events. -/
def Matches (result other : Leg × List Event) : Prop :=
  result.1.Alike other.1 ∧ result.2 = other.2

variable {plan : Plan} {context other : Context}

theorem matches_leave (halike : context.Alike other) (node : String) (output : Json)
    (branch : Option Branch) :
    Matches (leave plan context node output branch)
      (leave plan other node output branch) := by
  unfold leave
  split
  · obtain ⟨hvalue⟩ := halike
    exact ⟨.between (.intro hvalue), rfl⟩
  · exact ⟨.fail _ _, rfl⟩

theorem matches_direct (halike : context.Alike other) (node : String) (output : Json)
    (branch : Option Branch) :
    Matches (direct plan context node output branch)
      (direct plan other node output branch) := by
  obtain ⟨hvalue⟩ := halike
  exact matches_leave (.intro hvalue) node output branch

theorem matches_produce (halike : context.Alike other) (node : String)
    (output : Json) :
    Matches (produce plan context node output) (produce plan other node output) := by
  obtain ⟨hvalue⟩ := halike
  exact matches_leave (.intro rfl) node output none

theorem matches_exitLoop (halike : context.Alike other) (node : String)
    (completed : Nat) :
    Matches (exitLoop plan context node completed)
      (exitLoop plan other node completed) := by
  obtain ⟨hvalue⟩ := halike
  exact matches_direct (.intro hvalue) node _ _

theorem matches_enterBody (halike : context.Alike other) (node : String)
    (completed : Nat) :
    Matches (enterBody plan context node completed)
      (enterBody plan other node completed) := by
  obtain ⟨hvalue⟩ := halike
  exact matches_direct (.intro hvalue) node _ _

theorem matches_enter (halike : context.Alike other) (next : String) :
    Matches (enter plan context next) (enter plan other next) := by
  obtain ⟨hvalue⟩ := halike
  unfold enter
  dsimp only
  split
  · exact ⟨.fail _ _, rfl⟩
  · split
    · exact ⟨.fail _ _, rfl⟩
    · exact ⟨.entered (.intro hvalue), rfl⟩

theorem alike_suspend (halike : context.Alike other) (node : String)
    (config : ApprovalConfig) (now : Instant) :
    (suspend plan context node config now).Alike
      (suspend plan other node config now) := by
  simp only [suspend, Template.text_eq halike]
  exact .intro halike

theorem matches_dispatch (halike : context.Alike other) (node : Node)
    (now : Instant) :
    Matches (dispatch plan context node now) (dispatch plan other node now) := by
  have hcounter : context.iteration node.id = other.iteration node.id := by
    obtain ⟨-⟩ := halike
    rfl
  have hinputs : context.inputs = other.inputs := by
    obtain ⟨-⟩ := halike
    rfl
  unfold dispatch
  rw [hcounter, hinputs, halike.orNull_eq, halike.bindings_eq]
  split
  · exact matches_direct halike _ _ _
  · exact ⟨.ended (.completed _), rfl⟩
  · simp only [Template.text_eq halike]
    exact ⟨.working halike, rfl⟩
  · exact ⟨.working halike, rfl⟩
  · exact ⟨.working halike, rfl⟩
  · dsimp only
    split
    · exact matches_exitLoop halike _ _
    · exact ⟨.working halike, rfl⟩
  · exact ⟨.parking (alike_suspend halike _ _ _), rfl⟩
  · simp only [toolArguments, Template.resolveJson_eq halike]
    exact ⟨.working halike, rfl⟩

theorem matches_finish (halike : context.Alike other) (node : String) {work : Work}
    (result : Except Error work.Result) :
    Matches (finish plan context node work result)
      (finish plan other node work result) := by
  cases work with
  | agent request =>
      cases result with
      | error error => exact ⟨.fail _ _, rfl⟩
      | ok output => exact matches_produce halike node output
  | transform script bindings millis =>
      cases result with
      | error error => exact ⟨.fail _ _, rfl⟩
      | ok output => exact matches_produce halike node output
  | choice condition bindings millis =>
      cases result with
      | error error => exact ⟨.fail _ _, rfl⟩
      | ok truth => exact matches_direct halike _ _ _
  | iteration condition bindings millis completed =>
      match result with
      | .error error => exact ⟨.fail _ _, rfl⟩
      | .ok true => exact matches_enterBody halike _ _
      | .ok false => exact matches_exitLoop halike _ _
  | tool server tool arguments =>
      cases result with
      | error error => exact ⟨.fail _ _, rfl⟩
      | ok output =>
          unfold finish
          dsimp only
          split
          · exact ⟨.fail _ _, rfl⟩
          · exact matches_produce halike _ _

/-- The same move at alike stages leads to alike stages and reports the same. -/
theorem Alike.step {leg other : Leg} (halike : leg.Alike other) (plan : Plan)
    (move : leg.Move) :
    Matches (leg.step plan move) (other.step plan (halike.move move)) := by
  cases halike with
  | between hcontext =>
      match move with
      | true => exact ⟨.fail _ _, rfl⟩
      | false => exact matches_enter hcontext _
  | entered hcontext =>
      match move with
      | none => exact ⟨.fail _ _, rfl⟩
      | some now => exact matches_dispatch hcontext _ now
  | working hcontext =>
      match move with
      | none => exact ⟨.fail _ _, rfl⟩
      | some result => exact matches_finish hcontext _ result
  | parking hrun =>
      match move with
      | none => exact ⟨.parked hrun, rfl⟩
      | some error =>
          obtain ⟨-⟩ := hrun
          exact ⟨.fail _ _, rfl⟩
  | parked hrun =>
      obtain ⟨hcontext⟩ := hrun
      exact ⟨.ended (.suspended (.intro hcontext)), rfl⟩
  | ended houtcome => exact move.elim

/-- The same refusal to resume a run, or the same events and alike stages. -/
inductive ResumesAlike :
    Except Error (Leg × List Event) → Except Error (Leg × List Event) → Prop
  | refused (error : Error) : ResumesAlike (.error error) (.error error)
  | resumed {result other : Leg × List Event} (hmatches : Matches result other) :
      ResumesAlike (.ok result) (.ok other)

end Leg

namespace SuspendedRun

variable {suspended other : SuspendedRun}

theorem Alike.refl (suspended : SuspendedRun) : suspended.Alike suspended :=
  .intro (.refl _)

/-- What a store hands out is alike, even if it drops a `null`. -/
theorem Alike.restored {drops : Prop} {restored : SuspendedRun}
    (halike : suspended.Alike other)
    (hrestored : other.Restored drops restored) : suspended.Alike restored := by
  obtain ⟨⟨hvalue⟩⟩ := halike
  cases hrestored with
  | same => exact .intro (.intro hvalue)
  | dropped _ hnull =>
      obtain rfl := hnull
      exact .intro (.intro hvalue)

theorem Alike.planOf_eq (halike : suspended.Alike other) (limits : EngineConfig) :
    Leg.planOf limits suspended = Leg.planOf limits other := by
  obtain ⟨-⟩ := halike
  rfl

/-- A signal for alike runs is refused for both of them or resumes both
alike. -/
theorem Alike.resume (halike : suspended.Alike other) (limits : EngineConfig)
    (signal : ResumeSignal) :
    Leg.ResumesAlike (Leg.resume limits suspended signal)
      (Leg.resume limits other signal) := by
  have hplan := halike.planOf_eq limits
  unfold Leg.resume
  rw [hplan]
  obtain ⟨hcontext⟩ := halike
  split
  · exact .refused _
  · refine .resumed ?_
    cases signal.decision with
    | reject => exact ⟨.fail _ _, rfl⟩
    | approve =>
        obtain ⟨halike, hevents⟩ := Leg.matches_direct hcontext _ signal.payload none
        exact ⟨halike, congrArg (_ :: ·) hevents⟩

theorem Alike.exists_resume (halike : suspended.Alike other)
    {limits : EngineConfig} {signal : ResumeSignal} {leg : Leg} {told : List Event}
    (hresume : Leg.resume limits suspended signal = .ok (leg, told)) :
    ∃ next, Leg.resume limits other signal = .ok (next, told) := by
  have hresumes := halike.resume limits signal
  rw [hresume] at hresumes
  cases hother : Leg.resume limits other signal with
  | error error =>
      rw [hother] at hresumes
      contradiction
  | ok result =>
      rw [hother] at hresumes
      obtain ⟨-⟩ | ⟨-, htold⟩ := hresumes
      exact ⟨result.1, by rw [show told = result.2 from htold]⟩

end SuspendedRun

/-! ## Histories -/

namespace History

/-- What a run comes to after it is resumed, with any moves and any further
signals.  After a suspension it goes on with what a store has made of it. -/
inductive Continues (suspended : SuspendedRun) : History → Prop
  | resume {limits : EngineConfig} {signal : ResumeSignal} {leg : Leg}
      {told : List Event}
      (hresume : Leg.resume limits suspended signal = .ok (leg, told)) :
      Continues suspended
        ⟨.resume suspended signal, Leg.planOf limits suspended, [], told, leg⟩
  | step {history : History} (hcontinues : Continues suspended history)
      (move : history.leg.Move) : Continues suspended (history.after move)
  | again {history : History} {parked stored : SuspendedRun}
      {limits : EngineConfig} {signal : ResumeSignal} {leg : Leg}
      {told : List Event} (hcontinues : Continues suspended history)
      (hparked : history.leg = .ended (.suspended parked))
      (hstored : parked.Restored True stored)
      (hresume : Leg.resume limits stored signal = .ok (leg, told)) :
      Continues suspended
        ⟨.resume stored signal, Leg.planOf limits stored, history.events, told,
          leg⟩

/-- What two runs come to after the same signals with the same limits and the
same moves.  After a suspension each of them may go on with what a store has
made of it. -/
inductive Twins (suspended other : SuspendedRun) : History → History → Prop
  | resume {limits : EngineConfig} {signal : ResumeSignal} {first second : Leg}
      {told heard : List Event}
      (hfirst : Leg.resume limits suspended signal = .ok (first, told))
      (hsecond : Leg.resume limits other signal = .ok (second, heard)) :
      Twins suspended other
        ⟨.resume suspended signal, Leg.planOf limits suspended, [], told, first⟩
        ⟨.resume other signal, Leg.planOf limits other, [], heard, second⟩
  | step {first second : History} (htwins : Twins suspended other first second)
      (halike : first.leg.Alike second.leg) (move : first.leg.Move) :
      Twins suspended other (first.after move) (second.after (halike.move move))
  | again {first second : History} {parked waiting stored kept : SuspendedRun}
      {limits : EngineConfig} {signal : ResumeSignal} {leg next : Leg}
      {told heard : List Event} (htwins : Twins suspended other first second)
      (hparked : first.leg = .ended (.suspended parked))
      (hwaiting : second.leg = .ended (.suspended waiting))
      (hstored : parked.Restored True stored)
      (hkept : waiting.Restored True kept)
      (hfirst : Leg.resume limits stored signal = .ok (leg, told))
      (hsecond : Leg.resume limits kept signal = .ok (next, heard)) :
      Twins suspended other
        ⟨.resume stored signal, Leg.planOf limits stored, first.events, told, leg⟩
        ⟨.resume kept signal, Leg.planOf limits kept, second.events, heard, next⟩

/-- Two runs that have told the same and are at alike stages. -/
structure Alike (first second : History) : Prop where
  plan_eq : first.plan = second.plan
  past_eq : first.past = second.past
  told_eq : first.told = second.told
  leg : first.leg.Alike second.leg

namespace Alike

variable {first second : History}

theorem events_eq (halike : first.Alike second) : first.events = second.events := by
  simp only [events, halike.past_eq, halike.told_eq]

theorem after (halike : first.Alike second) (move : first.leg.Move) :
    (first.after move).Alike (second.after (halike.leg.move move)) where
  plan_eq := halike.plan_eq
  past_eq := halike.past_eq
  told_eq := by
    have hevents := (halike.leg.step first.plan move).2
    simp only [History.after, ← halike.plan_eq, hevents, halike.told_eq]
  leg := by
    have hleg := (halike.leg.step first.plan move).1
    simpa only [History.after, ← halike.plan_eq] using hleg

/-- The legs of alike runs begin alike. -/
theorem resume {suspended other : SuspendedRun} {limits : EngineConfig}
    {signal : ResumeSignal} {leg next : Leg} {past told heard : List Event}
    (halike : suspended.Alike other)
    (hfirst : Leg.resume limits suspended signal = .ok (leg, told))
    (hsecond : Leg.resume limits other signal = .ok (next, heard)) :
    Alike ⟨.resume suspended signal, Leg.planOf limits suspended, past, told, leg⟩
      ⟨.resume other signal, Leg.planOf limits other, past, heard, next⟩ := by
  have hresumes := halike.resume limits signal
  rw [hfirst, hsecond] at hresumes
  obtain ⟨-⟩ | ⟨hleg, htold⟩ := hresumes
  exact ⟨halike.planOf_eq limits, rfl, htold, hleg⟩

/-- Where one of two alike runs has been put aside, so has the other. -/
theorem exists_suspended {parked : SuspendedRun} (halike : first.Alike second)
    (hparked : first.leg = .ended (.suspended parked)) :
    ∃ waiting, second.leg = .ended (.suspended waiting) ∧ parked.Alike waiting := by
  have hleg := halike.leg
  rw [hparked] at hleg
  cases hother : second.leg with
  | ended outcome =>
      rw [hother] at hleg
      cases hleg with
      | ended houtcome =>
          cases houtcome with
          | suspended hruns => exact ⟨_, rfl, hruns⟩
  | _ =>
      rw [hother] at hleg
      contradiction

end Alike

/-- Alike runs stay alike, and report the same, in all their legs. -/
theorem Twins.alike {suspended other : SuspendedRun} {first second : History}
    (halike : suspended.Alike other)
    (htwins : Twins suspended other first second) : first.Alike second := by
  induction htwins with
  | resume hfirst hsecond => exact .resume halike hfirst hsecond
  | step _ _ move ih => exact ih.after move
  | again _ hparked hwaiting hstored hkept hfirst hsecond ih =>
      obtain ⟨_, hother, hruns⟩ := ih.exists_suspended hparked
      obtain rfl :=
        Outcome.suspended.inj (Leg.ended.inj (hwaiting.symm.trans hother))
      -- Each run may have dropped its `null` in the store, which keeps them alike.
      have hrestored := ((hruns.restored hkept).symm.restored hstored).symm
      rw [ih.events_eq]
      exact .resume hrestored hfirst hsecond

theorem Twins.symm {suspended other : SuspendedRun} {first second : History}
    (htwins : Twins suspended other first second) :
    Twins other suspended second first := by
  induction htwins with
  | resume hfirst hsecond => exact .resume hsecond hfirst
  | step _ halike move ih =>
      have hstep := ih.step halike.symm (halike.move move)
      rwa [halike.symm_move] at hstep
  | again _ hparked hwaiting hstored hkept hfirst hsecond ih =>
      exact ih.again hwaiting hparked hkept hstored hsecond hfirst

/-- Whatever one of two alike runs comes to, the other one comes to with it. -/
theorem Continues.exists_twin {suspended other : SuspendedRun} {first : History}
    (halike : suspended.Alike other) (hcontinues : Continues suspended first) :
    ∃ second, Twins suspended other first second := by
  induction hcontinues with
  | resume hresume =>
      obtain ⟨next, hother⟩ := halike.exists_resume hresume
      exact ⟨_, .resume hresume hother⟩
  | step _ move ih =>
      obtain ⟨second, htwins⟩ := ih
      exact ⟨_, htwins.step (htwins.alike halike).leg move⟩
  | again _ hparked hstored hresume ih =>
      obtain ⟨second, htwins⟩ := ih
      obtain ⟨waiting, hwaiting, hruns⟩ := (htwins.alike halike).exists_suspended hparked
      obtain ⟨next, hother⟩ :=
        (hruns.symm.restored hstored).symm.exists_resume hresume
      exact ⟨_, htwins.again hparked hwaiting hstored .same hresume hother⟩

end History

end Workflow
