import Workflow.Proofs.Agent.Round

/-!
# Attempts at a turn

A model is asked for one turn until a stream of it ends whole.  Between two
streams the conversation rests, and the transcript stays what it was, so each
stream is asked for by the same request.  Nothing of a stream is kept but the
turn that a whole one comes to.  A break that the conversation does not get
over is told as a failure of the agent.
-/

namespace Workflow

/-- Whether a stream broke off in a way that may pass. -/
def ModelStream.transient (stream : ModelStream) : Bool :=
  stream.broken.any Error.retryable

theorem ModelStream.transient_of_broken {stream : ModelStream} {error : Error}
    (hbroken : stream.broken = some error) :
    stream.transient = error.retryable := by
  rw [transient, hbroken, Option.any_some]

namespace Agent

/-- The failure by which an agent tells the failure of its model. -/
inductive Surfaces : Error → Error → Prop
  | unchanged {error : Error} (hagent : error.OfAgent) : Surfaces error error
  | unavailable {error : Error} (hretryable : error.retryable = true) :
      Surfaces error (.agent .upstreamUnavailable error.message none)
  | rejected {error : Error} (hagent : ¬ error.OfAgent)
      (hretryable : error.retryable = false) :
      Surfaces error (.agent .upstreamRejected error.message none)

namespace Conversation

variable {settings : Settings} {request : AgentConfig}
variable {first stage : Conversation} {log before after : Log}
variable {state : Transcript} {attempt : Nat} {stream : ModelStream}

/-- What has happened after some streams of a turn broke, with a rest after
each of them. -/
def retries (state : Transcript) (streams : List ModelStream) : Log :=
  streams.zipIdx.flatMap fun (stream, attempt) =>
    [⟨.asking state attempt, .ok (.ok stream)⟩, ⟨.resting state attempt, .ok ()⟩]

theorem surfaces_upstream (error : Error) : Surfaces error (upstream error) := by
  unfold upstream
  split
  next => exact .unchanged .cancelled
  next => exact .unchanged (.agent ..)
  next hcancelled hagent =>
    split
    next hretryable => exact .unavailable hretryable
    next hretryable =>
      refine .rejected ?_ (Bool.eq_false_iff.mpr hretryable)
      rintro (_ | _)
      · exact hcancelled rfl
      · exact hagent _ _ _ rfl

theorem retries_concat (state : Transcript) (streams : List ModelStream)
    (stream : ModelStream) :
    retries state (streams ++ [stream]) = retries state streams ++
      [⟨.asking state streams.length, .ok (.ok stream)⟩,
        ⟨.resting state streams.length, .ok ()⟩] := by
  simp [retries, List.zipIdx_append]

/-- All streams of a turn are asked for by one request. -/
theorem asked_retries (streams : List ModelStream) :
    asked settings request (retries state streams) (.asking state attempt) =
      List.replicate (streams.length + 1)
        ⟨model settings request, state.messages, state.tools⟩ := by
  have hasked : asked settings request (retries state streams)
      (.asking state attempt) = streams.zipIdx.flatMap (fun _ =>
        [⟨model settings request, state.messages, state.tools⟩]) ++
          [⟨model settings request, state.messages, state.tools⟩] := by
    simp [asked, stages, retries, asks?, List.filterMap_flatMap,
      List.map_flatMap, List.filterMap_cons]
  rw [hasked, ← List.map_eq_flatMap, List.map_const', List.length_zipIdx,
    List.replicate_succ']

/-- Where a turn is being asked for, the log ends with the streams of the turn
that broke. -/
def Attempts (settings : Settings) (log : Log) : Conversation → Prop
  | asking state attempt => ∃ earlier streams,
      log = earlier ++ ⟨.ready state, false⟩ :: retries state streams ∧
      streams.length = attempt ∧ attempt ≤ settings.retry.maxRetries ∧
      ∀ tried ∈ streams, tried.transient = true
  | resting state attempt => ∃ earlier streams stream,
      log = earlier ++ ⟨.ready state, false⟩ :: retries state streams ++
        [⟨.asking state attempt, .ok (.ok stream)⟩] ∧
      streams.length = attempt ∧ attempt < settings.retry.maxRetries ∧
      ∀ tried ∈ streams ++ [stream], tried.transient = true
  | _ => True

theorem attempts_proceed {results : List Block} {calls : List Call} :
    Attempts settings log (proceed state results calls) := by
  rcases proceed_cases state results calls with
    ⟨-, hready⟩ | ⟨_, _, _, -, -, -, hcalling⟩
  · rw [hready]
    trivial
  · rw [hcalling]
    trivial

theorem Goes.attempts {move : stage.Move} {next : Conversation}
    (hgoes : Goes settings request stage move next)
    (hattempts : Attempts settings log stage) :
    Attempts settings (log ++ [⟨stage, move⟩]) next := by
  cases hgoes with
  | asks state => exact ⟨log, [], rfl, rfl, Nat.zero_le _, by simp⟩
  | rests hbroken hretryable hleft =>
      obtain ⟨earlier, streams, rfl, hlength, -, htransient⟩ := hattempts
      refine ⟨earlier, streams, _, rfl, hlength, hleft, ?_⟩
      rw [List.forall_mem_append, List.forall_mem_singleton,
        ModelStream.transient_of_broken hbroken]
      exact ⟨htransient, hretryable⟩
  | asksAgain state attempt =>
      obtain ⟨earlier, streams, stream, rfl, rfl, hleft, htransient⟩ := hattempts
      refine ⟨earlier, streams ++ [stream], ?_, ?_, hleft, htransient⟩
      · simp [retries_concat]
      · simp
  | enters _ _ _ => exact attempts_proceed
  | learns _ => exact attempts_proceed
  | begins _ => trivial
  | answers _ _ _ => trivial
  | fails _ _ => trivial

theorem Follows.attempts (hfollows : Follows settings request log stage) :
    Attempts settings log stage := by
  induction hfollows with
  | nil =>
      unfold start
      split
      · trivial
      · trivial
  | snoc _ move ih => exact (goes_step _ move).attempts ih

/-! ## What becomes of a stream -/

theorem Leads.of_whole
    (hleads : Leads settings request first
      (before ++ ⟨.asking state attempt, .ok (.ok stream)⟩ :: after) stage)
    (hwhole : stream.broken = none) :
    Leads settings request
      (conclude settings request state (Turn.ofDeltas stream.deltas)) after
      stage := by
  have hafter := hleads.split.2
  rwa [step_whole hwhole] at hafter

/-- After a break that may pass, and while attempts are left, there is a rest.
Every other break is the end. -/
theorem Leads.of_broken {error : Error}
    (hleads : Leads settings request first
      (before ++ ⟨.asking state attempt, .ok (.ok stream)⟩ :: after) stage)
    (hbroken : stream.broken = some error) :
    (error.retryable = true ∧ attempt < settings.retry.maxRetries ∧
        Leads settings request (.resting state attempt) after stage) ∨
      (¬ (error.retryable = true ∧ attempt < settings.retry.maxRetries) ∧
        after = [] ∧
        ∃ failure, Surfaces error failure ∧ stage = .ended (.error failure)) := by
  have hafter := hleads.split.2
  by_cases hretries :
      error.retryable = true ∧ attempt < settings.retry.maxRetries
  · rw [step_retried hbroken hretries] at hafter
    exact .inl ⟨hretries.1, hretries.2, hafter⟩
  · rw [step_surfaced hbroken hretries] at hafter
    obtain ⟨hnil, hended⟩ := hafter.of_ended
    exact .inr ⟨hretries, hnil, _, surfaces_upstream error, hended⟩

/-- Every tool is called for a request in a complete turn. -/
theorem Follows.dispatched {call : String × Json}
    (hfollows : Follows settings request log stage)
    (hcalled : call ∈ called log stage) :
    ∃ turn ∈ turns log, ∃ named ∈ turn.namedCalls,
      call = (named.name, named.arguments) := by
  obtain ⟨before, after, state, results, named, rest, rfl, hbefore, rfl⟩ :=
    hfollows.exists_of_mem_called hcalled
  obtain ⟨rounds, hstands⟩ := Follows.stands hbefore
  rw [turns_append]
  cases hstands with
  | @calling _ turn _ _ _ _ _ _ hturns hcalls _ _ =>
      exact ⟨turn, by simp [hturns], named, by simp [hcalls], rfl⟩

/-- What a conversation comes to is what its complete turns come to. -/
theorem Follows.totals {result : Result}
    (hfollows : Follows settings request log (.ended (.ok result))) :
    ∃ turn, (turns log).getLast? = some turn ∧ result.text = turn.text ∧
      readAnswer request turn.text = .ok result.output ∧
      result.read = ((turns log).map Turn.read).sum ∧
      result.written = ((turns log).map Turn.written).sum := by
  obtain ⟨rounds, hstands⟩ := hfollows.stands
  cases hstands with
  | answered hturns _ htext houtput _ hread hwritten =>
      exact ⟨_, by simp [hturns], htext, houtput, hread, hwritten⟩

end Conversation

end Agent

end Workflow
