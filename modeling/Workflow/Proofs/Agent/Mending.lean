import Workflow.Proofs.Agent.Attempt

/-!
# Conversations without their broken streams

Take from a log every stream that broke and was asked for again, with the rest
after it.  What is left is the log of an agent that asks for each turn once.
This agent calls the same tools with the same arguments and comes to the same
end, although the streams that are gone never reached it.  So nothing that a
broken stream brought has any effect.
-/

namespace Workflow

namespace Agent

/-- The settings of an agent that asks for each turn once. -/
def Settings.unretried (settings : Settings) : Settings :=
  { settings with retry := { settings.retry with maxRetries := 0 } }

namespace Conversation

variable {settings : Settings} {request : AgentConfig}
variable {stage : Conversation} {log before after : Log}
variable {state : Transcript} {attempt : Nat} {stream : ModelStream}

/-- A stage as it is if no stream of its turn has broken. -/
def mended : Conversation → Conversation
  | asking state _ => .asking state 0
  | resting state _ => .asking state 0
  | stage => stage

/-- What happens in a conversation whose streams are asked for once, where
this has happened. -/
def Happening.mended? (settings : Settings) : Happening → Option Happening
  | ⟨.asking state attempt, .ok (.ok stream)⟩ =>
    if stream.transient = true ∧ attempt < settings.retry.maxRetries then none
    else some ⟨.asking state 0, .ok (.ok stream)⟩
  | ⟨.asking state _, move⟩ => some ⟨.asking state 0, move⟩
  | ⟨.resting _ _, .ok ()⟩ => none
  | ⟨.resting state _, .error halt⟩ => some ⟨.asking state 0, .error halt⟩
  | happening => some happening

/-- A log without the streams that were asked for again. -/
def mend (settings : Settings) (log : Log) : Log :=
  log.filterMap (Happening.mended? settings)

@[simp]
theorem mended_start : (start request).mended = start request := by
  unfold start
  split
  · rfl
  · rfl

@[simp]
theorem mended_proceed (results : List Block) (calls : List Call) :
    (proceed state results calls).mended = proceed state results calls := by
  rcases proceed_cases state results calls with
    ⟨-, hready⟩ | ⟨_, _, _, -, -, -, hcalling⟩
  · rw [hready]
    rfl
  · rw [hcalling]
    rfl

@[simp]
theorem mended_conclude (turn : Turn) :
    (conclude settings request state turn).mended =
      conclude settings request state turn := by
  by_cases hnone : turn.namedCalls = []
  · rw [conclude_of_none hnone]
    rfl
  · by_cases hleft : state.rounds < limit settings request
    · rw [conclude_of_left hnone hleft, mended_proceed]
    · rw [conclude_of_spent hnone (Nat.le_of_not_lt hleft)]
      rfl

theorem eq_ended_of_mended {result : Except Error Result}
    (hmended : stage.mended = .ended result) : stage = .ended result := by
  cases stage with
  | asking _ _ => simp [mended] at hmended
  | resting _ _ => simp [mended] at hmended
  | _ => exact hmended

/-- A stream that is not asked for again does the same where no stream is. -/
theorem step_unretried (hfinal : ¬ (stream.transient = true ∧
    attempt < settings.retry.maxRetries)) :
    step settings.unretried request (.asking state 0) (.ok (.ok stream)) =
      (step settings request (.asking state attempt)
        (.ok (.ok stream))).mended := by
  cases hbroken : stream.broken with
  | none =>
      rw [step_whole hbroken, step_whole hbroken, mended_conclude]
      rfl
  | some error =>
      rw [ModelStream.transient_of_broken hbroken] at hfinal
      have hnone : ¬ (error.retryable = true ∧
          0 < settings.unretried.retry.maxRetries) :=
        fun hretries => Nat.not_lt_zero _ hretries.2
      rw [step_surfaced hbroken hnone, step_surfaced hbroken hfinal]
      rfl

/-- A stream that is asked for again changes nothing. -/
theorem mended_step_transient (hretries : stream.transient = true ∧
    attempt < settings.retry.maxRetries) :
    (step settings request (.asking state attempt) (.ok (.ok stream))).mended =
      .asking state 0 := by
  obtain ⟨htransient, hleft⟩ := hretries
  obtain ⟨error, hbroken, hretryable⟩ :=
    (Option.any_eq_true _ _).mp htransient
  rw [step_retried hbroken ⟨hretryable, hleft⟩]
  rfl

/-- A step is one of the agent that asks once, or it is passed over. -/
theorem leads_mended (stage : Conversation) (move : stage.Move) :
    Leads settings.unretried request stage.mended
      (Happening.mended? settings ⟨stage, move⟩).toList
      (step settings request stage move).mended := by
  cases stage with
  | discovering =>
      rcases move with _ | error | tools
      · exact .single .discovering _
      · exact .single .discovering _
      · exact .single .discovering _
  | ready state =>
      cases move with
      | true => exact .single (.ready state) true
      | false => exact .single (.ready state) false
  | asking state attempt =>
      rcases move with halt | error | stream
      · exact .single (.asking state 0) _
      · exact .single (.asking state 0) _
      -- Only a stream that is asked for again leaves nothing in the new log.
      · by_cases hretries : stream.transient = true ∧
            attempt < settings.retry.maxRetries
        · rw [mended_step_transient hretries, Happening.mended?, if_pos hretries]
          exact .nil
        · rw [← step_unretried hretries, Happening.mended?, if_neg hretries]
          exact .single (.asking state 0) _
  | resting state attempt =>
      rcases move with halt | ⟨⟩
      · exact .single (.asking state 0) (.error halt)
      · exact .nil
  | calling state results call rest =>
      rcases move with halt | outcome
      · exact .single (.calling state results call rest) _
      · have hsingle : Leads settings.unretried request
            (.calling state results call rest)
            [⟨.calling state results call rest, .ok outcome⟩]
            (proceed state (results ++ [answer call outcome]) rest) :=
          .single _ _
        rw [← mended_proceed] at hsingle
        exact hsingle
  | ended result => exact move.elim

theorem mend_concat (happening : Happening) :
    mend settings (log ++ [happening]) =
      mend settings log ++ (happening.mended? settings).toList := by
  rw [mend, mend, List.filterMap_append]
  cases hmended : happening.mended? settings <;> simp [hmended]

/-- Without its broken streams a log is that of an agent that asks once. -/
theorem Follows.mended (hfollows : Follows settings request log stage) :
    Follows settings.unretried request (mend settings log) stage.mended := by
  induction hfollows with
  | nil =>
      rw [mended_start]
      exact .nil
  | @snoc log stage _ move ih =>
      rw [mend_concat]
      exact ih.append (leads_mended stage move)

theorem turn?_mended (happening : Happening) :
    (happening.mended? settings).bind Happening.turn? = happening.turn? := by
  obtain ⟨stage, move⟩ := happening
  cases stage with
  | asking state attempt =>
      rcases move with halt | error | stream
      · rfl
      · rfl
      · by_cases hretries : stream.transient = true ∧
            attempt < settings.retry.maxRetries
        · obtain ⟨error, hbroken, -⟩ :=
            (Option.any_eq_true _ _).mp hretries.1
          rw [Happening.mended?, if_pos hretries, turn?_of_broken hbroken]
          rfl
        · rw [Happening.mended?, if_neg hretries]
          rcases stream with ⟨deltas, _ | error⟩ <;> rfl
  | resting state attempt =>
      rcases move with halt | ⟨⟩
      · rfl
      · rfl
  | _ => rfl

theorem calls?_mended (happening : Happening) :
    (happening.mended? settings).bind (fun kept => kept.stage.calls?) =
      happening.stage.calls? := by
  obtain ⟨stage, move⟩ := happening
  cases stage with
  | asking state attempt =>
      rcases move with halt | error | stream
      · rfl
      · rfl
      · rw [Happening.mended?]
        split <;> rfl
  | resting state attempt =>
      rcases move with halt | ⟨⟩
      · rfl
      · rfl
  | _ => rfl

/-- The complete turns stay. -/
theorem turns_mend : turns (mend settings log) = turns log := by
  rw [turns, mend, List.filterMap_filterMap, turns]
  exact List.filterMap_congr fun happening _ => turn?_mended happening

/-- The same tools are called with the same arguments. -/
theorem called_mend :
    called (mend settings log) stage.mended = called log stage := by
  have hstage : stage.mended.calls? = stage.calls? := by
    cases stage <;> rfl
  have hlog : ((mend settings log).map Happening.stage).filterMap calls? =
      (log.map Happening.stage).filterMap calls? := by
    rw [List.filterMap_map, List.filterMap_map, mend, List.filterMap_filterMap]
    exact List.filterMap_congr fun happening _ => calls?_mended happening
  rw [called_eq, called_eq, hlog, hstage]

/-- Every stream that is left is whole, unless the conversation failed. -/
theorem Follows.whole_of_mem_mend
    (hfollows : Follows settings request log stage)
    (hmem : (⟨.asking state attempt, .ok (.ok stream)⟩ : Happening) ∈
      mend settings log)
    (hends : ∀ error, stage ≠ .ended (.error error)) : stream.broken = none := by
  obtain ⟨before, after, hlog⟩ := List.append_of_mem hmem
  have hmended := hfollows.mended
  rw [hlog] at hmended
  cases hbroken : stream.broken with
  | none => rfl
  | some error =>
      rcases Leads.of_broken hmended hbroken with
        ⟨-, hleft, -⟩ | ⟨-, -, failure, -, hended⟩
      · exact absurd hleft (Nat.not_lt_zero _)
      · exact absurd (eq_ended_of_mended hended) (hends failure)

/-- A conversation on which broken streams leave no mark. -/
structure Unscathed (settings : Settings) (request : AgentConfig) (log : Log)
    (stage : Conversation) : Prop where
  /-- While a turn is asked for, it has been asked for by one request, and no
  more often than there are retries and once more. -/
  attempts : ∀ state attempt, stage = .asking state attempt →
    ∃ earlier streams,
      log = earlier ++ ⟨.ready state, false⟩ :: retries state streams ∧
      asked settings request (retries state streams) stage =
        List.replicate (attempt + 1)
          ⟨model settings request, state.messages, state.tools⟩ ∧
      attempt ≤ settings.retry.maxRetries ∧
      ∀ tried ∈ streams, tried.transient = true
  /-- A stream that breaks is asked for again, after a rest, if the failure may
  pass and there are retries left.  If not, the failure is the agent's. -/
  broken : ∀ before state attempt stream after error,
    log = before ++ ⟨.asking state attempt, .ok (.ok stream)⟩ :: after →
    stream.broken = some error →
    (error.retryable = true ∧ attempt < settings.retry.maxRetries ∧
        Leads settings request (.resting state attempt) after stage) ∨
      (¬ (error.retryable = true ∧ attempt < settings.retry.maxRetries) ∧
        after = [] ∧
        ∃ failure, Surfaces error failure ∧ stage = .ended (.error failure))
  rested : ∀ before state attempt after,
    log = before ++ ⟨.resting state attempt, .ok ()⟩ :: after →
    Leads settings request (.asking state (attempt + 1)) after stage
  /-- The turn is what the last stream alone comes to. -/
  whole : ∀ before state attempt stream after,
    log = before ++ ⟨.asking state attempt, .ok (.ok stream)⟩ :: after →
    stream.broken = none →
    Leads settings request
      (conclude settings request state (Turn.ofDeltas stream.deltas)) after stage
  transcript : ∀ state attempt, stage = .asking state attempt →
    ∃ rounds, Tells request rounds state ∧ turns log = rounds.map Round.turn
  dispatched : ∀ call ∈ called log stage, ∃ turn ∈ turns log,
    ∃ named ∈ turn.namedCalls, call = (named.name, named.arguments)
  answered : ∀ result, stage = .ended (.ok result) →
    ∃ turn, (turns log).getLast? = some turn ∧ result.text = turn.text ∧
      readAnswer request turn.text = .ok result.output ∧
      result.read = ((turns log).map Turn.read).sum ∧
      result.written = ((turns log).map Turn.written).sum
  /-- An agent whose streams do not break goes through the same turns and the
  same calls to the same end. -/
  mended : Follows settings.unretried request (mend settings log) stage.mended ∧
    turns (mend settings log) = turns log ∧
    called (mend settings log) stage.mended = called log stage ∧
    ((∀ error, stage ≠ .ended (.error error)) →
      ∀ state attempt stream,
        (⟨.asking state attempt, .ok (.ok stream)⟩ : Happening) ∈
          mend settings log → stream.broken = none)

/-- Whatever streams break, and however often, they leave no mark on a
conversation. -/
theorem Follows.unscathed (hfollows : Follows settings request log stage) :
    Unscathed settings request log stage where
  attempts := by
    rintro state attempt rfl
    obtain ⟨earlier, streams, hlog, rfl, hmax, htransient⟩ := hfollows.attempts
    exact ⟨earlier, streams, hlog, asked_retries streams, hmax, htransient⟩
  broken := by
    rintro before state attempt stream after error rfl hbroken
    exact Leads.of_broken hfollows hbroken
  rested := by
    rintro before state attempt after rfl
    exact (Leads.split hfollows).2
  whole := by
    rintro before state attempt stream after rfl hwhole
    exact Leads.of_whole hfollows hwhole
  transcript := by
    rintro state attempt rfl
    obtain ⟨rounds, htells, -, hturns⟩ := hfollows.tells
    exact ⟨rounds, htells, hturns⟩
  dispatched _ hcalled := hfollows.dispatched hcalled
  answered := by
    rintro result rfl
    exact hfollows.totals
  mended := ⟨hfollows.mended, turns_mend, called_mend,
    fun hends _ _ _ hmem => hfollows.whole_of_mem_mend hmem hends⟩

end Conversation

end Agent

namespace Research

open Agent Agent.Conversation

/-- The tokens of the stream that broke are not counted. -/
theorem unscathed_research :
    Follows settings request log (.ended (.ok result)) ∧
      ∃ turn, (turns log).getLast? = some turn ∧ result.text = turn.text ∧
        result.read = 5 + 9 ∧
        Follows settings.unretried request (mend settings log)
          (.ended (.ok result)) := by
  have hunscathed := Follows.unscathed follows
  obtain ⟨turn, hlast, htext, -, hread, -⟩ := hunscathed.answered result rfl
  exact ⟨follows, turn, hlast, htext, hread, hunscathed.mended.1⟩

end Research

end Workflow
