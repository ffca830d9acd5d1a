import Workflow.Proofs.Agent.Round

/-!
# Requests and results in pairs

All that an agent ever sends to its model is an opening, with one message for
each request for tools and one for their results, in turn.  This holds however
the model names and numbers the requests and whatever becomes of the tools,
since a round is closed only when each of its requests has a result.  A
conversation therefore has as many rounds as it may have at most, and one that
is asked for more of them ends at once.
-/

namespace Workflow

namespace Agent.Conversation

variable {settings : Settings} {request : AgentConfig}
variable {first stage last : Conversation} {log before after : Log}
variable {state later : Transcript} {attempt again : Nat}

/-- The messages that present some rounds to a model: what the agent is to do,
perhaps after a word on the form of its answer, and then the rounds. -/
structure Presents (request : AgentConfig) (rounds : List Round)
    (messages : List Message) : Prop where
  exists_opening : ∃ system : List Message, system.length ≤ 1 ∧
    (∀ message ∈ system, message.role = .system) ∧
    messages = system ++ ⟨.user, [.text request.instructions], none⟩ ::
      rounds.flatMap Round.messages
  named : ∀ round ∈ rounds, round.turn.namedCalls ≠ []
  paired : ∀ round ∈ rounds, List.Forall₂
    (fun call block => ∃ content isError,
      block = .toolResult call.id content isError)
    round.turn.namedCalls round.results

/-- A conversation in which all requests to the model are in good order. -/
structure Paired (settings : Settings) (request : AgentConfig) (log : Log)
    (stage : Conversation) : Prop where
  /-- A request presents rounds, no more of them than there may be, and their
  turns are the complete turns so far. -/
  presents : ∀ sent ∈ asked settings request log stage,
    ∃ rounds, Presents request rounds sent.messages ∧
      rounds.length ≤ limit settings request ∧
      rounds.map Round.turn <+: turns log
  /-- A later request only adds to the messages of an earlier one. -/
  grows : (asked settings request log stage).Pairwise fun earlier later =>
    earlier.messages <+: later.messages
  /-- The answer is a turn that asks for nothing, and what it says about the
  number of rounds is true. -/
  answered : ∀ result, stage = .ended (.ok result) →
    ∃ before state attempt stream rounds,
      log = before ++ [⟨.asking state attempt, .ok (.ok stream)⟩] ∧
      stream.broken = none ∧
      (Turn.ofDeltas stream.deltas).namedCalls = [] ∧
      Presents request rounds state.messages ∧ result.rounds = rounds.length
  /-- A turn that asks for tools after the last round is the end, and nothing
  is called any more. -/
  spent : ∀ before state attempt stream after rounds,
    log = before ++ ⟨.asking state attempt, .ok (.ok stream)⟩ :: after →
    Presents request rounds state.messages →
    rounds.length = limit settings request → stream.broken = none →
    (Turn.ofDeltas stream.deltas).namedCalls ≠ [] →
    after = [] ∧ stage = .ended (.error (exhausted settings request))

theorem exists_opening (request : AgentConfig) :
    ∃ system : List Message, system.length ≤ 1 ∧
      (∀ message ∈ system, message.role = .system) ∧
      opening request =
        system ++ [⟨.user, [.text request.instructions], none⟩] := by
  cases hformat : request.outputFormat with
  | text =>
      refine ⟨[], by simp, by simp, ?_⟩
      simp [opening, hformat, Message.ofText]
  | json schema =>
      refine ⟨[.ofText .system (jsonInstruction schema) none], by simp, ?_, ?_⟩
      · simp [Message.ofText]
      · simp [opening, hformat, Message.ofText]

theorem Tells.presents {rounds : List Round}
    (htells : Tells request rounds state) :
    Presents request rounds state.messages where
  exists_opening := by
    obtain ⟨system, hlength, hroles, hopening⟩ := exists_opening request
    refine ⟨system, hlength, hroles, ?_⟩
    rw [htells.messages_eq, hopening, List.append_assoc]
    rfl
  named := htells.named
  paired := by
    intro round hround
    refine (htells.replied round hround).imp ?_
    rintro call block (_ | ⟨_, content, isError⟩)
    · exact ⟨_, true, rfl⟩
    · exact ⟨content, isError, rfl⟩

theorem length_flatMap_messages (rounds : List Round) :
    (rounds.flatMap Round.messages).length = 2 * rounds.length := by
  induction rounds with
  | nil => rfl
  | cons round rounds ih =>
      simp only [List.flatMap_cons, List.length_append, ih, List.length_cons]
      simp only [Round.messages, List.length_cons, List.length_nil]
      omega

/-- The messages tell how many rounds they present, since a word on the form
of the answer would make their number even. -/
theorem Presents.length_eq {rounds others : List Round}
    {messages : List Message} (hpresents : Presents request rounds messages)
    (hothers : Presents request others messages) :
    rounds.length = others.length := by
  obtain ⟨system, hsystem, -, hmessages⟩ := hpresents.exists_opening
  obtain ⟨another, hanother, -, hsame⟩ := hothers.exists_opening
  have hlength := congrArg List.length (hmessages.symm.trans hsame)
  simp only [List.length_append, List.length_cons,
    length_flatMap_messages] at hlength
  omega

theorem Follows.messages_grow
    (hfollows : Follows settings request before (.asking state attempt))
    (hleads : Leads settings request (.asking state attempt) after
      (.asking later again)) :
    state.messages <+: later.messages := by
  obtain ⟨rounds, hstands⟩ := hfollows.stands
  obtain ⟨more, hmore, hlater⟩ := hleads.stands before hstands
  cases hstands with
  | asking htells _ _ =>
      cases hlater with
      | asking hothers _ _ => exact htells.messages_grow hothers hmore

theorem Follows.presents
    (hfollows : Follows settings request log stage) {sent : ModelRequest}
    (hsent : sent ∈ asked settings request log stage) :
    ∃ rounds, Presents request rounds sent.messages ∧
      rounds.length ≤ limit settings request ∧
      rounds.map Round.turn <+: turns log := by
  obtain ⟨before, after, state, attempt, rfl, hbefore, -, rfl⟩ :=
    hfollows.exists_of_mem_asked hsent
  obtain ⟨rounds, htells, hlimit, hturns⟩ := Follows.tells hbefore
  refine ⟨rounds, htells.presents, hlimit, ?_⟩
  rw [turns_append, hturns]
  exact List.prefix_append _ _

theorem asked_concat (move : stage.Move) (next : Conversation) :
    asked settings request (log ++ [⟨stage, move⟩]) next =
      asked settings request log stage ++
        (next.asks? settings request).toList := by
  rw [asked_eq, List.map_append]
  rfl

theorem Follows.grows (hfollows : Follows settings request log stage) :
    (asked settings request log stage).Pairwise fun earlier later =>
      earlier.messages <+: later.messages := by
  induction hfollows with
  | nil =>
      cases hasks : (start request).asks? settings request <;>
        simp [asked, stages, hasks]
  | @snoc log stage hfollows move ih =>
      rw [asked_concat, List.pairwise_append]
      refine ⟨ih, ?_, ?_⟩
      · cases (step settings request stage move).asks? settings request <;> simp
      · intro earlier hearlier latest hlatest
        obtain ⟨before, after, state, attempt, rfl, hbefore, hafter, rfl⟩ :=
          Leads.exists_of_mem_asked hfollows hearlier
        have hnext := hafter.snoc move
        obtain ⟨later, again, hasking, rfl⟩ :=
          exists_of_asks? (Option.mem_toList.mp hlatest)
        rw [hasking] at hnext
        exact Follows.messages_grow hbefore hnext

/-- Only a complete turn that asks for nothing ends a conversation well. -/
theorem Goes.answered {move : stage.Move} {next : Conversation}
    {result : Result} (hgoes : Goes settings request stage move next)
    (hended : next = .ended (.ok result)) :
    ∃ state attempt stream,
      (⟨stage, move⟩ : Happening) = ⟨.asking state attempt, .ok (.ok stream)⟩ ∧
      stream.broken = none ∧
      (Turn.ofDeltas stream.deltas).namedCalls = [] ∧
      result.rounds = state.rounds := by
  have hproceed (state : Transcript) (results : List Block)
      (calls : List Call) :
      proceed state results calls ≠ .ended (.ok result) := by
    rcases proceed_cases state results calls with
      ⟨-, hready⟩ | ⟨_, _, _, -, -, -, hcalling⟩
    · simp [hready]
    · simp [hcalling]
  cases hgoes with
  | answers hwhole hnone _ =>
      obtain rfl := Except.ok.inj (Conversation.ended.inj hended)
      exact ⟨_, _, _, rfl, hwhole, hnone, rfl⟩
  | enters _ _ _ => exact absurd hended (hproceed _ _ _)
  | learns _ => exact absurd hended (hproceed _ _ _)
  | _ => simp [begin] at hended

theorem Follows.answered {result : Result}
    (hfollows : Follows settings request log (.ended (.ok result))) :
    ∃ before state attempt stream rounds,
      log = before ++ [⟨.asking state attempt, .ok (.ok stream)⟩] ∧
      stream.broken = none ∧
      (Turn.ofDeltas stream.deltas).namedCalls = [] ∧
      Presents request rounds state.messages ∧
      result.rounds = rounds.length := by
  generalize hended : Conversation.ended (.ok result) = stage at hfollows
  cases hfollows with
  | nil =>
      rw [start] at hended
      split at hended <;> simp [begin] at hended
  | @snoc before stage hbefore move =>
      obtain ⟨state, attempt, stream, hhappens, hwhole, hnone, hrounds⟩ :=
        (goes_step stage move).answered hended.symm
      obtain ⟨rfl, -⟩ := Happening.mk.inj hhappens
      obtain ⟨rounds, htells, -, -⟩ := Follows.tells hbefore
      rw [hhappens]
      exact ⟨before, state, attempt, stream, rounds, rfl, hwhole, hnone,
        htells.presents, hrounds.trans htells.rounds_eq⟩

theorem Follows.spent {stream : ModelStream} {rounds : List Round}
    (hfollows : Follows settings request
      (before ++ ⟨.asking state attempt, .ok (.ok stream)⟩ :: after) stage)
    (hpresents : Presents request rounds state.messages)
    (hspent : rounds.length = limit settings request)
    (hwhole : stream.broken = none)
    (hnamed : (Turn.ofDeltas stream.deltas).namedCalls ≠ []) :
    after = [] ∧ stage = .ended (.error (exhausted settings request)) := by
  obtain ⟨hbefore, hafter⟩ := Leads.split hfollows
  obtain ⟨told, htells, -, -⟩ := Follows.tells hbefore
  have hrounds : limit settings request = state.rounds := by
    rw [htells.rounds_eq, ← hspent]
    exact hpresents.length_eq htells.presents
  have hstep : step settings request (.asking state attempt)
      (.ok (.ok stream)) = .ended (.error (exhausted settings request)) := by
    rw [step_whole hwhole]
    exact conclude_of_spent hnamed (Nat.le_of_eq hrounds)
  rw [hstep] at hafter
  exact hafter.of_ended

/-- Whatever the model and the tools do, all that the model is sent is made of
an opening and of rounds in which each request has its result. -/
theorem Follows.paired (hfollows : Follows settings request log stage) :
    Paired settings request log stage where
  presents _ hsent := hfollows.presents hsent
  grows := hfollows.grows
  answered := by
    rintro result rfl
    exact hfollows.answered
  spent := by
    rintro before state attempt stream after rounds rfl hpresents
    exact hfollows.spent hpresents

end Agent.Conversation

namespace Research

open Agent Agent.Conversation

/-- Requests without a name do not count, and the answer comes after one
round. -/
theorem paired_research :
    Follows settings request log (.ended (.ok result)) ∧
      ∃ rounds, Presents request rounds told.messages ∧ rounds.length = 1 := by
  refine ⟨follows, ?_⟩
  obtain ⟨before, state, attempt, stream, rounds, hlog, -, -, hpresents,
    hrounds⟩ := (Follows.paired follows).answered result rfl
  have hlast : log.take 7 ++ [⟨.asking told 0, .ok (.ok found)⟩] =
      before ++ [⟨.asking state attempt, .ok (.ok stream)⟩] := hlog
  have hhappens := List.singleton_inj.mp (List.append_inj' hlast rfl).2
  obtain ⟨rfl, -⟩ := Conversation.asking.inj (Happening.mk.inj hhappens).1
  exact ⟨rounds, hpresents, hrounds.symm⟩

end Research

end Workflow
