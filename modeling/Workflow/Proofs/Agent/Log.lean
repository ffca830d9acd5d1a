import Mathlib.Data.List.Basic
import Workflow.Model.Exchange
import Workflow.Proofs.Agent.Failure

/-!
# Logs of conversations

A conversation is followed from stage to stage.  Its `Log` holds every stage
that it has left, with what happened there.  The model, the tools and whoever
interrupts the agent act by moves only, so all logs together stand for any
behaviour of theirs.  What others see of a conversation can be read off its
log and the stage that follows it: the requests to the model, the calls of
tools, and those turns of the model that were complete.

`Goes` says what one step of a conversation can be.  Invariants of
conversations are kept step by step through it, without a look into `step`.
-/

namespace Workflow

namespace Agent

/-- A transcript that goes on with a turn in which the model asks for tools. -/
def Transcript.enter (state : Transcript) (turn : Turn) : Transcript :=
  { state with
    messages := state.messages ++ [turn.toMessage]
    rounds := state.rounds + 1
    read := state.read + turn.read
    written := state.written + turn.written }

theorem Transcript.offers_eq_true_iff {state : Transcript} {name : String} :
    state.offers name = true ↔ ∃ tool ∈ state.tools, tool.name = name := by
  simp [Transcript.offers]

namespace Conversation

/-- Something that has happened at a stage of a conversation. -/
structure Happening where
  stage : Conversation
  move : stage.Move

/-- What has happened in a conversation, the earliest first. -/
abbrev Log := List Happening

/-- How many rounds of tool calls an agent may ask for. -/
def limit (settings : Settings) (request : AgentConfig) : Nat :=
  request.maxToolRounds.getD settings.maxRounds

/-- The turn that was complete when something happened. -/
def Happening.turn? : Happening → Option Turn
  | ⟨asking _ _, .ok (.ok ⟨deltas, none⟩)⟩ => some (Turn.ofDeltas deltas)
  | _ => none

/-- The complete turns of the model. -/
def turns (log : Log) : List Turn :=
  log.filterMap Happening.turn?

/-- What the model is asked at a stage. -/
def asks? (settings : Settings) (request : AgentConfig) :
    Conversation → Option ModelRequest
  | asking state _ =>
    some ⟨model settings request, state.messages, state.tools⟩
  | _ => none

/-- The name and the arguments by which a tool is called at a stage. -/
def calls? : Conversation → Option (String × Json)
  | calling _ _ call _ => some (call.name, call.arguments)
  | _ => none

/-- The stages of a log and the one that follows it. -/
def stages (log : Log) (stage : Conversation) : List Conversation :=
  log.map Happening.stage ++ [stage]

/-- The requests to the model, the earliest first. -/
def asked (settings : Settings) (request : AgentConfig) (log : Log)
    (stage : Conversation) : List ModelRequest :=
  (stages log stage).filterMap (asks? settings request)

/-- The calls of tools, the earliest first. -/
def called (log : Log) (stage : Conversation) : List (String × Json) :=
  (stages log stage).filterMap calls?

/-- A log that takes a conversation from one stage to another. -/
inductive Leads (settings : Settings) (request : AgentConfig)
    (first : Conversation) : Log → Conversation → Prop
  | nil : Leads settings request first [] first
  | snoc {log : Log} {stage : Conversation}
      (hleads : Leads settings request first log stage) (move : stage.Move) :
      Leads settings request first (log ++ [⟨stage, move⟩])
        (step settings request stage move)

/-- A stage that a conversation has come to by a log. -/
def Follows (settings : Settings) (request : AgentConfig) (log : Log)
    (stage : Conversation) : Prop :=
  Leads settings request (start request) log stage

variable {settings : Settings} {request : AgentConfig}
variable {first stage middle last : Conversation} {log before after : Log}

theorem asked_eq : asked settings request log stage =
    (log.map Happening.stage).filterMap (asks? settings request) ++
      (stage.asks? settings request).toList := by
  rw [asked, stages, List.filterMap_append]
  cases hasks : stage.asks? settings request <;> simp [hasks]

theorem called_eq : called log stage =
    (log.map Happening.stage).filterMap calls? ++ stage.calls?.toList := by
  rw [called, stages, List.filterMap_append]
  cases hcalls : stage.calls? <;> simp [hcalls]

theorem exists_of_asks? {sent : ModelRequest}
    (hasks : stage.asks? settings request = some sent) :
    ∃ state attempt, stage = .asking state attempt ∧
      sent = ⟨model settings request, state.messages, state.tools⟩ := by
  cases stage with
  | asking state attempt =>
      exact ⟨state, attempt, rfl, (Option.some.inj hasks).symm⟩
  | _ => simp [asks?] at hasks

theorem exists_of_calls? {call : String × Json}
    (hcalls : stage.calls? = some call) :
    ∃ state results next rest, stage = .calling state results next rest ∧
      call = (next.name, next.arguments) := by
  cases stage with
  | calling state results next rest =>
      exact ⟨state, results, next, rest, rfl, (Option.some.inj hcalls).symm⟩
  | _ => simp [calls?] at hcalls

theorem turns_append : turns (before ++ after) = turns before ++ turns after :=
  List.filterMap_append

theorem turns_concat_of_none {happening : Happening}
    (hnone : happening.turn? = none) :
    turns (log ++ [happening]) = turns log := by
  simp [turns, hnone]

theorem turn?_of_broken {state : Transcript} {attempt : Nat}
    {stream : ModelStream} {error : Error}
    (hbroken : stream.broken = some error) :
    Happening.turn? ⟨.asking state attempt, .ok (.ok stream)⟩ = none := by
  obtain ⟨deltas, broken⟩ := stream
  obtain rfl : broken = some error := hbroken
  rfl

theorem turns_concat_of_whole {state : Transcript} {attempt : Nat}
    {stream : ModelStream} (hwhole : stream.broken = none) :
    turns (log ++ [⟨.asking state attempt, .ok (.ok stream)⟩]) =
      turns log ++ [Turn.ofDeltas stream.deltas] := by
  obtain ⟨deltas, broken⟩ := stream
  obtain rfl : broken = none := hwhole
  exact turns_append

namespace Leads

theorem append (hleads : Leads settings request first before middle)
    (hlater : Leads settings request middle after last) :
    Leads settings request first (before ++ after) last := by
  induction hlater with
  | nil => simpa using hleads
  | snoc _ move ih =>
      rw [← List.append_assoc]
      exact ih.snoc move

theorem single (stage : Conversation) (move : stage.Move) :
    Leads settings request stage [⟨stage, move⟩]
      (step settings request stage move) :=
  Leads.nil.snoc move

/-- Every beginning of a log leads to the stage that comes next in it. -/
theorem split {move : middle.Move}
    (hleads : Leads settings request first
      (before ++ ⟨middle, move⟩ :: after) last) :
    Leads settings request first before middle ∧
      Leads settings request (step settings request middle move) after last := by
  generalize hlog : before ++ ⟨middle, move⟩ :: after = log at hleads
  induction hleads generalizing after with
  | nil => simp at hlog
  | @snoc log stage hleads latest ih =>
      -- Either the log was cut at its last entry, or the cut is one of a
      -- shorter log.
      rcases List.eq_nil_or_concat after with rfl | ⟨init, final, rfl⟩
      · obtain ⟨rfl, hlast⟩ := List.append_inj' hlog rfl
        obtain ⟨rfl, hmove⟩ := Happening.mk.inj (List.cons.inj hlast).1
        obtain rfl := eq_of_heq hmove
        exact ⟨hleads, .nil⟩
      · have hsnoc : (before ++ ⟨middle, move⟩ :: init) ++ [final] =
            log ++ [⟨stage, latest⟩] := by simpa using hlog
        obtain ⟨hinit, hfinal⟩ := List.append_inj' hsnoc rfl
        obtain ⟨hbefore, hafter⟩ := ih hinit
        obtain rfl := List.singleton_inj.mp hfinal
        exact ⟨hbefore, by simpa using hafter.snoc latest⟩

/-- Each of the stages of a log ends a beginning of the log. -/
theorem exists_of_mem_stages {visited : Conversation}
    (hleads : Leads settings request first log stage)
    (hvisited : visited ∈ stages log stage) :
    ∃ before after, log = before ++ after ∧
      Leads settings request first before visited ∧
      Leads settings request visited after stage := by
  rcases List.mem_append.mp hvisited with hearlier | hlast
  · obtain ⟨⟨_, move⟩, hmem, rfl⟩ := List.mem_map.mp hearlier
    obtain ⟨before, after, rfl⟩ := List.append_of_mem hmem
    obtain ⟨hbefore, hafter⟩ := hleads.split
    exact ⟨before, ⟨_, move⟩ :: after, rfl, hbefore,
      (Leads.single _ move).append hafter⟩
  · obtain rfl := List.mem_singleton.mp hlast
    exact ⟨log, [], by simp, hleads, .nil⟩

/-- What the model is sent, it is sent at a stage that the log leads to. -/
theorem exists_of_mem_asked {sent : ModelRequest}
    (hleads : Leads settings request first log stage)
    (hsent : sent ∈ asked settings request log stage) :
    ∃ before after state attempt, log = before ++ after ∧
      Leads settings request first before (.asking state attempt) ∧
      Leads settings request (.asking state attempt) after stage ∧
      sent = ⟨model settings request, state.messages, state.tools⟩ := by
  obtain ⟨visited, hvisited, hasks⟩ := List.mem_filterMap.mp hsent
  obtain ⟨before, after, hlog, hbefore, hafter⟩ :=
    hleads.exists_of_mem_stages hvisited
  obtain ⟨state, attempt, rfl, rfl⟩ := exists_of_asks? hasks
  exact ⟨before, after, state, attempt, hlog, hbefore, hafter, rfl⟩

/-- What is called, is called at a stage that the log leads to. -/
theorem exists_of_mem_called {call : String × Json}
    (hleads : Leads settings request first log stage)
    (hcalled : call ∈ called log stage) :
    ∃ before after state results next rest, log = before ++ after ∧
      Leads settings request first before (.calling state results next rest) ∧
      call = (next.name, next.arguments) := by
  obtain ⟨visited, hvisited, hcalls⟩ := List.mem_filterMap.mp hcalled
  obtain ⟨before, after, hlog, hbefore, -⟩ :=
    hleads.exists_of_mem_stages hvisited
  obtain ⟨state, results, next, rest, rfl, rfl⟩ := exists_of_calls? hcalls
  exact ⟨before, after, state, results, next, rest, hlog, hbefore, rfl⟩

/-- Nothing happens after the end of a conversation. -/
theorem of_ended {result : Except Error Result}
    (hleads : Leads settings request (.ended result) log stage) :
    log = [] ∧ stage = .ended result := by
  induction hleads with
  | nil => exact ⟨rfl, rfl⟩
  | snoc _ move ih =>
      obtain ⟨-, rfl⟩ := ih
      exact move.elim

end Leads

/-- The stages that a conversation can come to are those that follow some
log. -/
theorem reaches_iff_exists_follows :
    Reaches settings request stage ↔
      ∃ log, Follows settings request log stage := by
  constructor
  · intro hreaches
    induction hreaches with
    | start => exact ⟨[], .nil⟩
    | step _ move ih =>
        obtain ⟨log, hfollows⟩ := ih
        exact ⟨_, hfollows.snoc move⟩
  · rintro ⟨log, hfollows⟩
    induction hfollows with
    | nil => exact .start
    | snoc _ move ih => exact ih.step move

/-! ## Steps -/

/-- What a step of a conversation can be. -/
inductive Goes (settings : Settings) (request : AgentConfig) :
    (stage : Conversation) → stage.Move → Conversation → Prop
  | begins (tools : List ToolDefinition) :
      Goes settings request .discovering (some (.ok tools))
        (begin request tools)
  | asks (state : Transcript) :
      Goes settings request (.ready state) false (.asking state 0)
  | rests {state : Transcript} {attempt : Nat} {stream : ModelStream}
      {error : Error} (hbroken : stream.broken = some error)
      (hretryable : error.retryable = true)
      (hleft : attempt < settings.retry.maxRetries) :
      Goes settings request (.asking state attempt) (.ok (.ok stream))
        (.resting state attempt)
  | asksAgain (state : Transcript) (attempt : Nat) :
      Goes settings request (.resting state attempt) (.ok ())
        (.asking state (attempt + 1))
  | answers {state : Transcript} {attempt : Nat} {stream : ModelStream}
      {output : Json} (hwhole : stream.broken = none)
      (hnone : (Turn.ofDeltas stream.deltas).namedCalls = [])
      (houtput : readAnswer request (Turn.ofDeltas stream.deltas).text =
        .ok output) :
      Goes settings request (.asking state attempt) (.ok (.ok stream))
        (.ended (.ok ⟨output, (Turn.ofDeltas stream.deltas).text, state.rounds,
          state.read + (Turn.ofDeltas stream.deltas).read,
          state.written + (Turn.ofDeltas stream.deltas).written⟩))
  | enters {state : Transcript} {attempt : Nat} {stream : ModelStream}
      (hwhole : stream.broken = none)
      (hnamed : (Turn.ofDeltas stream.deltas).namedCalls ≠ [])
      (hlimit : state.rounds < limit settings request) :
      Goes settings request (.asking state attempt) (.ok (.ok stream))
        (proceed (state.enter (Turn.ofDeltas stream.deltas)) []
          (Turn.ofDeltas stream.deltas).namedCalls)
  | learns {state : Transcript} {results : List Block} {call : Call}
      {rest : List Call} (outcome : Except Error ToolOutput) :
      Goes settings request (.calling state results call rest) (.ok outcome)
        (proceed state (results ++ [answer call outcome]) rest)
  | fails {stage : Conversation} (move : stage.Move) (error : Error) :
      Goes settings request stage move (.ended (.error error))

/-- The failure of an agent that has asked for tools too often. -/
def exhausted (settings : Settings) (request : AgentConfig) : Error :=
  .agent .toolRoundsExhausted
    s!"model still requesting tools after {limit settings request} rounds" none

section Conclude

variable {state : Transcript} {turn : Turn}

theorem conclude_of_none (hnone : turn.namedCalls = []) :
    conclude settings request state turn =
      .ended ((readAnswer request turn.text).map fun output =>
        ⟨output, turn.text, state.rounds, state.read + turn.read,
          state.written + turn.written⟩) := by
  simp only [conclude, hnone]

theorem conclude_of_spent (hnamed : turn.namedCalls ≠ [])
    (hspent : limit settings request ≤ state.rounds) :
    conclude settings request state turn =
      .ended (.error (exhausted settings request)) := by
  unfold conclude
  split
  · contradiction
  · exact if_pos hspent

theorem conclude_of_left (hnamed : turn.namedCalls ≠ [])
    (hleft : state.rounds < limit settings request) :
    conclude settings request state turn =
      proceed (state.enter turn) [] turn.namedCalls := by
  unfold conclude
  split
  · contradiction
  · exact if_neg (Nat.not_le.mpr hleft)

end Conclude

theorem goes_of_whole {state : Transcript} {attempt : Nat}
    {stream : ModelStream} (hwhole : stream.broken = none) :
    Goes settings request (.asking state attempt) (.ok (.ok stream))
      (conclude settings request state (Turn.ofDeltas stream.deltas)) := by
  by_cases hnone : (Turn.ofDeltas stream.deltas).namedCalls = []
  · rw [conclude_of_none hnone]
    cases houtput : readAnswer request (Turn.ofDeltas stream.deltas).text with
    | ok output => exact .answers hwhole hnone houtput
    | error error => exact .fails _ error
  · by_cases hleft : state.rounds < limit settings request
    · rw [conclude_of_left hnone hleft]
      exact .enters hwhole hnone hleft
    · rw [conclude_of_spent hnone (Nat.le_of_not_lt hleft)]
      exact .fails _ _

section Stream

variable {state : Transcript} {attempt : Nat} {stream : ModelStream}
variable {error : Error}

theorem step_whole (hwhole : stream.broken = none) :
    step settings request (.asking state attempt) (.ok (.ok stream)) =
      conclude settings request state (Turn.ofDeltas stream.deltas) := by
  simp only [step, hwhole]

theorem step_retried (hbroken : stream.broken = some error)
    (hretries : error.retryable = true ∧ attempt < settings.retry.maxRetries) :
    step settings request (.asking state attempt) (.ok (.ok stream)) =
      .resting state attempt := by
  simp only [step, hbroken]
  exact if_pos (by simpa using hretries)

theorem step_surfaced (hbroken : stream.broken = some error)
    (hretries :
      ¬ (error.retryable = true ∧ attempt < settings.retry.maxRetries)) :
    step settings request (.asking state attempt) (.ok (.ok stream)) =
      .ended (.error (upstream error)) := by
  simp only [step, hbroken]
  exact if_neg (by simpa using hretries)

theorem goes_stream :
    Goes settings request (.asking state attempt) (.ok (.ok stream))
      (step settings request (.asking state attempt) (.ok (.ok stream))) := by
  cases hbroken : stream.broken with
  | none =>
      rw [step_whole hbroken]
      exact goes_of_whole hbroken
  | some error =>
      by_cases hretries :
          error.retryable = true ∧ attempt < settings.retry.maxRetries
      · rw [step_retried hbroken hretries]
        exact .rests hbroken hretries.1 hretries.2
      · rw [step_surfaced hbroken hretries]
        exact .fails _ _

end Stream

theorem goes_step (stage : Conversation) (move : stage.Move) :
    Goes settings request stage move (step settings request stage move) := by
  cases stage with
  | discovering =>
      rcases move with _ | error | tools
      · exact .fails _ _
      · exact .fails _ _
      · exact .begins tools
  | ready state =>
      cases move with
      | true => exact .fails _ _
      | false => exact .asks state
  | asking state attempt =>
      rcases move with halt | error | stream
      · exact .fails _ _
      · exact .fails _ _
      · exact goes_stream
  | resting state attempt =>
      rcases move with halt | ⟨⟩
      · exact .fails _ _
      · exact .asksAgain state attempt
  | calling state results call rest =>
      rcases move with halt | outcome
      · exact .fails _ _
      · exact .learns outcome
  | ended result => exact move.elim

/-- Requests for tools that are not offered are refused one after the other,
until one is offered or the model is told the results. -/
theorem proceed_cases (state : Transcript) (results : List Block)
    (calls : List Call) :
    (∀ call ∈ calls, state.offers call.name = false) ∧
        proceed state results calls = .ready { state with
          messages := state.messages ++
            [⟨.user, results ++ calls.map refusal, none⟩] } ∨
      ∃ refused call rest, calls = refused ++ call :: rest ∧
        (∀ call ∈ refused, state.offers call.name = false) ∧
        state.offers call.name = true ∧
        proceed state results calls =
          .calling state (results ++ refused.map refusal) call rest := by
  fun_induction proceed state results calls with
  | case1 results => exact .inl ⟨by simp, by simp⟩
  | case2 results call rest hoffers =>
      exact .inr ⟨[], call, rest, rfl, by simp, hoffers, by simp⟩
  | case3 results call rest hoffers ih =>
      have hrefused : state.offers call.name = false := by simpa using hoffers
      rcases ih with
        ⟨hall, hready⟩ | ⟨refused, next, later, rfl, hall, hnext, hcalling⟩
      · exact .inl ⟨by simpa [hrefused] using hall, by simpa using hready⟩
      · exact .inr ⟨call :: refused, next, later, rfl,
          by simpa [hrefused] using hall, hnext, by simpa using hcalling⟩

end Conversation

end Agent

/-! ## A conversation -/

namespace Research

open Agent Agent.Conversation

/-- An agent with one retry for each turn and one round of tool calls. -/
def settings : Settings :=
  ⟨⟨"anthropic", "model", none, none, 4096, 0, [], none⟩, ⟨1, 0, 0, 60⟩, 1,
    60000⟩

/-- It may use all tools of one server. -/
def request : AgentConfig :=
  ⟨"Find the number.", none, [⟨"search", []⟩], .text, none⟩

def tools : List ToolDefinition :=
  [⟨"mcp__search__query", "", .null⟩]

def opened : Transcript :=
  ⟨tools, opening request, 0, 0, 0⟩

/-- A stream that breaks after the start of a request. -/
def cut : ModelStream :=
  ⟨[.text "I will", .toolStart 0 "c0" "mcp__search__query", .usage 5 1],
    some (.modelStream "reset")⟩

def wipe : Call :=
  ⟨"c1", "mcp__admin__wipe", ""⟩

def query : Call :=
  ⟨"c2", "mcp__search__query", ""⟩

/-- Requests for a tool that is not offered and, after a gap, for one that is. -/
def looking : ModelStream :=
  ⟨[.toolStart 0 "c1" "mcp__admin__wipe",
    .toolStart 2 "c2" "mcp__search__query", .usage 5 2], none⟩

def entered : Transcript :=
  opened.enter (Turn.ofDeltas looking.deltas)

def told : Transcript :=
  { entered with messages := entered.messages ++
      [⟨.user, [refusal wipe, .toolResult "c2" "42" false], none⟩] }

def found : ModelStream :=
  ⟨[.text "42", .usage 9 1], none⟩

def result : Result :=
  ⟨.text "42", "42", 1, 14, 3⟩

def log : Log :=
  [⟨.discovering, some (.ok tools)⟩, ⟨.ready opened, false⟩,
    ⟨.asking opened 0, .ok (.ok cut)⟩, ⟨.resting opened 0, .ok ()⟩,
    ⟨.asking opened 1, .ok (.ok looking)⟩,
    ⟨.calling entered [refusal wipe] query [], .ok (.ok (.success "42"))⟩,
    ⟨.ready told, false⟩, ⟨.asking told 0, .ok (.ok found)⟩]

theorem follows : Follows settings request log (.ended (.ok result)) := by
  have hstart : Follows settings request [] .discovering := .nil
  have hready : Follows settings request (log.take 1) (.ready opened) :=
    hstart.snoc (some (.ok tools))
  have hasked : Follows settings request (log.take 2) (.asking opened 0) :=
    hready.snoc false
  have hresting : Follows settings request (log.take 3) (.resting opened 0) :=
    hasked.snoc (.ok (.ok cut))
  have hagain : Follows settings request (log.take 4) (.asking opened 1) :=
    hresting.snoc (.ok ())
  have hcalling : Follows settings request (log.take 5)
      (.calling entered [refusal wipe] query []) :=
    hagain.snoc (.ok (.ok looking))
  have htold : Follows settings request (log.take 6) (.ready told) :=
    hcalling.snoc (.ok (.ok (.success "42")))
  have hlast : Follows settings request (log.take 7) (.asking told 0) :=
    htold.snoc false
  exact hlast.snoc (.ok (.ok found))

end Research

end Workflow
