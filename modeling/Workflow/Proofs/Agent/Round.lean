import Mathlib.Algebra.Order.Ring.Nat
import Mathlib.Data.List.Forall2
import Workflow.Proofs.Agent.Log

/-!
# Rounds of a conversation

A turn in which the model asks for tools and the results that it is told make
a `Round`.  At every stage the transcript of a conversation is its opening and
the rounds so far, with a turn at its end while the tools of that turn are
being run.  `Stands` says so, and also that the turns of the rounds are the
complete turns of the log, one after the other.  From one stage to the next
the rounds only get more, which is why a transcript only grows.
-/

namespace Workflow.Agent.Conversation

variable {settings : Settings} {request : AgentConfig}
variable {first stage middle last : Conversation} {log after : Log}

/-- A turn in which the model asked for tools, and the results that it was
told. -/
structure Round where
  turn : Turn
  results : List Block

/-- The two messages of a round: the text of the turn, unless there is none,
with the requests that have a name, and then the results. -/
def Round.messages (round : Round) : List Message :=
  [⟨.assistant,
      (if round.turn.text.isEmpty then [] else [.text round.turn.text]) ++
        round.turn.namedCalls.map fun call =>
          .toolUse call.id call.name call.arguments, none⟩,
    ⟨.user, round.results, none⟩]

/-- A result for a request, where some tools are offered. -/
inductive Replies (tools : List ToolDefinition) (call : Call) : Block → Prop
  | refused (hname : ¬ ∃ tool ∈ tools, tool.name = call.name) :
      Replies tools call (.toolResult call.id
        s!"tool '{call.name}' is not available to this node" true)
  | told (hname : ∃ tool ∈ tools, tool.name = call.name) (content : String)
      (isError : Bool) :
      Replies tools call (.toolResult call.id content isError)

/-- A transcript that tells of some rounds. -/
structure Tells (request : AgentConfig) (rounds : List Round)
    (state : Transcript) : Prop where
  messages_eq :
    state.messages = opening request ++ rounds.flatMap Round.messages
  rounds_eq : state.rounds = rounds.length
  read_eq : state.read = (rounds.map fun round => round.turn.read).sum
  written_eq : state.written = (rounds.map fun round => round.turn.written).sum
  named : ∀ round ∈ rounds, round.turn.namedCalls ≠ []
  replied : ∀ round ∈ rounds,
    List.Forall₂ (Replies state.tools) round.turn.namedCalls round.results

/-- A conversation that has been through some rounds stands at a stage, after
so many complete turns. -/
inductive Stands (settings : Settings) (request : AgentConfig)
    (rounds : List Round) (turns : List Turn) : Conversation → Prop
  | discovering (hrounds : rounds = []) (hturns : turns = []) :
      Stands settings request rounds turns .discovering
  | ready {state : Transcript} (htells : Tells request rounds state)
      (hlimit : rounds.length ≤ limit settings request)
      (hturns : turns = rounds.map Round.turn) :
      Stands settings request rounds turns (.ready state)
  | asking {state : Transcript} {attempt : Nat}
      (htells : Tells request rounds state)
      (hlimit : rounds.length ≤ limit settings request)
      (hturns : turns = rounds.map Round.turn) :
      Stands settings request rounds turns (.asking state attempt)
  | resting {state : Transcript} {attempt : Nat}
      (htells : Tells request rounds state)
      (hlimit : rounds.length ≤ limit settings request)
      (hturns : turns = rounds.map Round.turn) :
      Stands settings request rounds turns (.resting state attempt)
  | calling {state : Transcript} {turn : Turn} {done rest : List Call}
      {call : Call} {results : List Block} (htells : Tells request rounds state)
      (hlimit : rounds.length < limit settings request)
      (hturns : turns = rounds.map Round.turn ++ [turn])
      (hcalls : turn.namedCalls = done ++ call :: rest)
      (hoffers : ∃ tool ∈ state.tools, tool.name = call.name)
      (hresults : List.Forall₂ (Replies state.tools) done results) :
      Stands settings request rounds turns
        (.calling (state.enter turn) results call rest)
  | answered {turn : Turn} {result : Result}
      (hturns : turns = rounds.map Round.turn ++ [turn])
      (hnone : turn.namedCalls = []) (htext : result.text = turn.text)
      (houtput : readAnswer request turn.text = .ok result.output)
      (hrounds : result.rounds = rounds.length)
      (hread : result.read = (turns.map Turn.read).sum)
      (hwritten : result.written = (turns.map Turn.written).sum) :
      Stands settings request rounds turns (.ended (.ok result))
  | failed (error : Error) :
      Stands settings request rounds turns (.ended (.error error))

section Tells

variable {rounds : List Round} {turns : List Turn} {state : Transcript}
variable {turn : Turn} {results : List Block} {call : Call}

theorem replies_refusal {tools : List ToolDefinition}
    (hname : ¬ ∃ tool ∈ tools, tool.name = call.name) :
    Replies tools call (refusal call) :=
  .refused hname

theorem replies_answer {tools : List ToolDefinition}
    (hname : ∃ tool ∈ tools, tool.name = call.name)
    (outcome : Except Error ToolOutput) :
    Replies tools call (answer call outcome) := by
  cases outcome with
  | ok output => exact .told hname output.content output.isError
  | error error => exact .told hname error.message true

theorem forall₂_refusal {tools : List ToolDefinition} {calls : List Call}
    (hnames : ∀ call ∈ calls, ¬ ∃ tool ∈ tools, tool.name = call.name) :
    List.Forall₂ (Replies tools) calls (calls.map refusal) := by
  rw [List.forall₂_map_right_iff, List.forall₂_same]
  exact fun call hcall => replies_refusal (hnames call hcall)

theorem Tells.opening (tools : List ToolDefinition) :
    Tells request [] ⟨tools, opening request, 0, 0, 0⟩ where
  messages_eq := by simp
  rounds_eq := rfl
  read_eq := rfl
  written_eq := rfl
  named := by simp
  replied := by simp

/-- The transcript of a turn whose requests all have their results. -/
theorem Tells.close (htells : Tells request rounds state)
    (hnamed : turn.namedCalls ≠ [])
    (hresults : List.Forall₂ (Replies state.tools) turn.namedCalls results) :
    Tells request (rounds ++ [⟨turn, results⟩]) { state.enter turn with
      messages := (state.enter turn).messages ++ [⟨.user, results, none⟩] } where
  messages_eq := by
    simp [Transcript.enter, htells.messages_eq, Round.messages, Turn.toMessage,
      Call.toBlock]
  rounds_eq := by simp [Transcript.enter, htells.rounds_eq]
  read_eq := by simp [Transcript.enter, htells.read_eq]
  written_eq := by simp [Transcript.enter, htells.written_eq]
  named := by
    simp only [List.forall_mem_append, List.forall_mem_singleton]
    exact ⟨htells.named, hnamed⟩
  replied := by
    simp only [List.forall_mem_append, List.forall_mem_singleton]
    exact ⟨htells.replied, hresults⟩

/-- Transcripts of more rounds go on where those of fewer rounds end. -/
theorem Tells.messages_grow {more : List Round} {later : Transcript}
    (htells : Tells request rounds state) (hlater : Tells request more later)
    (hmore : rounds <+: more) : state.messages <+: later.messages := by
  obtain ⟨added, rfl⟩ := hmore
  refine ⟨added.flatMap Round.messages, ?_⟩
  rw [htells.messages_eq, hlater.messages_eq, List.flatMap_append,
    List.append_assoc]

/-- While a turn is gone through, the conversation stands at one of its calls
or has closed the round. -/
theorem stands_proceed {done rest : List Call}
    (htells : Tells request rounds state)
    (hlimit : rounds.length < limit settings request)
    (hturns : turns = rounds.map Round.turn ++ [turn])
    (hnamed : turn.namedCalls ≠ []) (hcalls : turn.namedCalls = done ++ rest)
    (hresults : List.Forall₂ (Replies state.tools) done results) :
    ∃ more, rounds <+: more ∧ Stands settings request more turns
      (proceed (state.enter turn) results rest) := by
  have hrefused {calls : List Call}
      (hall : ∀ call ∈ calls, (state.enter turn).offers call.name = false) :
      List.Forall₂ (Replies state.tools) calls (calls.map refusal) := by
    refine forall₂_refusal fun call hcall hname => ?_
    have hoffers : (state.enter turn).offers call.name = true :=
      Transcript.offers_eq_true_iff.mpr hname
    simp [hall call hcall] at hoffers
  rcases proceed_cases (state.enter turn) results rest with
    ⟨hall, hready⟩ | ⟨refused, call, later, rfl, hall, hoffers, hcalling⟩
  · have hreplied : List.Forall₂ (Replies state.tools) turn.namedCalls
        (results ++ rest.map refusal) := by
      rw [hcalls]
      exact List.rel_append hresults (hrefused hall)
    refine ⟨rounds ++ [⟨turn, results ++ rest.map refusal⟩],
      List.prefix_append _ _, ?_⟩
    rw [hready]
    refine .ready (htells.close hnamed hreplied) ?_ (by simpa using hturns)
    rw [List.length_append]
    exact hlimit
  · refine ⟨rounds, List.prefix_rfl, ?_⟩
    rw [hcalling]
    rw [← List.append_assoc] at hcalls
    exact .calling htells hlimit hturns hcalls
      (Transcript.offers_eq_true_iff.mp hoffers)
      (List.rel_append hresults (hrefused hall))

end Tells

section Stands

variable {rounds : List Round}

theorem stands_start :
    Stands settings request [] [] (start request) := by
  unfold start
  split
  · exact .ready (.opening []) (Nat.zero_le _) rfl
  · exact .discovering rfl rfl

/-- A step may add a round, and takes none away. -/
theorem Stands.step {move : stage.Move} {next : Conversation}
    (hstands : Stands settings request rounds (turns log) stage)
    (hgoes : Goes settings request stage move next) :
    ∃ more, rounds <+: more ∧ Stands settings request more
      (turns (log ++ [⟨stage, move⟩])) next := by
  cases hgoes with
  | begins tools =>
      cases hstands with
      | discovering hrounds hturns =>
          subst hrounds
          rw [turns_concat_of_none rfl, hturns]
          exact ⟨[], List.prefix_rfl, .ready (.opening tools) (Nat.zero_le _) rfl⟩
  | asks state =>
      cases hstands with
      | ready htells hlimit hturns =>
          rw [turns_concat_of_none rfl]
          exact ⟨rounds, List.prefix_rfl, .asking htells hlimit hturns⟩
  | rests hbroken _ _ =>
      cases hstands with
      | asking htells hlimit hturns =>
          rw [turns_concat_of_none (turn?_of_broken hbroken)]
          exact ⟨rounds, List.prefix_rfl, .resting htells hlimit hturns⟩
  | asksAgain state attempt =>
      cases hstands with
      | resting htells hlimit hturns =>
          rw [turns_concat_of_none rfl]
          exact ⟨rounds, List.prefix_rfl, .asking htells hlimit hturns⟩
  | answers hwhole hnone houtput =>
      cases hstands with
      | asking htells hlimit hturns =>
          refine ⟨rounds, List.prefix_rfl, ?_⟩
          rw [turns_concat_of_whole hwhole, hturns]
          refine .answered rfl hnone rfl houtput htells.rounds_eq ?_ ?_
          · simp [htells.read_eq, Function.comp_def]
          · simp [htells.written_eq, Function.comp_def]
  | enters hwhole hnamed hlimit =>
      cases hstands with
      | asking htells _ hturns =>
          rw [htells.rounds_eq] at hlimit
          rw [turns_concat_of_whole hwhole, hturns]
          exact stands_proceed htells hlimit rfl hnamed (List.nil_append _).symm
            .nil
  | learns outcome =>
      cases hstands with
      | @calling state turn done rest call results htells hlimit hturns hcalls
          hoffers hresults =>
          have hnamed : turn.namedCalls ≠ [] := by simp [hcalls]
          have hreplied := List.rel_append hresults
            (List.Forall₂.cons (replies_answer hoffers outcome) .nil)
          rw [turns_concat_of_none rfl]
          exact stands_proceed htells hlimit hturns hnamed (by simpa using hcalls)
            hreplied
  | fails _ error => exact ⟨rounds, List.prefix_rfl, .failed error⟩

/-- Along a log the rounds only get more. -/
theorem Leads.stands (before : Log)
    (hleads : Leads settings request first after stage)
    (hstands : Stands settings request rounds (turns before) first) :
    ∃ more, rounds <+: more ∧
      Stands settings request more (turns (before ++ after)) stage := by
  induction hleads with
  | nil => exact ⟨rounds, List.prefix_rfl, by simpa using hstands⟩
  | @snoc log stage _ move ih =>
      obtain ⟨some, hsome, hstage⟩ := ih
      obtain ⟨more, hmore, hnext⟩ := hstage.step (goes_step stage move)
      exact ⟨more, hsome.trans hmore, by simpa using hnext⟩

theorem Follows.stands (hfollows : Follows settings request log stage) :
    ∃ rounds, Stands settings request rounds (turns log) stage := by
  obtain ⟨rounds, -, hstands⟩ :=
    Leads.stands [] hfollows stands_start
  exact ⟨rounds, hstands⟩

/-- At every question to the model its rounds are those of the log. -/
theorem Follows.tells
    {state : Transcript} {attempt : Nat}
    (hfollows : Follows settings request log (.asking state attempt)) :
    ∃ rounds, Tells request rounds state ∧
      rounds.length ≤ limit settings request ∧
      turns log = rounds.map Round.turn := by
  obtain ⟨rounds, hstands⟩ := hfollows.stands
  cases hstands with
  | asking htells hlimit hturns => exact ⟨rounds, htells, hlimit, hturns⟩

end Stands

end Workflow.Agent.Conversation
