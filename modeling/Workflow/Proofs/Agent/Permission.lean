import Workflow.Proofs.Agent.Round

/-!
# Tools that an agent may use

A model can ask for any tool by any name, at any place of a turn and in any
turn.  Only names that stand in the definitions found for the agent ever
reach a tool; every other request is answered at its place, in every question
to the model after that turn, and nothing is called for it.  An agent without
tools does not even look for definitions.
-/

namespace Workflow

namespace Agent.Conversation

variable {settings : Settings} {request : AgentConfig}
variable {first stage last : Conversation} {log before after : Log}
variable {state : Transcript} {attempt : Nat} {name : String}

/-- The tools that were found when something happened. -/
def Happening.discovered? : Happening → Option (List ToolDefinition)
  | ⟨.discovering, some (.ok tools)⟩ => some tools
  | _ => none

/-- The tools found for an agent. -/
def discovered (log : Log) : List ToolDefinition :=
  (log.filterMap Happening.discovered?).flatten

/-- A name that stands in the definitions of the tools found for an agent. -/
def Declared (log : Log) (name : String) : Prop :=
  ∃ tool ∈ discovered log, tool.name = name

/-- A conversation in which only declared tools are called. -/
structure Restricted (settings : Settings) (request : AgentConfig) (log : Log)
    (stage : Conversation) : Prop where
  declared : ∀ name arguments, (name, arguments) ∈ called log stage →
    Declared log name
  /-- An agent that may not use any tool calls none. -/
  idle : request.tools = [] → called log stage = []
  /-- A request for another tool goes to nobody, and its result, at its place,
  is an error that names the tool. -/
  refused : ∀ (before : Log) (state : Transcript) (attempt : Nat)
      (stream : ModelStream) (after : Log) (place : Nat) (call : Call),
    log = before ++ ⟨.asking state attempt, .ok (.ok stream)⟩ :: after →
    stream.broken = none →
    (Turn.ofDeltas stream.deltas).namedCalls[place]? = some call →
    ¬ Declared log call.name →
    (∀ arguments, (call.name, arguments) ∉ called log stage) ∧
      ∀ sent ∈ asked settings request after stage,
        ∃ (results : List Block) (tail : List Message),
          sent.messages = state.messages ++
            Round.messages ⟨Turn.ofDeltas stream.deltas, results⟩ ++ tail ∧
          results.length = (Turn.ofDeltas stream.deltas).namedCalls.length ∧
          results[place]? = some (.toolResult call.id
            s!"tool '{call.name}' is not available to this node" true)

theorem discovered_append :
    discovered (before ++ after) = discovered before ++ discovered after := by
  simp [discovered]

theorem Declared.mono (hdeclared : Declared before name) :
    Declared (before ++ after) name := by
  obtain ⟨tool, hfound, hname⟩ := hdeclared
  refine ⟨tool, ?_, hname⟩
  rw [discovered_append]
  exact List.mem_append_left _ hfound

/-! ## Where the tools of a conversation come from -/

/-- The tools that a conversation offers: none for an agent that may use none,
and else those that were found for it. -/
inductive Supplied (request : AgentConfig) (log : Log) :
    List ToolDefinition → Prop
  | idle (hnone : request.tools = []) : Supplied request log []
  | found {tools : List ToolDefinition} (hsome : request.tools ≠ [])
      (hfound : ∀ tool ∈ tools, tool ∈ discovered log) :
      Supplied request log tools

/-- What holds of the tools of a conversation at each of its stages. -/
def Supplies (request : AgentConfig) (log : Log) : Conversation → Prop
  | discovering => request.tools ≠ []
  | ready state => Supplied request log state.tools
  | asking state _ => Supplied request log state.tools
  | resting state _ => Supplied request log state.tools
  | calling state _ _ _ => Supplied request log state.tools
  | ended _ => True

theorem Supplied.mono {tools : List ToolDefinition} (after : Log)
    (hsupplied : Supplied request before tools) :
    Supplied request (before ++ after) tools := by
  cases hsupplied with
  | idle hnone => exact .idle hnone
  | found hsome hfound =>
      refine .found hsome fun tool htool => ?_
      rw [discovered_append]
      exact List.mem_append_left _ (hfound tool htool)

theorem Supplied.declared {tools : List ToolDefinition}
    (hsupplied : Supplied request log tools)
    (hname : ∃ tool ∈ tools, tool.name = name) :
    request.tools ≠ [] ∧ Declared log name := by
  cases hsupplied with
  | idle hnone => simp at hname
  | found hsome hfound =>
      obtain ⟨tool, htool, hname⟩ := hname
      exact ⟨hsome, tool, hfound tool htool, hname⟩

theorem supplies_proceed {results : List Block} {calls : List Call}
    (hsupplied : Supplied request log state.tools) :
    Supplies request log (proceed state results calls) := by
  rcases proceed_cases state results calls with
    ⟨-, hready⟩ | ⟨_, _, _, -, -, -, hcalling⟩
  · rw [hready]
    exact hsupplied
  · rw [hcalling]
    exact hsupplied

theorem Goes.supplies {move : stage.Move} {next : Conversation}
    (hgoes : Goes settings request stage move next)
    (hsupplies : Supplies request log stage) :
    Supplies request (log ++ [⟨stage, move⟩]) next := by
  cases hgoes with
  | begins tools =>
      refine .found hsupplies fun tool htool => ?_
      rw [discovered_append]
      exact List.mem_append_right _ (by simpa [discovered, Happening.discovered?])
  | asks _ => exact Supplied.mono _ hsupplies
  | rests _ _ _ => exact Supplied.mono _ hsupplies
  | asksAgain _ _ => exact Supplied.mono _ hsupplies
  | answers _ _ _ => trivial
  | @enters state _ _ _ _ _ =>
      have hsupplied : Supplied request log state.tools := hsupplies
      exact supplies_proceed (hsupplied.mono _)
  | @learns state _ _ _ _ =>
      have hsupplied : Supplied request log state.tools := hsupplies
      exact supplies_proceed (hsupplied.mono _)
  | fails _ _ => trivial

theorem Follows.supplies (hfollows : Follows settings request log stage) :
    Supplies request log stage := by
  induction hfollows with
  | nil =>
      by_cases hnone : request.tools = []
      · simp [start, hnone, begin, Supplies, Supplied.idle]
      · simp [start, hnone, Supplies]
  | snoc _ move ih => exact (goes_step _ move).supplies ih

/-! ## What is called -/

/-- Whoever calls a tool may use tools, and its name has been found. -/
theorem Follows.declared (hfollows : Follows settings request log stage)
    {arguments : Json} (hcalled : (name, arguments) ∈ called log stage) :
    request.tools ≠ [] ∧ Declared log name := by
  obtain ⟨before, after, state, results, call, rest, rfl, hbefore, hcall⟩ :=
    hfollows.exists_of_mem_called hcalled
  obtain ⟨rfl, -⟩ := Prod.mk.inj hcall
  obtain ⟨rounds, hstands⟩ := Follows.stands hbefore
  have hsupplies := Follows.supplies hbefore
  cases hstands with
  | calling _ _ _ _ hoffers _ =>
      obtain ⟨hsome, hdeclared⟩ := Supplied.declared hsupplies hoffers
      exact ⟨hsome, hdeclared.mono⟩

/-- Every question after a turn that asked for tools presents that turn and,
one for one, the results of its requests. -/
theorem Follows.exists_results {stream : ModelStream} {sent : ModelRequest}
    (hfollows : Follows settings request
      (before ++ ⟨.asking state attempt, .ok (.ok stream)⟩ :: after) stage)
    (hwhole : stream.broken = none)
    (hsent : sent ∈ asked settings request after stage) :
    ∃ results tail,
      sent.messages = state.messages ++
        Round.messages ⟨Turn.ofDeltas stream.deltas, results⟩ ++ tail ∧
      List.Forall₂ (Replies sent.tools)
        (Turn.ofDeltas stream.deltas).namedCalls results ∧
      Supplied request (before ++ ⟨.asking state attempt, .ok (.ok stream)⟩ ::
        after) sent.tools := by
  obtain ⟨hbefore, hafter⟩ := Leads.split hfollows
  obtain ⟨rounds, hstands⟩ := Follows.stands hbefore
  obtain ⟨middle, rest, later, again, rfl, hmiddle, -, rfl⟩ :=
    hafter.exists_of_mem_asked hsent
  have hleads := (Leads.single _ _).append hmiddle
  obtain ⟨more, ⟨added, rfl⟩, hlater⟩ := hleads.stands before hstands
  have hsupplied : Supplied request _ later.tools :=
    Follows.supplies (hbefore.append hleads)
  cases hstands with
  | asking htells _ hturns =>
    cases hlater with
    | asking hothers _ hothersTurns =>
      -- The rounds that were added are those of the later turns, and the first
      -- of these is the turn in question.
      have hadded : Turn.ofDeltas stream.deltas :: turns middle =
          added.map Round.turn := by
        rw [← List.append_assoc, turns_append, turns_concat_of_whole hwhole,
          hturns] at hothersTurns
        simpa using hothersTurns
      obtain ⟨round, others, rfl, hround, -⟩ :=
        List.map_eq_cons_iff.mp hadded.symm
      obtain ⟨turn, results⟩ := round
      obtain rfl : turn = Turn.ofDeltas stream.deltas := hround
      refine ⟨results, others.flatMap Round.messages, ?_, ?_, ?_⟩
      · simp [hothers.messages_eq, htells.messages_eq]
      · exact hothers.replied ⟨Turn.ofDeltas stream.deltas, results⟩ (by simp)
      · simpa using hsupplied.mono rest

/-- Whatever a model asks for, its agent calls declared tools only. -/
theorem Follows.restricted (hfollows : Follows settings request log stage) :
    Restricted settings request log stage where
  declared name arguments hcalled := (hfollows.declared hcalled).2
  idle hnone := by
    refine List.eq_nil_iff_forall_not_mem.mpr fun ⟨name, arguments⟩ hcalled => ?_
    exact (hfollows.declared hcalled).1 hnone
  refused := by
    rintro before state attempt stream after place call rfl hwhole hcall
      hundeclared
    refine ⟨fun arguments hcalled =>
      hundeclared (hfollows.declared hcalled).2, fun sent hsent => ?_⟩
    obtain ⟨results, tail, hmessages, hreplies, hsupplied⟩ :=
      hfollows.exists_results hwhole hsent
    refine ⟨results, tail, hmessages, hreplies.length_eq.symm, ?_⟩
    obtain ⟨hplace, hget⟩ := List.getElem?_eq_some_iff.mp hcall
    have hlength : place < results.length := hreplies.length_eq ▸ hplace
    have hreply : Replies sent.tools call results[place] := by
      rw [← hget]
      exact hreplies.get hplace hlength
    rw [List.getElem?_eq_getElem hlength]
    generalize results[place] = result at hreply
    cases hreply with
    | refused _ => rfl
    | told hname _ _ => exact absurd (hsupplied.declared hname).2 hundeclared

end Agent.Conversation

namespace Research

open Agent Agent.Conversation

theorem not_declared_wipe : ¬ Declared log wipe.name := by
  rintro ⟨tool, htool, hname⟩
  have hdiscovered : discovered log = tools := rfl
  rw [hdiscovered] at htool
  obtain rfl := List.mem_singleton.mp htool
  simp [wipe] at hname

/-- The request for a tool that is not offered is refused. -/
theorem restricted_research :
    Follows settings request log (.ended (.ok result)) ∧
      (∀ arguments, (wipe.name, arguments) ∉ called log (.ended (.ok result))) ∧
      ∃ results tail, told.messages = opened.messages ++
          Round.messages ⟨Turn.ofDeltas looking.deltas, results⟩ ++ tail ∧
        results[0]? = some (.toolResult "c1"
          "tool 'mcp__admin__wipe' is not available to this node" true) := by
  obtain ⟨hcalled, hanswered⟩ := (Follows.restricted follows).refused
    (log.take 4) opened 1 looking (log.drop 5) 0 wipe rfl rfl rfl
    not_declared_wipe
  have hasked : ⟨settings.model, told.messages, told.tools⟩ ∈
      asked settings request (log.drop 5) (.ended (.ok result)) := by
    simp [log, asked, stages, asks?, model, request]
  obtain ⟨results, tail, hmessages, -, hresult⟩ := hanswered _ hasked
  exact ⟨follows, hcalled, results, tail, hmessages, hresult⟩

end Research

end Workflow
