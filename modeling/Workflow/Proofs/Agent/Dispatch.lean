import Workflow.Proofs.Agent.Assembly
import Workflow.Proofs.Agent.Permission
import Workflow.ToolServer.Calling

/-!
# What tools are called with

A request comes with the text of its input.  `Says` tells what such a text
says: a blank one that there are no arguments, and any other one the JSON value
that it spells.  Tools are called for the requests of complete turns only, one
after the other (`Tallies`), and with what their input says wherever it says
anything (`Follows.called_said`).  An input that says nothing, for instance one
that was cut off, does not keep its request from being carried out: the tool is
called with `null`, which to a tool server is a call without arguments.
-/

namespace Workflow

namespace Agent

/-- What the input of a request says. -/
inductive Says (input : String) : Json → Prop
  | nothing (hblank : Text.blank input = true) : Says input Json.empty
  | value {value : Json} (hwritten : Text.blank input = false)
      (hvalue : Json.parse? input = some value) : Says input value

/-- An input that says something. -/
def Readable (input : String) : Prop :=
  ∃ arguments, Says input arguments

/-- The calls that are made for some requests where some tools are offered. -/
def dispatches (tools : List ToolDefinition) (calls : List Call) :
    List (String × Json) :=
  (calls.filter fun call => tools.any (·.name = call.name)).map fun call =>
    (call.name, call.arguments)

variable {call : Call} {calls rest : List Call} {tools : List ToolDefinition}
variable {name input : String} {arguments other : Json}

/-- An input says one thing at most. -/
theorem Says.unique (hsaid : Says input arguments) (hother : Says input other) :
    arguments = other := by
  cases hsaid with
  | nothing hblank =>
      cases hother with
      | nothing _ => rfl
      | value hwritten _ => simp [hblank] at hwritten
  | value hwritten hvalue =>
      cases hother with
      | nothing hblank => simp [hblank] at hwritten
      | value _ hothers => exact Option.some.inj (hvalue.symm.trans hothers)

/-- The arguments of a request are what its input says, and `null` if it says
nothing. -/
theorem Call.arguments_cases (call : Call) :
    Says call.input call.arguments ∨
      ¬ Readable call.input ∧ call.arguments = .null := by
  unfold Call.arguments
  cases hblank : Text.blank call.input with
  | true => exact .inl (.nothing hblank)
  | false =>
      cases hvalue : Json.parse? call.input with
      | some value => exact .inl (.value hblank hvalue)
      | none =>
          refine .inr ⟨?_, rfl⟩
          rintro ⟨arguments, hempty | ⟨-, hparse⟩⟩
          · simp [hblank] at hempty
          · simp [hvalue] at hparse

theorem dispatches_append (tools : List ToolDefinition)
    (calls rest : List Call) :
    dispatches tools (calls ++ rest) =
      dispatches tools calls ++ dispatches tools rest := by
  simp [dispatches]

theorem mem_dispatches_iff :
    (name, arguments) ∈ dispatches tools calls ↔
      ∃ call ∈ calls, (∃ tool ∈ tools, tool.name = call.name) ∧
        call.name = name ∧ call.arguments = arguments := by
  simp [dispatches, and_assoc]

theorem dispatches_eq_nil
    (hnone : ∀ call ∈ calls, (tools.any (·.name = call.name)) = false) :
    dispatches tools calls = [] := by
  rw [dispatches, List.map_eq_nil_iff, List.filter_eq_nil_iff]
  intro call hcall
  rw [hnone call hcall]
  exact Bool.false_ne_true

theorem dispatches_cons_of_offered
    (hoffered : tools.any (·.name = call.name) = true) :
    dispatches tools (call :: rest) =
      (call.name, call.arguments) :: dispatches tools rest := by
  simp only [dispatches, List.filter_cons, hoffered, if_true, List.map_cons]

namespace Conversation

variable {settings : Settings} {request : AgentConfig}
variable {stage next : Conversation} {log : Log} {happening : Happening}
variable {state : Transcript} {results : List Block} {turn : Turn}

/-- All calls that the complete turns of a log ask for. -/
def wanted (log : Log) : List (String × Json) :=
  (turns log).flatMap fun turn => dispatches (discovered log) turn.namedCalls

/-- The calls that have been made at the stages that were left. -/
def made (log : Log) : List (String × Json) :=
  (log.map Happening.stage).filterMap calls?

/-- A transcript of which all calls have been made that were asked for. -/
structure Settled (log : Log) (state : Transcript) : Prop where
  tools_eq : state.tools = discovered log
  made_eq : made log = wanted log

/-- How far the calls of a conversation have come at each of its stages. -/
inductive Tallies (log : Log) : Conversation → Prop
  | discovering (hturns : turns log = []) (hdiscovered : discovered log = [])
      (hmade : made log = []) : Tallies log .discovering
  | ready {state : Transcript} (hsettled : Settled log state) :
      Tallies log (.ready state)
  | asking {state : Transcript} {attempt : Nat} (hsettled : Settled log state) :
      Tallies log (.asking state attempt)
  | resting {state : Transcript} {attempt : Nat}
      (hsettled : Settled log state) : Tallies log (.resting state attempt)
  | calling {state : Transcript} {results : List Block} {call : Call}
      {rest : List Call} (htools : state.tools = discovered log)
      (hmade : made log ++ (call.name, call.arguments) ::
        dispatches (discovered log) rest = wanted log) :
      Tallies log (.calling state results call rest)
  | ended {result : Except Error Result} (hmade : made log <+: wanted log) :
      Tallies log (.ended result)

theorem called_eq_made :
    called log stage = made log ++ stage.calls?.toList :=
  called_eq

theorem made_concat :
    made (log ++ [happening]) = called log happening.stage := by
  rw [called_eq_made, made, List.map_append, List.filterMap_append, made]
  cases hcalls : happening.stage.calls? <;> simp [hcalls]

theorem discovered_concat_of_none (hnone : happening.discovered? = none) :
    discovered (log ++ [happening]) = discovered log := by
  simp [discovered, hnone]

theorem wanted_concat_of_none (hturn : happening.turn? = none)
    (hnone : happening.discovered? = none) :
    wanted (log ++ [happening]) = wanted log := by
  rw [wanted, turns_concat_of_none hturn, discovered_concat_of_none hnone,
    wanted]

theorem wanted_concat_of_turn (hturn : happening.turn? = some turn)
    (hnone : happening.discovered? = none) :
    wanted (log ++ [happening]) =
      wanted log ++ dispatches (discovered log) turn.namedCalls := by
  have hturns : turns (log ++ [happening]) = turns log ++ [turn] := by
    simp [turns, hturn]
  rw [wanted, hturns, discovered_concat_of_none hnone, List.flatMap_append,
    List.flatMap_singleton, wanted]

/-- More may be asked for, and nothing is taken back. -/
theorem wanted_grows (hnone : happening.discovered? = none) :
    wanted log <+: wanted (log ++ [happening]) := by
  cases hturn : happening.turn? with
  | none =>
      exact ⟨[], by rw [List.append_nil, wanted_concat_of_none hturn hnone]⟩
  | some turn =>
      rw [wanted_concat_of_turn hturn hnone]
      exact List.prefix_append _ _

theorem turn?_of_whole {attempt : Nat} {stream : ModelStream}
    (hwhole : stream.broken = none) :
    Happening.turn? ⟨.asking state attempt, .ok (.ok stream)⟩ =
      some (Turn.ofDeltas stream.deltas) := by
  obtain ⟨deltas, broken⟩ := stream
  obtain rfl : broken = none := hwhole
  rfl

/-- Nothing becomes of a happening that is neither a turn nor a call. -/
theorem Settled.concat (hsettled : Settled log state)
    (hturn : happening.turn? = none) (hnone : happening.discovered? = none)
    (hcalls : happening.stage.calls? = none) :
    Settled (log ++ [happening]) state where
  tools_eq := by rw [discovered_concat_of_none hnone, hsettled.tools_eq]
  made_eq := by
    rw [made_concat, called_eq_made, hcalls, hsettled.made_eq,
      wanted_concat_of_none hturn hnone, Option.toList_none, List.append_nil]

/-- Going on with some requests leaves those to be called that are offered. -/
theorem tallies_proceed (htools : state.tools = discovered log)
    (hmade : made log ++ dispatches (discovered log) calls = wanted log) :
    Tallies log (proceed state results calls) := by
  have hoffers (call : Call) : state.offers call.name =
      (discovered log).any (·.name = call.name) := by
    rw [Transcript.offers, htools]
  rcases proceed_cases state results calls with
    ⟨hall, hready⟩ | ⟨refused, call, rest, rfl, hall, hcall, hcalling⟩
  · have hnone : dispatches (discovered log) calls = [] :=
      dispatches_eq_nil fun call hmem => hoffers call ▸ hall call hmem
    rw [hnone, List.append_nil] at hmade
    rw [hready]
    exact .ready ⟨htools, hmade⟩
  · have hnone : dispatches (discovered log) refused = [] :=
      dispatches_eq_nil fun call hmem => hoffers call ▸ hall call hmem
    rw [hoffers] at hcall
    rw [dispatches_append, hnone, List.nil_append,
      dispatches_cons_of_offered hcall] at hmade
    rw [hcalling]
    exact .calling htools hmade

theorem Tallies.called_begins (htallies : Tallies log stage) :
    called log stage <+: wanted log := by
  rw [called_eq_made]
  cases htallies with
  | discovering _ _ hmade =>
      rw [hmade]
      exact List.nil_prefix
  | ready hsettled => simp [calls?, hsettled.made_eq]
  | asking hsettled => simp [calls?, hsettled.made_eq]
  | resting hsettled => simp [calls?, hsettled.made_eq]
  | calling _ hmade =>
      rw [← hmade, List.append_cons]
      exact List.prefix_append _ _
  | ended hmade => simpa [calls?] using hmade

/-- What has been called was asked for, also when the conversation ends. -/
theorem Tallies.made_begins (htallies : Tallies log happening.stage) :
    made (log ++ [happening]) <+: wanted (log ++ [happening]) := by
  have hbegins := htallies.called_begins
  rw [made_concat]
  obtain ⟨stage, move⟩ := happening
  cases htallies with
  | discovering _ _ hmade =>
      rw [called_eq_made, hmade]
      exact List.nil_prefix
  | _ => exact hbegins.trans (wanted_grows rfl)

/-- Calls are made in the order in which they were asked for. -/
theorem Goes.tallies {move : stage.Move}
    (hgoes : Goes settings request stage move next)
    (htallies : Tallies log stage) :
    Tallies (log ++ [⟨stage, move⟩]) next := by
  have hbegins : made (log ++ [⟨stage, move⟩]) <+:
      wanted (log ++ [⟨stage, move⟩]) :=
    @Tallies.made_begins log ⟨stage, move⟩ htallies
  cases hgoes with
  | begins tools =>
      cases htallies with
      | discovering hturns hdiscovered hmade =>
          refine .ready ⟨?_, ?_⟩
          · rw [discovered_append, hdiscovered]
            simp [discovered, Happening.discovered?]
          · rw [made_concat, called_eq_made, hmade, wanted,
              turns_concat_of_none rfl, hturns]
            rfl
  | asks state =>
      cases htallies with
      | ready hsettled => exact .asking (hsettled.concat rfl rfl rfl)
  | rests hbroken _ _ =>
      cases htallies with
      | asking hsettled =>
          exact .resting (hsettled.concat (turn?_of_broken hbroken) rfl rfl)
  | asksAgain state attempt =>
      cases htallies with
      | resting hsettled => exact .asking (hsettled.concat rfl rfl rfl)
  | answers hwhole hnone _ => exact .ended hbegins
  | enters hwhole hnamed hlimit =>
      cases htallies with
      | asking hsettled =>
          refine tallies_proceed ?_ ?_
          · rw [discovered_concat_of_none rfl]
            exact hsettled.tools_eq
          · rw [made_concat, called_eq_made, hsettled.made_eq,
              wanted_concat_of_turn (turn?_of_whole hwhole) rfl,
              discovered_concat_of_none rfl]
            simp [calls?]
  | learns outcome =>
      cases htallies with
      | calling htools hmade =>
          refine tallies_proceed ?_ ?_
          · rw [discovered_concat_of_none rfl]
            exact htools
          · rw [made_concat, called_eq_made, wanted_concat_of_none rfl rfl,
              discovered_concat_of_none rfl, ← hmade]
            simp [calls?]
  | fails move error => exact .ended hbegins

theorem Follows.tallies (hfollows : Follows settings request log stage) :
    Tallies log stage := by
  induction hfollows with
  | nil =>
      by_cases hnone : request.tools = []
      · simp only [start, hnone, List.isEmpty_nil, if_true, begin]
        exact .ready ⟨rfl, rfl⟩
      · simp only [start, List.isEmpty_iff, hnone, if_false]
        exact .discovering rfl rfl rfl
  | snoc _ move ih => exact (goes_step _ move).tallies ih

/-! ## Requests and their inputs -/

/-- A request that was made in a complete turn, with a name for the tool and
all input that was heard for it. -/
def Requested (log : Log) (name input : String) : Prop :=
  ∃ before state attempt stream after place,
    log = before ++ ⟨.asking state attempt, .ok (.ok stream)⟩ :: after ∧
    stream.broken = none ∧ name ≠ "" ∧
    (requested place stream.deltas).2 = name ∧
    input = String.join (heard place stream.deltas) ∧
    (StartsFirst stream.deltas →
      input = String.join (stream.deltas.filterMap (Delta.input? place)))

/-- A complete turn is what a whole stream came to. -/
theorem exists_of_mem_turns (hturn : turn ∈ turns log) :
    ∃ before state attempt stream after,
      log = before ++ ⟨.asking state attempt, .ok (.ok stream)⟩ :: after ∧
      stream.broken = none ∧ turn = Turn.ofDeltas stream.deltas := by
  obtain ⟨happening, hmem, hhappens⟩ := List.mem_filterMap.mp hturn
  obtain ⟨before, after, hlog⟩ := List.append_of_mem hmem
  unfold Happening.turn? at hhappens
  split at hhappens
  · next state attempt deltas =>
      exact ⟨before, state, attempt, ⟨deltas, none⟩, after, hlog, rfl,
        (Option.some.inj hhappens).symm⟩
  · contradiction

theorem requested_of_mem_turns (hturn : turn ∈ turns log)
    (hcall : call ∈ turn.namedCalls) : Requested log call.name call.input := by
  obtain ⟨before, state, attempt, stream, after, hlog, hwhole, rfl⟩ :=
    exists_of_mem_turns hturn
  obtain ⟨hmem, hname⟩ := List.mem_filter.mp hcall
  obtain ⟨place, hplace⟩ := List.getElem?_of_mem hmem
  rw [(assembled_ofDeltas stream.deltas).getElem?_calls] at hplace
  split at hplace
  · obtain rfl := Option.some.inj hplace
    refine ⟨before, state, attempt, stream, after, place, hlog, hwhole,
      by simpa using hname, rfl, rfl, fun hstarts => ?_⟩
    rw [requestAt, hstarts.heard_eq]
  · contradiction

/-- A tool is called for the requests of complete turns, in their order, each
with what the input of the request says; only if that says nothing, it is
called with `null`. -/
theorem Follows.called_said (hfollows : Follows settings request log stage) :
    called log stage <+: wanted log ∧
    ∀ name arguments, (name, arguments) ∈ called log stage →
      Declared log name ∧ ∃ input, Requested log name input ∧
        (Readable input → Says input arguments) ∧
        (¬ Readable input → arguments = .null) := by
  have hbegins := hfollows.tallies.called_begins
  refine ⟨hbegins, fun name arguments hcalled => ?_⟩
  obtain ⟨turn, hturn, hdispatched⟩ :=
    List.mem_flatMap.mp (hbegins.subset hcalled)
  obtain ⟨call, hcall, hdeclared, rfl, rfl⟩ :=
    mem_dispatches_iff.mp hdispatched
  refine ⟨hdeclared, call.input, requested_of_mem_turns hturn hcall, ?_⟩
  rcases call.arguments_cases with hsaid | ⟨hunreadable, hnull⟩
  · exact ⟨fun _ => hsaid, fun hnot => absurd ⟨_, hsaid⟩ hnot⟩
  · exact ⟨fun hreadable => absurd hreadable hunreadable, fun _ => hnull⟩

end Conversation

end Agent

namespace Research

open Agent Agent.Conversation

/-- The log of an agent whose model has answered with a stream. -/
def answered (stream : ModelStream) : Log :=
  log.take 2 ++ [⟨.asking opened 0, .ok (.ok stream)⟩]

theorem follows_answered {stream : ModelStream} (hwhole : stream.broken = none)
    (hnamed : (Turn.ofDeltas stream.deltas).namedCalls ≠ []) :
    Follows settings request (answered stream)
      (proceed (opened.enter (Turn.ofDeltas stream.deltas)) []
        (Turn.ofDeltas stream.deltas).namedCalls) := by
  have hstart : Follows settings request [] .discovering := .nil
  have hready : Follows settings request (log.take 1) (.ready opened) :=
    hstart.snoc (some (.ok tools))
  have hasked : Follows settings request (log.take 2) (.asking opened 0) :=
    hready.snoc false
  have hnext := hasked.snoc (.ok (.ok stream))
  rw [step_whole hwhole, conclude_of_left hnamed (by decide)] at hnext
  exact hnext

/-- Two requests for one tool: the input of the first is a value in two pieces,
and the second has a blank one. -/
def twofold : ModelStream :=
  ⟨[.toolStart 0 "c1" "mcp__search__query", .toolInput 0 "\x7b\"q\":",
    .toolStart 1 "c2" "mcp__search__query", .toolInput 0 "[1]\x7d",
    .toolInput 1 " ", .stop .toolUse], none⟩

/-- The stage at which the tool is called for one of them. -/
def inquiry (results : List Block) (call : Call) (rest : List Call) :
    Conversation :=
  .calling (opened.enter (Turn.ofDeltas twofold.deltas)) results call rest

def precise : Call :=
  ⟨"c1", "mcp__search__query", "\x7b\"q\":[1]\x7d"⟩

def vague : Call :=
  ⟨"c2", "mcp__search__query", " "⟩

/-- Each of the two requests is carried out with what its input says. -/
theorem called_said_twofold :
    ∃ log stage, Follows settings request log stage ∧
      called log stage =
        [("mcp__search__query", .record [("q", .list [.int 1])]),
          ("mcp__search__query", Json.empty)] ∧
      called log stage <+: wanted log ∧
      Declared log "mcp__search__query" := by
  have hfirst : Follows settings request (answered twofold)
      (inquiry [] precise [vague]) :=
    follows_answered rfl (by decide)
  have hsecond := hfirst.snoc (.ok (.ok (.success "1")))
  have hcalled : called (answered twofold ++ [⟨inquiry [] precise [vague],
        .ok (.ok (.success "1"))⟩])
      (inquiry [.toolResult "c1" "1" false] vague []) =
        [("mcp__search__query", .record [("q", .list [.int 1])]),
          ("mcp__search__query", Json.empty)] := by
    have hprecise : precise.arguments = .record [("q", .list [.int 1])] := by
      decide +kernel
    have hvague : vague.arguments = Json.empty := by decide +kernel
    rw [← hprecise, ← hvague]
    rfl
  obtain ⟨hbegins, harguments⟩ := Follows.called_said hsecond
  refine ⟨_, _, hsecond, hcalled, hbegins, ?_⟩
  exact (harguments _ _ (hcalled ▸ List.mem_cons_self)).1

/-- A request whose input was cut off. -/
def curtailed : ModelStream :=
  ⟨[.toolStart 0 "c1" "mcp__search__query", .toolInput 0 "\x7b\"q\":",
    .stop .maxTokens], none⟩

/-- The tool is called without arguments though the arguments of the request
have been cut off. -/
theorem called_said_curtailed :
    (Turn.ofDeltas curtailed.deltas).calls =
      [⟨"c1", "mcp__search__query", "\x7b\"q\":"⟩] ∧
    ¬ Readable "\x7b\"q\":" ∧
    ∃ stage, Follows settings request (answered curtailed) stage ∧
      called (answered curtailed) stage = [("mcp__search__query", .null)] ∧
      ToolServer.Address.ofCall "mcp__search__query" .null =
        .ok ⟨"search", "query", none⟩ := by
  refine ⟨by decide, ?_, _, follows_answered rfl (by decide),
    by decide +kernel, by decide +kernel⟩
  rintro ⟨arguments, hblank | ⟨-, hvalue⟩⟩
  · exact absurd hblank (by decide +kernel)
  · have hnone : Json.parse? "\x7b\"q\":" = none := by decide +kernel
    rw [hnone] at hvalue
    contradiction

end Research

end Workflow
