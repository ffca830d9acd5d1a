import Workflow.Proofs.Agent.Permission
import Workflow.Proofs.Run.Step
import Workflow.Proofs.ToolServer.Name
import Workflow.ToolServer.Calling
import Workflow.ToolServer.Listing

/-!
# What servers are asked for

A tool node names its tool, and an agent may use what its specifications
allow.  Both only get as far as a qualified name, and it is this name that
tells which server is asked for which tool.  As long as the servers of a node
are separable, servers are asked for what the node means and for nothing
else, whatever servers list, models ask for and other tools are called.
-/

namespace Workflow

open Agent Agent.Conversation ToolServer

namespace ToolServer

/-! ## Gathering definitions -/

/-- A definition of a tool that one of some specifications allows. -/
def Allows (specs : List ToolSpec) (tool : ToolDefinition) : Prop :=
  ∃ spec ∈ specs, ∃ listed : Listed, spec.allows listed.name = true ∧
    tool = listed.definition spec.server

namespace Gathering

/-- The stages that gathering the definitions for some specifications can come
to, whatever becomes of the cache in between. -/
inductive Reaches (specs : List ToolSpec) : Gathering → Prop
  | start : Reaches specs (start specs)
  | step {stage : Gathering} (hreaches : Reaches specs stage)
      (cache : ToolCache) (move : stage.Move) :
      Reaches specs (step cache stage move).2

/-- A stage at which all definitions so far are allowed. -/
def Keeps (specs : List ToolSpec) : Gathering → Prop
  | looking sofar left => (∀ tool ∈ sofar, Allows specs tool) ∧ left ⊆ specs
  | listing sofar spec left _ =>
    (∀ tool ∈ sofar, Allows specs tool) ∧ spec :: left ⊆ specs
  | keeping sofar spec left _ =>
    (∀ tool ∈ sofar, Allows specs tool) ∧ spec :: left ⊆ specs
  | ended (.ok tools) => ∀ tool ∈ tools, Allows specs tool
  | ended (.error _) => True

variable {specs left : List ToolSpec} {sofar : List ToolDefinition}
variable {spec : ToolSpec} {stage : Gathering}

theorem allows_definitionsOf (hspec : spec ∈ specs) (tools : List Listed) :
    ∀ tool ∈ definitionsOf spec tools, Allows specs tool := by
  intro tool htool
  obtain ⟨listed, hlisted, rfl⟩ := List.mem_map.mp htool
  exact ⟨spec, hspec, listed, (List.mem_filter.mp hlisted).2, rfl⟩

/-- The definitions of the next specification go to those so far. -/
theorem keeps_looking (hsofar : ∀ tool ∈ sofar, Allows specs tool)
    (hleft : spec :: left ⊆ specs) (tools : List Listed) :
    Keeps specs (looking (sofar ++ definitionsOf spec tools) left) := by
  obtain ⟨hspec, hleft⟩ := List.cons_subset.mp hleft
  refine ⟨?_, hleft⟩
  rw [List.forall_mem_append]
  exact ⟨hsofar, allows_definitionsOf hspec tools⟩

theorem Keeps.step (hkeeps : Keeps specs stage) (cache : ToolCache)
    (move : stage.Move) : Keeps specs (step cache stage move).2 := by
  cases stage with
  | looking sofar left =>
      obtain ⟨hsofar, hleft⟩ := hkeeps
      cases left with
      | nil => exact hsofar
      | cons spec left =>
          match move with
          | () =>
              simp only [Gathering.step]
              split
              next tools _ => exact keeps_looking hsofar hleft tools
              next => exact ⟨hsofar, hleft⟩
  | listing sofar spec left tools =>
      match move with
      | none => trivial
      | some (.error failure) => trivial
      | some (.ok page) =>
          simp only [Gathering.step]
          split
          · exact hkeeps
          · exact hkeeps
  | keeping sofar spec left tools =>
      match move with
      | () => exact keeps_looking hkeeps.1 hkeeps.2 tools
  | ended result => exact move.elim

theorem Reaches.keeps (hreaches : Reaches specs stage) : Keeps specs stage := by
  induction hreaches with
  | start => exact ⟨by simp, List.Subset.refl specs⟩
  | step _ cache move ih => exact ih.step cache move

end Gathering

/-! ## Addresses -/

namespace Address

variable {name server tool : String} {arguments : Json} {address : Address}

theorem split?_of_ofCall (hcall : ofCall name arguments = .ok address) :
    ToolName.split? name = some (address.server, address.tool) := by
  unfold ofCall at hcall
  split at hcall
  next => simp at hcall
  next server tool hsplit =>
    rw [hsplit]
    split at hcall
    next => rw [← Except.ok.inj hcall]
    next => rw [← Except.ok.inj hcall]
    next => simp at hcall

/-- A call of a tool of a separable server goes there. -/
theorem eq_of_ofCall (hseparable : ToolName.Separable server)
    (hcall : ofCall (ToolName.qualified server tool) arguments = .ok address) :
    address.server = server ∧ address.tool = tool := by
  obtain ⟨hserver, htool⟩ :=
    ToolName.server_eq_iff_separable (split?_of_ofCall hcall)
  exact ⟨hserver.mpr hseparable, htool (hserver.mpr hseparable)⟩

end Address

end ToolServer

/-! ## Work -/

/-- The calls by qualified names that come of a piece of work. -/
inductive Work.Calls (settings : Settings) : Work → String → Json → Prop
  | tool (server tool : String) (arguments : Json) :
      Work.Calls settings (.tool server tool arguments)
        (ToolName.qualified server tool) arguments
  | agent {request : AgentConfig} {log : Log} {stage : Conversation}
      {name : String} {arguments : Json}
      (hfollows : Follows settings request log stage)
      (hgathered : ∀ tools ∈ log.filterMap Happening.discovered?,
        Gathering.Reaches request.tools (.ended (.ok tools)))
      (hcalled : (name, arguments) ∈ called log stage) :
      Work.Calls settings (.agent request) name arguments

/-- A server is asked for a tool on behalf of a piece of work. -/
def Work.Demands (settings : Settings) (work : Work)
    (address : ToolServer.Address) : Prop :=
  ∃ name arguments, work.Calls settings name arguments ∧
    ToolServer.Address.ofCall name arguments = .ok address

/-- The servers that a node may use. -/
def NodeKind.servers : NodeKind → List String
  | .tool config => [config.server]
  | .agent config => config.tools.map ToolSpec.server
  | _ => []

/-- A node that means a tool of a server. -/
inductive NodeKind.Means : NodeKind → ToolServer.Address → Prop
  | tool {config : ToolCallConfig} {address : ToolServer.Address}
      (hserver : address.server = config.server)
      (htool : address.tool = config.tool) : Means (.tool config) address
  | agent {config : AgentConfig} {spec : ToolSpec}
      {address : ToolServer.Address}
      (hspec : spec ∈ config.tools) (hserver : spec.server = address.server)
      (hallows : spec.allows address.tool = true) :
      Means (.agent config) address

theorem Leg.leave_ne_working {plan : Plan} {after context : Context}
    {id : String} {output : Json} {branch : Option Branch} {node : Node}
    {work : Work} :
    (leave plan after id output branch).1 ≠ .working context node work := by
  unfold leave
  split
  · simp
  · simp [fail]

/-- Work that a node has just begun is work that such a node asks for. -/
theorem Leg.asks_of_dispatch {plan : Plan} {context : Context} {node : Node}
    {now : Instant} {work : Work}
    (hwork : (dispatch plan context node now).1 = .working context node work) :
    Asks plan context node work := by
  unfold dispatch at hwork
  cases hkind : node.kind with
  | start declared =>
      rw [hkind] at hwork
      exact absurd hwork leave_ne_working
  | loop config =>
      simp only [hkind] at hwork
      split at hwork
      next => exact absurd hwork leave_ne_working
      next hlimit =>
        obtain rfl := (Leg.working.inj hwork).2.2
        exact .iteration hkind (Nat.lt_of_not_le hlimit)
  | agent config =>
      simp only [hkind] at hwork
      obtain rfl := (Leg.working.inj hwork).2.2
      exact .agent hkind
  | transform config =>
      simp only [hkind] at hwork
      obtain rfl := (Leg.working.inj hwork).2.2
      exact .transform hkind
  | ifElse condition =>
      simp only [hkind] at hwork
      obtain rfl := (Leg.working.inj hwork).2.2
      exact .choice hkind
  | tool config =>
      simp only [hkind] at hwork
      obtain rfl := (Leg.working.inj hwork).2.2
      exact .tool hkind
  | finish => simp [hkind] at hwork
  | approval config => simp [hkind] at hwork

/-- A server is asked for a tool on behalf of a node. -/
def Node.Demands (settings : Settings) (plan : Plan) (context : Context)
    (now : Instant) (node : Node) (address : ToolServer.Address) : Prop :=
  ∃ work, (Leg.dispatch plan context node now).1 =
      .working context node work ∧ work.Demands settings address

section

variable {settings : Settings} {plan : Plan} {context : Context}
variable {now : Instant} {node : Node} {address : ToolServer.Address}

/-- An agent is given only what its specifications allow. -/
theorem Work.Calls.allowed {request : AgentConfig} {name : String}
    {arguments : Json}
    (hcalls : (Work.agent request).Calls settings name arguments) :
    ∃ spec ∈ request.tools, ∃ tool, spec.allows tool = true ∧
      name = ToolName.qualified spec.server tool := by
  cases hcalls with
  | agent hfollows hgathered hcalled =>
      obtain ⟨-, tool, hdiscovered, rfl⟩ := Follows.declared hfollows hcalled
      obtain ⟨tools, htools, htool⟩ := List.mem_flatten.mp hdiscovered
      have hkeeps := (hgathered tools htools).keeps
      obtain ⟨spec, hspec, listed, hallows, rfl⟩ := hkeeps tool htool
      exact ⟨spec, hspec, listed.name, hallows, rfl⟩

/-- Calls of a tool node go by the name of its tool. -/
theorem Node.demands_tool_iff {config : ToolCallConfig}
    (hkind : node.kind = .tool config) :
    node.Demands settings plan context now address ↔
      ToolServer.Address.ofCall
        (ToolName.qualified config.server config.tool)
        (Leg.toolArguments context config) = .ok address := by
  have hdispatch : (Leg.dispatch plan context node now).1 =
      .working context node (.tool config.server config.tool
        (Leg.toolArguments context config)) := by
    simp [Leg.dispatch, hkind]
  constructor
  · rintro ⟨work, hwork, name, arguments, hcalls, hcall⟩
    obtain rfl := (Leg.working.inj (hdispatch.symm.trans hwork)).2.2
    cases hcalls with
    | tool => exact hcall
  · intro hcall
    exact ⟨_, hdispatch, _, _, .tool .., hcall⟩

theorem Leg.toolArguments_ne_null (context : Context)
    (config : ToolCallConfig) : toolArguments context config ≠ .null := by
  unfold toolArguments
  split
  next => simp [Json.empty]
  next hne => exact hne

/-- If its server is separable, a tool node asks for its own tool just where
its arguments are an object. -/
theorem Node.demands_tool_iff_record {config : ToolCallConfig}
    (hkind : node.kind = .tool config) (hserver : config.server ≠ "")
    (htool : config.tool ≠ "")
    (hseparable : ToolName.Separable config.server) :
    node.Demands settings plan context now address ↔
      ∃ members, Leg.toolArguments context config = .record members ∧
        address = ⟨config.server, config.tool, some members⟩ := by
  have hsplit : ToolName.split?
      (ToolName.qualified config.server config.tool) =
      some (config.server, config.tool) :=
    ToolName.split?_qualified_iff.mpr ⟨hserver, htool, hseparable⟩
  have hnull := Leg.toolArguments_ne_null context config
  rw [Node.demands_tool_iff hkind, ToolServer.Address.ofCall, hsplit]
  cases harguments : Leg.toolArguments context config with
  | record members => simp [eq_comm]
  | null => exact absurd harguments hnull
  | _ => simp

/-- A tool node whose server is not separable never reaches it. -/
theorem Node.Demands.server_ne {config : ToolCallConfig}
    (hkind : node.kind = .tool config)
    (hseparable : ¬ ToolName.Separable config.server)
    (hdemands : node.Demands settings plan context now address) :
    address.server ≠ config.server := by
  have hcall := (Node.demands_tool_iff hkind).mp hdemands
  have hsplit := ToolServer.Address.split?_of_ofCall hcall
  exact mt (ToolName.server_eq_iff_separable hsplit).1.mp hseparable

/-- As long as its servers are separable, a node gets servers to be asked only
for what it means. -/
theorem Node.Demands.means
    (hseparable : ∀ server ∈ node.kind.servers, ToolName.Separable server)
    (hdemands : node.Demands settings plan context now address) :
    node.kind.Means address := by
  obtain ⟨work, hwork, name, arguments, hcalls, hcall⟩ := hdemands
  cases Leg.asks_of_dispatch hwork with
  | @tool config hkind =>
      cases hcalls with
      | tool =>
          rw [hkind] at hseparable ⊢
          obtain ⟨hserver, htool⟩ := ToolServer.Address.eq_of_ofCall
            (hseparable config.server (List.mem_singleton_self _)) hcall
          exact .tool hserver htool
  | @agent config hkind =>
      rw [hkind] at hseparable ⊢
      obtain ⟨spec, hspec, tool, hallows, rfl⟩ := hcalls.allowed
      obtain ⟨hserver, rfl⟩ := ToolServer.Address.eq_of_ofCall
        (hseparable spec.server (List.mem_map_of_mem hspec)) hcall
      exact .agent hspec hserver.symm hallows
  | transform _ => cases hcalls
  | choice _ => cases hcalls
  | iteration _ _ => cases hcalls

/-- A node whose calls arrive where they are meant to. -/
structure Node.Arrives (settings : Settings) (plan : Plan) (context : Context)
    (now : Instant) (node : Node) : Prop where
  /-- The name of a tool is read back as it was. -/
  reads : ∀ server ∈ node.kind.servers, ∀ tool,
    ToolName.split? (ToolName.qualified server tool) = some (server, tool) ↔
      server ≠ "" ∧ tool ≠ ""
  differ : ∀ server ∈ node.kind.servers, ∀ other ∈ node.kind.servers,
    ∀ tool another,
      ToolName.qualified server tool = ToolName.qualified other another →
      server = other ∧ tool = another
  means : ∀ address, node.Demands settings plan context now address →
    node.kind.Means address
  /-- A tool node asks for its tool, unless its arguments are no object. -/
  asks : ∀ config, node.kind = .tool config → config.server ≠ "" →
    config.tool ≠ "" → ∀ address,
      node.Demands settings plan context now address ↔
        ∃ members, Leg.toolArguments context config = .record members ∧
          address = ⟨config.server, config.tool, some members⟩

/-- The calls of a node arrive if its servers are separable. -/
theorem Node.arrives
    (hseparable : ∀ server ∈ node.kind.servers, ToolName.Separable server) :
    node.Arrives settings plan context now where
  reads server hserver tool := by
    rw [ToolName.split?_qualified_iff]
    simp [hseparable server hserver]
  differ server hserver other hother tool another hname :=
    (hseparable server hserver).qualified_inj (hseparable other hother) hname
  means _ hdemands := hdemands.means hseparable
  asks config hkind hserver htool address := by
    refine Node.demands_tool_iff_record hkind hserver htool ?_
    rw [hkind] at hseparable
    exact hseparable config.server (List.mem_singleton_self _)

end

/-! ## Two servers -/

namespace Astray

/-- A node that calls a tool of a separable server. -/
def search : Node :=
  ⟨"search", none, .tool ⟨"search", "web_query", .null⟩⟩

/-- A node that calls a tool of a server that is not. -/
def call : Node :=
  ⟨"call", none, .tool ⟨"a__b", "c", .null⟩⟩

def config : AgentConfig :=
  ⟨"Go on.", none, [⟨"a__b", []⟩], .text, none⟩

/-- An agent that may use all tools of the same server. -/
def ask : Node :=
  ⟨"ask", none, .agent config⟩

def plan : Plan :=
  ⟨.standard, "run", ⟨[search, call, ask], []⟩⟩

def context : Context :=
  .ofInputs []

def now : Instant :=
  ⟨0, 0⟩

theorem arrives_search :
    (∀ server ∈ search.kind.servers, ToolName.Separable server) ∧
      ToolName.split? (ToolName.qualified "search" "web_query") =
        some ("search", "web_query") ∧
      search.Demands Research.settings plan context now
        ⟨"search", "web_query", some []⟩ := by
  have hseparable : ∀ server ∈ search.kind.servers,
      ToolName.Separable server := by decide
  have harrives : search.Arrives Research.settings plan context now :=
    Node.arrives hseparable
  refine ⟨hseparable, ?_, ?_⟩
  · exact (harrives.reads "search" (by decide) "web_query").mpr (by decide)
  · exact (harrives.asks _ rfl (by decide) (by decide) _).mpr ⟨[], rfl, rfl⟩

/-- Where the calls of the other two nodes end up. -/
def elsewhere : ToolServer.Address :=
  ⟨"a", "b__c", some []⟩

def tools : List ToolDefinition :=
  [⟨"mcp__a__b__c", "", .null⟩]

theorem tools_gathered :
    Gathering.Reaches config.tools (.ended (.ok tools)) := by
  have hfound : Gathering.Reaches config.tools (.looking tools []) :=
    .step .start [("a__b", [⟨"c", some "", .null⟩])] ()
  exact hfound.step [] ()

/-- What the agent is asked to do once its instructions are known. -/
def request : AgentConfig :=
  { config with
    instructions := (Template.resolve config.instructions context).text }

def opened : Transcript :=
  ⟨tools, opening request, 0, 0, 0⟩

def stream : ModelStream :=
  ⟨[.toolStart 0 "c1" "mcp__a__b__c"], none⟩

def log : Log :=
  [⟨.discovering, some (.ok tools)⟩, ⟨.ready opened, false⟩,
    ⟨.asking opened 0, .ok (.ok stream)⟩]

def calling : Conversation :=
  .calling (opened.enter (Turn.ofDeltas stream.deltas)) []
    ⟨"c1", "mcp__a__b__c", ""⟩ []

theorem follows : Follows Research.settings request log calling := by
  have hstart : Follows Research.settings request [] .discovering := .nil
  have hready : Follows Research.settings request (log.take 1)
      (.ready opened) :=
    hstart.snoc (some (.ok tools))
  have hasking : Follows Research.settings request (log.take 2)
      (.asking opened 0) :=
    hready.snoc false
  exact hasking.snoc (.ok (.ok stream))

theorem demands_elsewhere :
    ask.Demands Research.settings plan context now elsewhere := by
  refine ⟨.agent request, rfl, "mcp__a__b__c", .empty, ?_, ?_⟩
  · refine .agent follows ?_ (List.mem_singleton_self _)
    intro others hothers
    obtain rfl := List.mem_singleton.mp hothers
    exact tools_gathered
  · decide +kernel

/-- Both nodes mean a tool of one server, and another server is asked for
another tool. -/
theorem calls_astray :
    ToolName.qualified "a__b" "c" = ToolName.qualified "a" "b__c" ∧
      ToolName.split? (ToolName.qualified "a__b" "c") = some ("a", "b__c") ∧
      call.Demands Research.settings plan context now elsewhere ∧
      ¬ call.kind.Means elsewhere ∧
      ask.Demands Research.settings plan context now elsewhere ∧
      ¬ ask.kind.Means elsewhere := by
  refine ⟨by decide +kernel, by decide +kernel, ?_, ?_, demands_elsewhere, ?_⟩
  · rw [Node.demands_tool_iff rfl]
    decide +kernel
  · rintro (⟨hserver, -⟩ | _)
    simp [elsewhere] at hserver
  · rintro (_ | ⟨hspec, hserver, -⟩)
    obtain rfl := List.mem_singleton.mp hspec
    simp [elsewhere] at hserver

end Astray

end Workflow
