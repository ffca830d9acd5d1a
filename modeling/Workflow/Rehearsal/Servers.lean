import Workflow.Json.Basic
import Workflow.Rehearsal.Cast
import Workflow.ToolServer.Calling
import Workflow.ToolServer.Listing

/-!
# Scripted tool servers

Tool servers whose reactions are known beforehand.  A server answers one request after the other; it
may leave, change its tools or announce something when one of its tools is called.
-/

namespace Workflow.Rehearsal

open ToolServer

/-- What a scripted server does when a tool is called. -/
inductive Reaction where
  /-- It answers with the arguments. -/
  | echo
  | refuse (code : Int) (message : String)
  /-- It offers further tools and announces that. -/
  | change
  | log (level : String) (data : Json)
  | leave
  /-- It leaves, unless it has left under the same mark before. -/
  | leaveOnce (mark : String) (answer : Except Failure ToolOutput)
  | answer (answer : Except Failure ToolOutput)
deriving Repr

/-- A scripted server. -/
structure ServerScript where
  tools : List Listed
  /-- The tools that it offers after a change. -/
  extra : List Listed
  /-- How long each call takes, and what happens then. -/
  reactions : Assoc (Nat × Reaction)
  /-- Whether it refuses to list its tools. -/
  keepsQuiet : Bool
  /-- Whether it leaves before it has introduced itself. -/
  hangsUp : Bool
deriving Repr

/-- A scripted server at work. -/
structure Process where
  script : ServerScript
  tools : List Listed
  running : Bool
  /-- When it has carried out everything that it was asked for. -/
  free : Nat

/-- The scripted servers and everything that is known about them. -/
structure Servers where
  now : Nat
  /-- How servers are reached; one without a script cannot be started. -/
  known : Assoc (ServerConfig × Option ServerScript)
  connections : Connections Process
  cache : ToolCache
  /-- The marks under which servers have left. -/
  marks : List String
  /-- What has been announced, the latest first. -/
  announced : List Announcement

namespace Servers

/-- Servers that nobody has reached yet. -/
def create (known : Assoc (ServerConfig × Option ServerScript)) : Servers :=
  ⟨0, known, .empty, [], [], []⟩

/-- Dial a server. -/
def dial (servers : Servers) (server : String) (config : ServerConfig) :
    Except DialFailure Process :=
  match (Assoc.get? servers.known server).bind (·.2), config.transport with
  | some script, _ =>
    if script.hangsUp then .error .hungUp else .ok ⟨script, script.tools, true, servers.now⟩
  | none, .program command _ _ =>
    .error (.notStarted command "No such file or directory (os error 2)")
  | none, .http _ => .error .hungUp

/-- Connect to a server. -/
def connect (servers : Servers) (server : String) (config : ServerConfig) :
    Except Error Unit × Servers :=
  let (result, connections) :=
    servers.connections.connect server config (servers.dial server config)
  (result, { servers with connections })

/-- Connect to a server that is known. -/
def connectKnown? (servers : Servers) (server : String) : Option (Except Error Unit × Servers) :=
  (Assoc.get? servers.known server).map fun (config, _) => servers.connect server config

/-- Connect to all servers that ask for it; how many that went well for. -/
def connectAll (servers : Servers) : Nat × Servers :=
  servers.known.foldl (fun (count, servers) (server, config, _) =>
    if config.autoConnect then
      match servers.connect server config with
      | (.ok (), servers) => (count + 1, servers)
      | (.error _, servers) => (count, servers)
    else (count, servers)) (0, servers)

/-- Close the connection to a server and dial it again. -/
def reconnect (servers : Servers) (server : String) : Except Error Unit × Servers :=
  let (result, connections) := servers.connections.reconnect server (servers.dial server)
  (result, { servers with connections })

/-- Take down an announcement.  A change of tools drops the listing that is kept. -/
def announce (servers : Servers) (announcement : Announcement) : Servers :=
  { servers with
    announced := announcement :: servers.announced
    cache := servers.cache.heed (.item announcement) }

/-- What a server answers to a call, and what the call brings about. -/
def react (servers : Servers) (server : String) (process : Process)
    (arguments : Option (Assoc Json)) :
    Reaction → Except Failure ToolOutput × Process × Servers
  | .echo =>
    (.ok (.success (Json.orNull (arguments.map .record)).render), process, servers)
  | .refuse code message => (.error (.refused code message), process, servers)
  | .change =>
    (.error .unexpected, { process with tools := process.tools ++ process.script.extra },
      servers.announce (.toolsChanged server))
  | .log level data =>
    (.error .unexpected, process, servers.announce (.log server level data.render))
  | .leave => (.error .closed, { process with running := false }, servers)
  | .leaveOnce mark answer =>
    if servers.marks.contains mark then (answer, process, servers)
    else (.error .closed, { process with running := false },
      { servers with marks := mark :: servers.marks })
  | .answer answer => (answer, process, servers)

/-- Make a request; nothing if there is no connection. -/
def ask (servers : Servers) (address : ToolServer.Address) :
    Option (Except Failure ToolOutput) × Servers :=
  match Assoc.get? servers.connections.links address.server with
  | none => (none, servers)
  | some process =>
    if !process.running then (some (.error .closed), servers)
    else
      match Assoc.get? process.script.reactions address.tool with
      | none => (some (.error (.refused (-32602) s!"unknown tool {address.tool}")), servers)
      | some (delay, reaction) =>
        let free := max servers.now process.free + delay
        let (answer, process, servers) :=
          servers.react address.server process address.arguments reaction
        (some answer, { servers with
          now := free
          connections := servers.connections.update address.server { process with free } })

/-- Go on with a call, for so many stages at most; nothing when its time is up. -/
def callFrom (address : ToolServer.Address) (deadline : Nat) :
    Nat → Calling → Servers → Option (Except Error ToolOutput) × Servers
  | 0, _, servers => (none, servers)
  | fuel + 1, stage, servers =>
    match stage with
    | .asking =>
      let (answer, servers) := servers.ask address
      if answer.isSome && deadline ≤ servers.now then (none, servers)
      else callFrom address deadline fuel (Calling.step address .asking answer) servers
    | .redialling failure =>
      let (result, servers) := servers.reconnect address.server
      callFrom address deadline fuel
        (Calling.step address (.redialling failure) result.isOk) servers
    | .askingAgain =>
      let (answer, servers) := servers.ask address
      if answer.isSome && deadline ≤ servers.now then (none, servers)
      else callFrom address deadline fuel (Calling.step address .askingAgain answer) servers
    | .ended result => (some result, servers)

/-- Call a tool by its qualified name. -/
def call (servers : Servers) (name : String) (arguments : Json) :
    Except Error ToolOutput × Servers :=
  match ToolServer.Address.ofCall name arguments with
  | .error error => (.error error, servers)
  | .ok address =>
    let patience := servers.connections.patience address.server
    let deadline := servers.now + 1000 * patience
    match callFrom address deadline 4 .asking servers with
    | (some result, servers) => (result, servers)
    | (none, servers) =>
      (.error (.toolTimeout name patience), { servers with now := deadline })

/-- What a server lists; nothing if there is no connection. -/
def list (servers : Servers) (server : String) : Option (Except Failure Page) :=
  (Assoc.get? servers.connections.links server).map fun process =>
    if !process.running then .error .closed
    else if process.script.keepsQuiet then .error (.refused (-32000) "no listing")
    else .ok ⟨process.tools, false⟩

/-- The tools that a server lists. -/
def listed (servers : Servers) (server : String) : Except Error (List Listed) :=
  match servers.list server with
  | none => .error (notConnected server)
  | some (.error failure) => .error (notListed server failure)
  | some (.ok page) => .ok page.tools

/-- Go on with gathering definitions, for so many stages at most. -/
def gatherFrom : Nat → Gathering → Servers → Except Error (List ToolDefinition) × Servers
  | 0, _, servers => (.ok [], servers)
  | fuel + 1, stage, servers =>
    let goOn (moved : ToolCache × Gathering) :=
      gatherFrom fuel moved.2 { servers with cache := moved.1 }
    match stage with
    | .looking sofar specs => goOn (Gathering.step servers.cache (.looking sofar specs) ())
    | .listing sofar spec specs tools =>
      goOn (Gathering.step servers.cache (.listing sofar spec specs tools)
        (servers.list spec.server))
    | .keeping sofar spec specs tools =>
      goOn (Gathering.step servers.cache (.keeping sofar spec specs tools) ())
    | .ended result => (result, servers)

/-- The definitions of the tools that specifications ask for. -/
def definitions (servers : Servers) (specs : List ToolSpec) :
    Except Error (List ToolDefinition) × Servers :=
  gatherFrom (3 * specs.length + 2) (.start specs) servers

end Servers

/-!
## The tools of a rehearsal

Tools whose results are known beforehand, or those of scripted servers.
-/

/-- Where tools come from. -/
inductive Toolbox where
  | listed (tools : List Tool)
  | served (servers : Servers)

namespace Toolbox

/-- The definitions of the tools that specifications ask for. -/
def define (specs : List ToolSpec) : Toolbox → Except Error (List ToolDefinition) × Toolbox
  | listed tools => (definitions tools specs, listed tools)
  | served servers =>
    let (result, servers) := servers.definitions specs
    (result, served servers)

/-- How long a call by a qualified name takes, and what it comes to. -/
def call (now : Nat) (name : String) (arguments : Json) :
    Toolbox → (Nat × Except Error ToolOutput) × Toolbox
  | listed tools => (Rehearsal.call tools name, listed tools)
  | served servers =>
    let (result, servers) := { servers with now }.call name arguments
    ((servers.now - now, result), served servers)

end Toolbox

end Workflow.Rehearsal
