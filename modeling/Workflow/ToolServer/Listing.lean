import Workflow.Event.Bus
import Workflow.ToolServer.Protocol

/-!
# Listing the tools of servers

What a server lists is kept in a cache until the server announces that its tools have changed.  The
cache is shared by everybody who gathers definitions.  A `Gathering` is a stage on the way: looking
into the cache, asking the server for one page after the other, and keeping what it listed.  What
may happen next at a stage is its `Move`.  Other gatherings and announcements may come in between two
stages.
-/

namespace Workflow.ToolServer

/-- The listings that are kept, by server. -/
abbrev ToolCache := Assoc (List Listed)

/-- Drop the listing of a server, as after the announcement that its tools have changed. -/
def ToolCache.invalidate (cache : ToolCache) (server : String) : ToolCache :=
  Assoc.erase cache server

/-- What becomes of the listings when an announcement is heard.  A change of tools drops the listing
of its server; when announcements were lost, any server may have changed its tools. -/
def ToolCache.heed (cache : ToolCache) : Received Announcement → ToolCache
  | .item (.toolsChanged server) => cache.invalidate server
  | .item (.log ..) => cache
  | .lagged _ => []

/-- The ring that servers announce things on. -/
def announcements : Bus Announcement :=
  .create 64

/-- A page of a listing. -/
structure Page where
  tools : List Listed
  /-- Whether there are further pages. -/
  more : Bool
deriving DecidableEq, Repr

/-- The definitions of the listed tools that a specification allows. -/
def definitionsOf (spec : ToolSpec) (tools : List Listed) : List ToolDefinition :=
  (tools.filter fun tool => spec.allows tool.name).map (Listed.definition spec.server)

/-- How far the gathering of definitions has come. -/
inductive Gathering where
  /-- The definitions so far, and the specifications that are left. -/
  | looking (sofar : List ToolDefinition) (specs : List ToolSpec)
  /-- The server of a specification is asked for a page; the pages so far. -/
  | listing (sofar : List ToolDefinition) (spec : ToolSpec) (specs : List ToolSpec)
      (tools : List Listed)
  /-- The server has listed all its tools. -/
  | keeping (sofar : List ToolDefinition) (spec : ToolSpec) (specs : List ToolSpec)
      (tools : List Listed)
  | ended (result : Except Error (List ToolDefinition))

namespace Gathering

/-- What can happen at a stage: a server lists a page or fails to, or has no connection. -/
def Move : Gathering → Type
  | looking .. => Unit
  | listing .. => Option (Except Failure Page)
  | keeping .. => Unit
  | ended _ => Empty

/-- The first stage. -/
def start (specs : List ToolSpec) : Gathering :=
  looking [] specs

/-- The cache and the stage after something has happened. -/
def step (cache : ToolCache) : (stage : Gathering) → stage.Move → ToolCache × Gathering
  | looking sofar [], () => (cache, ended (.ok sofar))
  | looking sofar (spec :: specs), () =>
    match Assoc.get? cache spec.server with
    | some tools => (cache, looking (sofar ++ definitionsOf spec tools) specs)
    | none => (cache, listing sofar spec specs [])
  | listing _ spec _ _, none => (cache, ended (.error (notConnected spec.server)))
  | listing _ spec _ _, some (.error failure) =>
    (cache, ended (.error (notListed spec.server failure)))
  | listing sofar spec specs tools, some (.ok page) =>
    if page.more then (cache, listing sofar spec specs (tools ++ page.tools))
    else (cache, keeping sofar spec specs (tools ++ page.tools))
  | keeping sofar spec specs tools, () =>
    (Assoc.insert cache spec.server tools, looking (sofar ++ definitionsOf spec tools) specs)

end Gathering

end Workflow.ToolServer
