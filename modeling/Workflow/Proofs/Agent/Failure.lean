import Workflow.Agent.Conversation

/-!
# How agents fail

An agent talks to a model and to tools, whose errors are of many kinds.  None
of them leaves the conversation as it is: a conversation that fails was
cancelled, or gives a reason of its own for having no answer.  No invariant of
the earlier stages is needed for that, since every step that ends a
conversation accounts for its error.
-/

namespace Workflow

/-- The errors of agents. -/
inductive Error.OfAgent : Error → Prop
  | cancelled : OfAgent .cancelled
  | agent (failure : AgentFailure) (message : String) (raw : Option String) :
      OfAgent (.agent failure message raw)

namespace Agent

/-- A structured answer is refused in one way only. -/
theorem readStructured_error {text : String} {schema : Option Json}
    {error : Error} (herror : readStructured text schema = .error error) :
    ∃ message, error = malformed message text := by
  unfold readStructured at herror
  split at herror
  · exact ⟨_, (Except.error.inj herror).symm⟩
  · split at herror
    · simp at herror
    · split at herror
      · exact ⟨_, (Except.error.inj herror).symm⟩
      · split at herror
        · simp at herror
        · exact ⟨_, (Except.error.inj herror).symm⟩

namespace Conversation

/-- The stages that a conversation can come to. -/
inductive Reaches (settings : Settings) (request : AgentConfig) :
    Conversation → Prop
  | start : Reaches settings request (start request)
  | step {stage : Conversation} (hreaches : Reaches settings request stage)
      (move : stage.Move) :
      Reaches settings request (step settings request stage move)

/-- A stage that has not failed, or has failed as agents do. -/
def Accounts : Conversation → Prop
  | .ended (.error error) => error.OfAgent
  | _ => True

theorem accounts_fail {error : Error} (herror : error.OfAgent) :
    (fail error).Accounts :=
  herror

theorem halt_error (settings : Settings) (halt : Halt) :
    (halt.error settings).OfAgent := by
  cases halt with
  | cancelled => exact .cancelled
  | outOfTime => exact .agent ..

/-- The errors of a model are told as errors of the agent. -/
theorem upstream_ofAgent (error : Error) : (upstream error).OfAgent := by
  unfold upstream
  split
  · exact .cancelled
  · exact .agent ..
  · split
    · exact .agent ..
    · exact .agent ..

theorem readAnswer_error {request : AgentConfig} {text : String}
    {error : Error} (herror : readAnswer request text = .error error) :
    error.OfAgent := by
  unfold readAnswer at herror
  split at herror
  · simp at herror
  · obtain ⟨message, rfl⟩ := readStructured_error herror
    exact .agent ..

theorem accounts_proceed {state : Transcript} {results : List Block}
    {calls : List Call} :
    (proceed state results calls).Accounts := by
  fun_induction proceed state results calls with
  | case1 => trivial
  | case2 => trivial
  | case3 _ _ _ _ ih => exact ih

theorem accounts_conclude {settings : Settings} {request : AgentConfig}
    {state : Transcript} {turn : Turn} :
    (conclude settings request state turn).Accounts := by
  unfold conclude
  split
  · cases hanswer : readAnswer request turn.text with
    | ok output => trivial
    | error error => exact readAnswer_error hanswer
  · dsimp only
    split
    · exact accounts_fail (.agent ..)
    · exact accounts_proceed

theorem accounts_step {settings : Settings} {request : AgentConfig}
    {stage : Conversation} (move : stage.Move) :
    (step settings request stage move).Accounts := by
  cases stage with
  | discovering =>
      match move with
      | some (.ok tools) => trivial
      | some (.error error) => exact accounts_fail (.agent ..)
      | none => exact accounts_fail (halt_error settings .outOfTime)
  | ready state =>
      match move with
      | true => exact accounts_fail .cancelled
      | false => trivial
  | asking state attempt =>
      match move with
      | .error halt => exact accounts_fail (halt_error settings halt)
      | .ok (.error error) => exact accounts_fail (upstream_ofAgent error)
      | .ok (.ok stream) =>
          simp only [step]
          split
          · exact accounts_conclude
          · split
            · trivial
            · exact accounts_fail (upstream_ofAgent _)
  | resting state attempt =>
      match move with
      | .error halt => exact accounts_fail (halt_error settings halt)
      | .ok () => trivial
  | calling state results call rest =>
      match move with
      | .error halt => exact accounts_fail (halt_error settings halt)
      | .ok outcome => exact accounts_proceed
  | ended result => exact move.elim

theorem Reaches.accounts {settings : Settings} {request : AgentConfig}
    {stage : Conversation} (hreaches : Reaches settings request stage) :
    stage.Accounts := by
  cases hreaches with
  | start =>
      by_cases htools : request.tools.isEmpty = true
      · simp [Conversation.start, htools, begin, Accounts]
      · simp [Conversation.start, htools, Accounts]
  | step _ move => exact accounts_step move

end Conversation

end Agent

end Workflow
