import Workflow.Proofs.Agent.Failure
import Workflow.Proofs.Run.History
import Workflow.Run.Manager

/-!
# How runs fail

`Served` are the surroundings that a run has in practice: agents answer by
conversations, scripts fail as scripts do, tools do what they like, and a
manager puts runs aside.  In these surroundings a run of a graph without a
defect fails with few errors.  That the graph is at fault is never one of
them, since no node and no edge is ever missing; inputs are refused before
anything is started; and an error of the store comes up only where the run is
put aside.
-/

namespace Workflow

/-! ## Errors -/

/-- The errors of scripts. -/
inductive Error.OfScript : Error → Prop
  | script (message : String) : OfScript (.script message)
  | scriptTimeout (millis : Nat) : OfScript (.scriptTimeout millis)
  | cancelled : OfScript .cancelled

/-- The errors that a run may fail with wherever it has come to. -/
inductive Error.Documented : Error → Prop
  | script (message : String) : Documented (.script message)
  | scriptTimeout (millis : Nat) : Documented (.scriptTimeout millis)
  | agent (failure : AgentFailure) (message : String) (raw : Option String) :
      Documented (.agent failure message raw)
  | loopSafety (node : String) (iterations : Nat) :
      Documented (.loopSafety node iterations)
  | cancelled : Documented .cancelled
  | rejected (node : String) (note : Option String) :
      Documented (.rejected node note)

theorem Error.OfScript.documented {error : Error} (herror : error.OfScript) :
    error.Documented := by
  cases herror with
  | script message => exact .script message
  | scriptTimeout millis => exact .scriptTimeout millis
  | cancelled => exact .cancelled

theorem Error.OfAgent.documented {error : Error} (herror : error.OfAgent) :
    error.Documented := by
  cases herror with
  | cancelled => exact .cancelled
  | agent failure message raw => exact .agent failure message raw

/-- The errors of tools are told as errors of agents, unless the run was
cancelled. -/
theorem Leg.toolFailure_ofAgent (error : Error) :
    (toolFailure error).OfAgent := by
  unfold toolFailure
  split
  · exact .cancelled
  · exact .agent ..

/-! ## Surroundings -/

variable {σ : Type} [SuspensionStore σ]

/-- What happens around a run whose agents have given settings and whose
manager keeps suspended runs in a store of type `σ`. -/
inductive Served (settings : Agent.Settings) (σ : Type) [SuspensionStore σ] :
    Surroundings
  | between {context : Context} {next : String} (cancelled : Bool) :
      Served settings σ (.between context next) cancelled
  | entered {context : Context} {node : Node} (now : Option Instant) :
      Served settings σ (.entered context node) now
  | interrupted {context : Context} {node : Node} {work : Work} :
      Served settings σ (.working context node work) none
  | agent {context : Context} {node : Node} {request : AgentConfig}
      {result : Except Error Json} {full : Except Error Agent.Result}
      (hreaches : Agent.Conversation.Reaches settings request (.ended full))
      (hresult : result = full.map (·.output)) :
      Served settings σ (.working context node (.agent request)) (some result)
  | transform {context : Context} {node : Node} {script : String}
      {bindings : Assoc Json} {millis : Nat} {result : Except Error Json}
      (hscript : ∀ error, result = .error error → error.OfScript) :
      Served settings σ
        (.working context node (.transform script bindings millis))
        (some result)
  | choice {context : Context} {node : Node} {condition : String}
      {bindings : Assoc Json} {millis : Nat} {result : Except Error Bool}
      (hscript : ∀ error, result = .error error → error.OfScript) :
      Served settings σ
        (.working context node (.choice condition bindings millis))
        (some result)
  | iteration {context : Context} {node : Node} {condition : String}
      {bindings : Assoc Json} {millis completed : Nat}
      {result : Except Error Bool}
      (hscript : ∀ error, result = .error error → error.OfScript) :
      Served settings σ
        (.working context node
          (.iteration condition bindings millis completed))
        (some result)
  | tool {context : Context} {node : Node} {server tool : String}
      {arguments : Json} (result : Except Error ToolOutput) :
      Served settings σ (.working context node (.tool server tool arguments))
        (some result)
  | kept {suspended : SuspendedRun} :
      Served settings σ (.parking suspended) none
  | refused {suspended : SuspendedRun} {error : Error} (manager : Manager σ)
      (hpark : (manager.park suspended).1 = some error) :
      Served settings σ (.parking suspended) (some error)
  | parked {suspended : SuspendedRun} :
      Served settings σ (.parked suspended) ()

/-- A manager refuses to put a run aside because it was cancelled, or with the
error of its store. -/
theorem Manager.park_refusal {manager : Manager σ} {suspended : SuspendedRun}
    {error : Error} (hpark : (manager.park suspended).1 = some error) :
    error = .cancelled ∨
      SuspensionStore.save manager.store suspended = .error error := by
  unfold park keep at hpark
  by_cases hcancelled :
    (Assoc.get? manager.live suspended.run).any manager.isCancelled = true
  · simp only [hcancelled, if_true] at hpark
    exact .inl (Option.some.inj hpark).symm
  · cases hsave : SuspensionStore.save manager.store suspended with
    | error refusal =>
        simp only [hcancelled, hsave] at hpark
        exact .inr (congrArg Except.error (Option.some.inj hpark))
    | ok store => simp [hcancelled, hsave] at hpark

/-! ## Runs -/

/-- A failure that is accounted for, in a run of a graph. -/
inductive Accounted (σ : Type) [SuspensionStore σ] (run : RunId)
    (graph : Graph) (history : History) (node : String) : Error → Prop
  | documented {error : Error} (herror : error.Documented) :
      Accounted σ run graph history node error
  | input {name reason : String} (hbeginning : history.beginning = .start)
      (hevents : history.events =
        [⟨node, .error, Error.payload (.invalidInput name reason)⟩]) :
      Accounted σ run graph history node (.invalidInput name reason)
  | store {error : Error} (store : σ) {suspended : SuspendedRun}
      (hrun : suspended.run = run) (hgraph : suspended.graph = graph)
      (hcursor : suspended.cursor = node)
      (hsave : SuspensionStore.save store suspended = .error error) :
      Accounted σ run graph history node error

namespace Leg

variable {plan : Plan} {settings : Agent.Settings}

/-- A step fails with an error that is documented, or with the error of the
store. -/
theorem Fails.accounted {leg : Leg} {move : leg.Move} {node : String}
    {error : Error} {history : History} (hserved : Served settings σ leg move)
    (hsound : Sound plan leg) (hfails : Fails plan leg move node error) :
    Accounted σ plan.run plan.graph history node error := by
  cases hfails with
  | cancelledBetween => exact .documented .cancelled
  | exhausted _ => exact .documented (.loopSafety ..)
  | cancelledEntered => exact .documented .cancelled
  | cancelledWorking => exact .documented .cancelled
  | agent =>
      cases hserved with
      | @agent _ _ _ _ full hreaches hresult =>
          cases full with
          | ok answer => simp [Except.map] at hresult
          | error failure =>
              obtain rfl := Except.error.inj hresult
              exact .documented (Error.OfAgent.documented hreaches.accounts)
  | transform =>
      cases hserved with
      | transform hscript => exact .documented (hscript _ rfl).documented
  | choice =>
      cases hserved with
      | choice hscript => exact .documented (hscript _ rfl).documented
  | iteration =>
      cases hserved with
      | iteration hscript => exact .documented (hscript _ rfl).documented
  | tool => exact .documented (toolFailure_ofAgent _).documented
  | toolReport _ => exact .documented (.agent ..)
  | refused =>
      cases hsound with
      | parking hawaits =>
          cases hserved with
          | refused manager hpark =>
              rcases manager.park_refusal hpark with rfl | hsave
              · exact .documented .cancelled
              · exact .store manager.store hawaits.run_eq hawaits.graph_eq rfl
                  hsave

end Leg

namespace History

variable {settings : Agent.Settings}
variable {run : RunId} {graph : Graph} {inputs : Assoc Json}

theorem Reachable.accounted {history : History}
    (hreach : Reachable (Served settings σ) run graph inputs history)
    {node : String} {error : Error}
    (hleg : history.leg = .ended (.failed node error)) :
    Accounted σ run graph history node error := by
  revert node error
  refine Reachable.induct
    (motive := fun history => ∀ {node : String} {error : Error},
      history.leg = .ended (.failed node error) →
        Accounted σ run graph history node error)
    ?_ ?_ ?_ hreach
  · intro limits leg told hstarts node error hleg
    cases hstarts with
    | refused _ =>
        cases hleg
        exact .input rfl rfl
    | begins _ => cases hleg
  · intro beginning limits past told leg next new move hsound hserved hgoes _
      node error hleg
    cases hgoes with
    | fails hfails =>
        cases hleg
        exact hfails.accounted hserved hsound
    | _ => cases hleg
  · intro beginning limits now past told suspended signal leg new _ hresumes _
      node error hleg
    cases hresumes with
    | rejected _ =>
        cases hleg
        exact .documented (.rejected ..)
    | approved _ _ => cases hleg

/-- A graph without a defect is started, and a run of it is resumed, without
any refusal.  Its legs fail with the documented errors only; where the store
does not blame the graph, nothing does. -/
theorem failures_accounted (hgraph : graph.defect? Schema.refusal? = none) :
    (∀ limits, ∃ leg told,
      Leg.start ⟨limits, run, graph⟩ inputs = .ok (leg, told)) ∧
    ∀ history, Reachable (Served settings σ) run graph inputs history →
      (∀ limits suspended signal,
        history.leg = .ended (.suspended suspended) →
        signal.run = suspended.run →
        ∃ leg told, Leg.resume limits suspended signal = .ok (leg, told)) ∧
      ∀ node error, history.leg = .ended (.failed node error) →
        Accounted σ run graph history node error ∧
        ((∀ (store : σ) suspended reason culprit,
            SuspensionStore.save store suspended ≠
              .error (.invalidGraph reason culprit)) →
          ∀ reason culprit, error ≠ .invalidGraph reason culprit) := by
  have hwell := Graph.wellFormed_of_defect?_eq_none hgraph
  refine ⟨?_, fun history hreach => ⟨?_, ?_⟩⟩
  · intro limits
    obtain ⟨start, hstart, -, -⟩ := hwell.exists_start
    have hstarted : Leg.start ⟨limits, run, graph⟩ inputs = _ :=
      Leg.start_eq hwell hstart
    exact ⟨_, _, hstarted⟩
  · intro limits suspended signal _ hrun
    exact Leg.exists_resume_eq_ok hrun
  · intro node error hleg
    have haccounted := hreach.accounted hleg
    refine ⟨haccounted, ?_⟩
    rintro hstore reason culprit rfl
    cases haccounted with
    | documented herror => cases herror
    | store store _ _ _ hsave => exact hstore store _ reason culprit hsave

end History

namespace Review

/-- Settings of agents. -/
def settings : Agent.Settings :=
  ⟨⟨"openai", "small", none, none, 4096, 0, [], none⟩, .standard, 8, 120000⟩

/-- The condition has failed. -/
def broken : History where
  beginning := .start
  plan := plan
  past := []
  told := checking.told ++
    [⟨"check", .error, Error.payload (.script "input.due is not defined")⟩]
  leg := .ended (.failed "check" (.script "input.due is not defined"))

theorem broken_reachable :
    History.Reachable (Served settings MemoryStore) "run" graph [] broken := by
  have hchecking :
      History.Reachable (Served settings MemoryStore) "run" graph [] checking :=
    checking_reachable (fun _ _ => .between) (fun _ _ => .entered)
  refine hchecking.step (some (.error (.script "input.due is not defined")))
    (.choice ?_)
  rintro error ⟨⟩
  exact .script _

/-- A failure of a script is documented. -/
theorem failures_accounted_broken :
    graph.defect? Schema.refusal? = none ∧
      Accounted MemoryStore "run" graph broken "check"
        (.script "input.due is not defined") := by
  have hgraph := graph_wellFormed.defect?_eq_none
  have hfailures :=
    (History.failures_accounted hgraph).2 broken broken_reachable
  exact ⟨hgraph, (hfailures.2 _ _ rfl).1⟩

end Review

end Workflow
