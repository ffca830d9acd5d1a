import Workflow.Proofs.Run.History

/-!
# Runs that come back from a store

Between two legs a run is kept in a store.  A store that keeps runs as text
hands out the same run but for one thing: a last output that is `null` is
absent afterwards.  `Restored` says what a store may hand out, and `Stored` are
the histories of runs whose legs go on with that.  Stores that keep the runs
themselves, and so drop nothing, are the special case of `Reachable`.
-/

namespace Workflow

/-- What a store hands out for a run that it was given.  A store that drops
`null` forgets a last output of that value. -/
inductive SuspendedRun.Restored (drops : Prop) (suspended : SuspendedRun) :
    SuspendedRun → Prop
  | same : Restored drops suspended suspended
  | dropped (hdrops : drops)
      (hnull : suspended.context.lastOutput = some .null) :
      Restored drops suspended
        { suspended with
          context := { suspended.context with lastOutput := none } }

namespace SuspendedRun.Restored

variable {drops : Prop} {suspended restored : SuspendedRun}

theorem run_eq (hrestored : suspended.Restored drops restored) :
    restored.run = suspended.run := by
  cases hrestored <;> rfl

theorem graph_eq (hrestored : suspended.Restored drops restored) :
    restored.graph = suspended.graph := by
  cases hrestored <;> rfl

theorem cursor_eq (hrestored : suspended.Restored drops restored) :
    restored.cursor = suspended.cursor := by
  cases hrestored <;> rfl

end SuspendedRun.Restored

namespace History

/-- The histories of a run that is kept in a store between its legs. -/
inductive Stored (drops : Prop) (around : Surroundings) (run : RunId)
    (graph : Graph) (inputs : Assoc Json) : History → Prop
  | start {limits : EngineConfig} {leg : Leg} {told : List Event}
      (hstart : Leg.start ⟨limits, run, graph⟩ inputs = .ok (leg, told)) :
      Stored drops around run graph inputs
        ⟨.start, ⟨limits, run, graph⟩, [], told, leg⟩
  | step {history : History}
      (hstored : Stored drops around run graph inputs history)
      (move : history.leg.Move) (hmove : around history.leg move) :
      Stored drops around run graph inputs (history.after move)
  | resume {history : History} {limits : EngineConfig}
      {suspended restored : SuspendedRun} {signal : ResumeSignal} {leg : Leg}
      {told : List Event}
      (hstored : Stored drops around run graph inputs history)
      (hleg : history.leg = .ended (.suspended suspended))
      (hrestored : suspended.Restored drops restored)
      (hresume : Leg.resume limits restored signal = .ok (leg, told)) :
      Stored drops around run graph inputs
        ⟨.resume restored signal, Leg.planOf limits restored,
          history.events, told, leg⟩

variable {drops : Prop} {around : Surroundings} {run : RunId} {graph : Graph}
variable {inputs : Assoc Json} {history : History}

theorem Reachable.stored
    (hreach : Reachable around run graph inputs history) :
    Stored drops around run graph inputs history := by
  induction hreach with
  | start hstart => exact .start hstart
  | step _ move hmove ih => exact ih.step move hmove
  | resume _ hleg hresume ih => exact ih.resume hleg .same hresume

namespace Stored

theorem wellFormed
    (hstored : Stored drops around run graph inputs history) :
    graph.WellFormed Schema.refusal? := by
  induction hstored with
  | start hstart => exact (Leg.starts_of_start hstart).1
  | step _ _ _ ih => exact ih
  | resume _ _ _ _ ih => exact ih

/-- What is handed out can be resumed like what was put aside. -/
theorem resumes_of_restored {limits earlier : EngineConfig}
    {suspended restored : SuspendedRun} {signal : ResumeSignal} {leg : Leg}
    {events : List Event} (hgraph : graph.WellFormed Schema.refusal?)
    (hawaits : Leg.Awaits ⟨earlier, run, graph⟩ suspended)
    (hrestored : suspended.Restored drops restored)
    (hresume : Leg.resume limits restored signal = .ok (leg, events)) :
    Leg.planOf limits restored = ⟨limits, run, graph⟩ ∧
      Leg.Resumes restored signal leg events := by
  have hplan : Leg.planOf limits restored = ⟨limits, run, graph⟩ := by
    rw [Leg.planOf, hrestored.run_eq, hrestored.graph_eq, hawaits.run_eq,
      hawaits.graph_eq]
  have hexits : ∃ edge, restored.graph.Exit restored.cursor none edge := by
    rw [hrestored.graph_eq, hrestored.cursor_eq]
    exact hawaits.exists_exit hgraph
  exact ⟨hplan, (Leg.resumes_of_exit hexits hresume).2⟩

/-- The run and the graph stay the same, and no stage looks up what is not
there. -/
theorem sound (hstored : Stored drops around run graph inputs history) :
    (∃ limits, history.plan = ⟨limits, run, graph⟩) ∧
      Leg.Sound history.plan history.leg := by
  induction hstored with
  | start hstart => exact ⟨⟨_, rfl⟩, (Leg.starts_of_start hstart).2.sound⟩
  | @step history hstored move _ ih =>
      obtain ⟨⟨limits, hplan⟩, hsound⟩ := ih
      have hgraph : history.plan.graph.WellFormed Schema.refusal? := by
        simpa [hplan] using hstored.wellFormed
      have hgoes := Leg.goes_step hgraph hsound move
      exact ⟨⟨limits, hplan⟩, hgoes.sound hgraph hsound⟩
  | @resume history limits suspended restored _ _ _ hstored hleg hrestored
      hresume ih =>
      obtain ⟨⟨earlier, hplan⟩, hsound⟩ := ih
      rw [hplan, hleg] at hsound
      cases hsound with
      | suspended hawaits =>
          obtain ⟨hlater, hresumes⟩ :=
            resumes_of_restored hstored.wellFormed hawaits hrestored hresume
          have hgraph : restored.graph.WellFormed Schema.refusal? := by
            rw [hrestored.graph_eq, hawaits.graph_eq]
            exact hstored.wellFormed
          exact ⟨⟨limits, hlater⟩, hresumes.sound hgraph⟩

/-- What holds of every first stage of a run, and is kept by every step and
every resumption of what a store hands out, holds of every history. -/
theorem induct {motive : History → Prop}
    (starts : ∀ {limits leg told}, Leg.Starts ⟨limits, run, graph⟩ leg told →
      motive ⟨.start, ⟨limits, run, graph⟩, [], told, leg⟩)
    (goes : ∀ {beginning limits past told leg next events} {move : leg.Move},
      Leg.Sound ⟨limits, run, graph⟩ leg → around leg move →
      Leg.Goes ⟨limits, run, graph⟩ leg move next events →
      motive ⟨beginning, ⟨limits, run, graph⟩, past, told, leg⟩ →
      motive ⟨beginning, ⟨limits, run, graph⟩, past, told ++ events, next⟩)
    (resumes : ∀ {beginning limits now past told suspended restored signal
        leg events},
      Leg.Awaits ⟨limits, run, graph⟩ suspended →
      suspended.Restored drops restored →
      Leg.Resumes restored signal leg events →
      motive ⟨beginning, ⟨limits, run, graph⟩, past, told,
        .ended (.suspended suspended)⟩ →
      motive ⟨.resume restored signal, ⟨now, run, graph⟩, past ++ told,
        events, leg⟩)
    (hstored : Stored drops around run graph inputs history) :
    motive history := by
  induction hstored with
  | start hstart => exact starts (Leg.starts_of_start hstart).2
  | @step history hstored move hmove ih =>
      obtain ⟨⟨limits, hplan⟩, hsound⟩ := hstored.sound
      obtain ⟨beginning, plan, past, told, leg⟩ := history
      obtain rfl : plan = ⟨limits, run, graph⟩ := hplan
      exact goes hsound hmove (Leg.goes_step hstored.wellFormed hsound move)
        ih
  | @resume history now suspended restored signal _ _ hstored hleg hrestored
      hresume ih =>
      obtain ⟨⟨limits, hplan⟩, hsound⟩ := hstored.sound
      obtain ⟨beginning, plan, past, told, leg⟩ := history
      obtain rfl : plan = ⟨limits, run, graph⟩ := hplan
      obtain rfl : leg = .ended (.suspended suspended) := hleg
      cases hsound with
      | suspended hawaits =>
          obtain ⟨hlater, hresumes⟩ :=
            resumes_of_restored hstored.wellFormed hawaits hrestored hresume
          rw [hlater]
          exact resumes hawaits hrestored hresumes ih

end Stored

end History

end Workflow
