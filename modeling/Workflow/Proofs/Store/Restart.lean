import Workflow.Proofs.Manager.Store
import Workflow.Proofs.Run.Alike
import Workflow.Proofs.Run.Storable

/-!
# Runs that survive a restart

A run that was put aside on a graph loaded from a document, and is kept as a
row of text, comes back as it was up to a last output of `null`, and whatever is
done with it afterwards, nobody can tell it from the run that was put aside
(`SuspendedRun.survives_restart`).  The text must not nest deeper than texts may, and
its numbers must be read as they were written.
-/

namespace Workflow

/-- A graph that was loaded from a document. -/
def Graph.Loaded (graph : Graph) : Prop :=
  (∃ value, ofJson value = .ok graph) ∨ ∃ text, ofText text = .ok graph

theorem Graph.Loaded.storable {graph : Graph} (hloaded : graph.Loaded) :
    graph.Storable := by
  rcases hloaded with ⟨value, hload⟩ | ⟨text, hload⟩
  · exact storable_of_ofJson hload
  · exact storable_of_ofText hload

/-- What a run is read back as is the same up to a last output of `null`. -/
theorem SuspendedRun.restored_restored (suspended : SuspendedRun) :
    suspended.Restored True suspended.restored := by
  obtain ⟨run, graph, ⟨inputs, lastOutput, outputs, counters, trace, steps⟩, cursor,
    prompt, suspendedAt, expiresAt, onTimeout⟩ := suspended
  by_cases hnull : lastOutput = some .null
  · subst hnull
    exact .dropped trivial rfl
  · have hkept : lastOutput.filter (· ≠ .null) = lastOutput := by
      cases lastOutput <;> simp_all
    simp only [restored, Context.restored, hkept]
    exact .same

namespace RowStore

variable {rows : RowStore} {suspended : SuspendedRun}

/-- What is handed out for a run that was saved last is what its row is read
as. -/
theorem take_save :
    (rows.save suspended).take suspended.run =
      ((StoredRow.ofRun suspended).read, rows.erase suspended.run) := by
  have hother : (rows.erase suspended.run).find? suspended.run = none := by
    simp [find?, erase]
  have hfound : (rows.save suspended).find? suspended.run =
      some (StoredRow.ofRun suspended) := by
    have hrows : (rows.erase suspended.run).rows.find? (·.run = suspended.run) = none :=
      hother
    simp [find?, save, List.find?_append, hrows, StoredRow.ofRun]
  have herase : (rows.save suspended).erase suspended.run =
      rows.erase suspended.run := by
    simp [save, erase, List.filter_append, StoredRow.ofRun]
  rw [take_eq, hfound, herase, Option.elim_some]

end RowStore

namespace SuspendedRun

/-- A run that the engine has put aside: it came to this in surroundings that
are regular, from inputs as they are read and within a budget of 64 bits. -/
inductive PutAside (suspended : SuspendedRun) : Prop
  | intro {around : Surroundings} {run : RunId} {inputs : Assoc Json}
      {history : History} (hregular : around.Regular)
      (hinputs : (Json.record inputs).Canonical)
      (hstored : History.Stored True around run suspended.graph inputs history)
      (hleg : history.leg = .ended (.suspended suspended))
      (hbudget : history.plan.limits.maxSteps < Width.span 64)

variable {suspended : SuspendedRun}

/-- The row of a run that was put aside is read as the same run up to a last
output of `null`. -/
theorem PutAside.read_ofRun (hputAside : suspended.PutAside)
    (hgraph : suspended.graph.Storable) (hreadable : suspended.Readable) :
    (StoredRow.ofRun suspended).read = .ok suspended.restored := by
  obtain ⟨hregular, hinputs, hstored, hleg, hbudget⟩ := hputAside
  obtain ⟨hstorable, hsteps⟩ :=
    hstored.storable_suspended hregular hgraph hinputs hleg
  exact StoredRow.read_ofRun hstorable (Nat.lt_of_le_of_lt hsteps hbudget) hreadable

open History (Continues Twins)

/-- Going on with a run that was kept as a row of text is the same as going on
with the run itself: with the same signals, limits and moves both report the
same and come to the same, in this leg and in all later ones. -/
theorem survives_restart (hgraph : suspended.graph.Loaded)
    (hputAside : suspended.PutAside) (hreadable : suspended.Readable)
    (rows : RowStore) :
    ∃ saved restored,
      SuspensionStore.save rows suspended = .ok saved ∧
        SuspensionStore.take saved suspended.run =
          (.ok restored, rows.erase suspended.run) ∧
        suspended.Restored True restored ∧
        (∀ limits signal, Leg.ResumesAlike (Leg.resume limits suspended signal)
          (Leg.resume limits restored signal)) ∧
        (∀ first, Continues suspended first →
          ∃ second, Twins suspended restored first second) ∧
        (∀ second, Continues restored second →
          ∃ first, Twins suspended restored first second) ∧
        ∀ first second, Twins suspended restored first second →
          first.Alike second := by
  have hread := hputAside.read_ofRun hgraph.storable hreadable
  have hrestored := suspended.restored_restored
  have halike : suspended.Alike suspended.restored :=
    (Alike.refl suspended).restored hrestored
  have htake : (rows.save suspended).take suspended.run =
      (.ok suspended.restored, rows.erase suspended.run) := by
    rw [RowStore.take_save, hread]
  refine ⟨rows.save suspended, suspended.restored, rfl, htake, hrestored,
    halike.resume, fun _ => Continues.exists_twin halike,
    fun _ hcontinues => ?_, fun _ _ htwins => htwins.alike halike⟩
  obtain ⟨first, htwins⟩ := hcontinues.exists_twin halike.symm
  exact ⟨first, htwins.symm⟩

end SuspendedRun

/-! ## A run that keeps a value until it is approved -/

namespace Draft

/-- A workflow whose script gives a value before it asks for an approval. -/
def graph : Graph where
  nodes := [⟨"begin", none, .start []⟩, ⟨"draft", none, .transform ⟨"()", none⟩⟩,
    ⟨"ask", none, .approval ⟨"Go on?", none, .reject⟩⟩, ⟨"end", none, .finish⟩]
  edges := [⟨"in", "begin", "draft", none⟩, ⟨"on", "draft", "ask", none⟩,
    ⟨"out", "ask", "end", none⟩]

theorem graph_wellFormed : graph.WellFormed Schema.refusal? where
  idsNonempty := by decide
  idsDistinct := by decide
  edgesDistinct := by decide
  oneStart := by
    refine ⟨⟨"begin", none, .start []⟩, by decide, ?_⟩
    simp [graph, NodeKind.isStart]
  someFinish := by decide
  sources := by decide
  targets := by decide
  startEntries := by decide
  entries := by decide
  exits := by
    simp only [graph, List.forall_mem_cons, Graph.ExitsFit]
    exact ⟨⟨_, rfl⟩, ⟨_, rfl⟩, ⟨_, rfl⟩, rfl, by simp⟩
  settings := by
    simp only [graph, List.forall_mem_cons, Graph.SettingsFit,
      Graph.Meaningful]
    exact ⟨trivial, by decide, trivial, trivial, by simp⟩
  reachable := by
    simp only [graph, List.forall_mem_cons, NodeKind.isStart,
      forall_true_left]
    refine ⟨⟨⟨[], ?_⟩, ⟨graph.edges.take 1, ?_⟩, ⟨graph.edges.take 2, ?_⟩,
      ⟨graph.edges, ?_⟩, ?_⟩, ?_⟩
    all_goals simp [Graph.walk_cons_iff, Graph.walk_nil_iff, graph]
  cycles := by
    intro id walk hwalk hne
    have hrank := hwalk.rank_lt (fun id => graph.nodes.findIdx (·.id = id))
      (by decide) hne
    exact absurd hrank (lt_irrefl _)

theorem graph_storable : graph.Storable := by
  simp [Graph.Storable, graph, NodeKind.Storable, TransformConfig.Storable,
    ApprovalConfig.Storable]

theorem graph_loaded : graph.Loaded :=
  .inl ⟨_, Graph.ofJson_toJson graph_storable⟩

/-- Nobody cancels the run, it is always the same time, and the script gives a
value. -/
def around (value : Json) : Surroundings
  | .between .., false => True
  | .entered .., (some now : Option Instant) => now = ⟨0, 0⟩
  | .working _ _ (.transform ..),
      (some (.ok output) : Option (Except Error Json)) => output = value
  | .parking _, (none : Option Error) => True
  | .parked _, () => True
  | _, _ => False

variable {value : Json}

theorem regular (hvalue : value.Canonical) : (around value).Regular where
  clock := by
    rintro _ _ now (rfl : now = _)
    exact ⟨by decide, by decide, by decide⟩
  agent := False.elim
  transform := by
    rintro _ _ _ _ _ output (rfl : output = _)
    exact hvalue
  tool := False.elim

/-- What the run has learnt when it waits for the approval. -/
def drafted (value : Json) : Context :=
  ⟨[], some value, [("begin", .record []), ("draft", value)], [], ["in", "on"], 3⟩

def suspended (value : Json) : SuspendedRun :=
  ⟨"run", graph, drafted value, "ask", "Go on?", ⟨0, 0⟩, none, .reject⟩

/-- The run waits for the approval. -/
def waiting (value : Json) : History where
  beginning := .start
  plan := ⟨.standard, "run", graph⟩
  past := []
  told := [⟨"begin", .started, Json.ofMembers [("kind", .text "start")]⟩,
    ⟨"begin", .output, .record []⟩,
    ⟨"draft", .started, Json.ofMembers [("kind", .text "transform")]⟩,
    ⟨"draft", .output, value⟩,
    ⟨"ask", .started, Json.ofMembers [("kind", .text "user-approval")]⟩,
    ⟨"ask", .suspended, Leg.suspendedPayload (suspended value)⟩]
  leg := .ended (.suspended (suspended value))

/-- The prompt refers to nothing. -/
theorem prompt_eq (context : Context) :
    (Template.resolve "Go on?" context).text = "Go on?" := by
  have hpieces : Template.pieces "Go on?".toList =
      "Go on?".toList.map fun c => .literal [c] := by decide +kernel
  simp only [Template.resolve, hpieces]
  rfl

theorem waiting_reachable (value : Json) :
    History.Reachable (around value) "run" graph [] (waiting value) := by
  have hstart : Leg.start ⟨.standard, "run", graph⟩ [] =
      .ok (.between (.ofInputs []) "begin", []) := by
    rw [Leg.start_eq graph_wellFormed rfl]
    rfl
  have hask : Leg.suspend ⟨.standard, "run", graph⟩ (drafted value) "ask"
      ⟨"Go on?", none, .reject⟩ ⟨0, 0⟩ = suspended value := by
    rw [Leg.suspend, prompt_eq]
    rfl
  have hbegun : History.Reachable (around value) "run" graph [] _ := .start hstart
  have hbegin := hbegun.step false trivial
  have hleft := hbegin.step (some (⟨0, 0⟩ : Instant)) rfl
  have hdraft := hleft.step false trivial
  have hworking := hdraft.step (some (⟨0, 0⟩ : Instant)) rfl
  have hgiven :=
    hworking.step (some (.ok value) : Option (Except Error Json)) rfl
  have hentered := hgiven.step false trivial
  have hparking := hentered.step_to (some (⟨0, 0⟩ : Instant)) rfl
    (show _ = (Leg.parking (suspended value), []) from hask ▸ rfl)
  have hparked := hparking.step (none : Option Error) trivial
  exact hparked.step () trivial

theorem putAside (hvalue : value.Canonical) : (suspended value).PutAside :=
  .intro (regular hvalue) (Json.canonical_record.mpr (by simp))
    (waiting_reachable value).stored rfl
    (show EngineConfig.standard.maxSteps < Width.span 64 by decide)

theorem readable_null : (suspended .null).Readable :=
  ⟨SuspendedRun.legible_of_numbers (by decide +kernel) (by decide),
    by decide +kernel⟩

/-- The run comes back without its last output of `null`, and goes on all the
same. -/
theorem survives_restart_draft :
    ∃ saved restored,
      SuspensionStore.save RowStore.empty (suspended .null) = .ok saved ∧
        SuspensionStore.take saved "run" = (.ok restored, RowStore.empty) ∧
        (suspended .null).Restored True restored ∧
        (∀ limits signal,
          Leg.ResumesAlike (Leg.resume limits (suspended .null) signal)
            (Leg.resume limits restored signal)) ∧
        (∀ first, History.Continues (suspended .null) first →
          ∃ second, History.Twins (suspended .null) restored first second) ∧
        (∀ second, History.Continues restored second →
          ∃ first, History.Twins (suspended .null) restored first second) ∧
        ∀ first second, History.Twins (suspended .null) restored first second →
          first.Alike second :=
  SuspendedRun.survives_restart graph_loaded (putAside Json.canonical_null)
    readable_null .empty

end Draft

end Workflow
