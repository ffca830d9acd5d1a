import Workflow.Proofs.Clock.Reading
import Workflow.Proofs.Graph.Document
import Workflow.Proofs.Json.Readback
import Workflow.Run.RowStore

/-!
# Suspended runs as documents

A suspended run is read back off its document as it was, but for a last output
that is `null`: absence and `null` are written alike, so it is absent
afterwards (`SuspendedRun.reads_toJson`).  A row of text that nests no deeper
than texts may is read the same way (`StoredRow.read_ofRun`).
-/

namespace Workflow

open Wire (Decoder Fields)

theorem Instant.reads_toJson {at_ : Instant} (hvalid : at_.Valid) :
    decoder.Reads at_.toJson at_ := by
  intro place _
  have hparse := parse_render hvalid
  simp only [toJson, Document.ofJson, decoder, hparse]

namespace Context

/-- A state that its document can tell, but for the last output and for a number
of steps beyond 64 bits. -/
structure Storable (context : Context) : Prop where
  inputs : (Json.record context.inputs).Canonical
  lastOutput : ∀ value ∈ context.lastOutput, value.Canonical
  nodeOutputs : (Json.record context.nodeOutputs).Canonical
  counters_sorted : context.counters.Sorted
  counters_lt : ∀ counter ∈ context.counters, counter.2 < Width.span 32

/-- What a state is read back as: a last output of `null` is not told from an
absent one. -/
def restored (context : Context) : Context :=
  { context with lastOutput := context.lastOutput.filter (· ≠ .null) }

theorem reads_toJson {context : Context} (hstorable : context.Storable)
    (hsteps : context.steps < Width.span 64) :
    decoder.Reads context.toJson context.restored := by
  obtain ⟨inputs, lastOutput, outputs, counters, trace, steps⟩ := context
  refine Json.reads_ofMembers fun hsorted => ?_
  refine .seq (.seq (.seq (.seq (.seq (.map ?_) ?_) ?_) ?_) ?_) ?_
  · exact Fields.reads_required hsorted (by simp)
      (Decoder.reads_assoc_json hstorable.inputs)
  · exact Fields.reads_optional_json hsorted (by simp) hstorable.lastOutput
  · exact Fields.reads_withDefault hsorted (by simp)
      (Decoder.reads_assoc_json hstorable.nodeOutputs)
  · exact Fields.reads_withDefault hsorted (by simp)
      (Decoder.reads_assoc hstorable.counters_sorted fun counter hmem =>
        Decoder.reads_natBelow (hstorable.counters_lt counter hmem))
  · exact Fields.reads_withDefault hsorted (by simp)
      (Decoder.reads_list fun edge _ => Decoder.reads_string edge)
  · exact Fields.reads_withDefault hsorted (by simp)
      (Decoder.reads_natBelow hsteps)

end Context

namespace SuspendedRun

/-- A run that its document can tell, but for what `Context.Storable` leaves
open. -/
structure Storable (suspended : SuspendedRun) : Prop where
  graph : suspended.graph.Storable
  context : suspended.context.Storable
  suspendedAt : suspended.suspendedAt.Valid
  expiresAt : ∀ deadline ∈ suspended.expiresAt, deadline.Valid

/-- What a run is read back as. -/
def restored (suspended : SuspendedRun) : SuspendedRun :=
  { suspended with context := suspended.context.restored }

theorem reads_toJson {suspended : SuspendedRun} (hstorable : suspended.Storable)
    (hsteps : suspended.context.steps < Width.span 64) :
    decoder.Reads suspended.toJson suspended.restored := by
  have hgraph := Graph.reads_toJson hstorable.graph
  have hcontext := Context.reads_toJson hstorable.context hsteps
  have hsuspendedAt := Instant.reads_toJson hstorable.suspendedAt
  have hexpiresAt := hstorable.expiresAt
  obtain ⟨run, graph, context, cursor, prompt, suspendedAt, expiresAt, onTimeout⟩ :=
    suspended
  refine Json.reads_ofMembers fun hsorted => ?_
  refine .seq (.seq (.seq (.seq (.seq (.seq (.seq (.map ?_) ?_) ?_) ?_) ?_) ?_) ?_) ?_
  · exact Fields.reads_required hsorted (by simp) (Decoder.reads_string run)
  · exact Fields.reads_required hsorted (by simp) hgraph
  · exact Fields.reads_required hsorted (by simp) hcontext
  · exact Fields.reads_required hsorted (by simp) (Decoder.reads_string cursor)
  · exact Fields.reads_required hsorted (by simp) (Decoder.reads_string prompt)
  · exact Fields.reads_required hsorted (by simp) hsuspendedAt
  · exact Fields.reads_optional hsorted (by simp) fun deadline hmem =>
      ⟨Instant.reads_toJson (hexpiresAt deadline hmem), nofun⟩
  · exact Fields.reads_withDefault hsorted (by simp) onTimeout.reads_label

end SuspendedRun

/-- The text of a run is as deep as texts may nest, and its numbers are read as
they were written. -/
structure SuspendedRun.Readable (suspended : SuspendedRun) : Prop where
  legible : suspended.toJson.Legible
  depth_le : (Document.ofJson suspended.toJson).depth ≤ Json.maxDepth

/-- The steps are the only number in the text of many a run. -/
theorem SuspendedRun.legible_of_numbers {suspended : SuspendedRun}
    (hnumbers : suspended.toJson.numbers = [.int suspended.context.steps])
    (hsteps : suspended.context.steps < Width.span 64) :
    suspended.toJson.Legible := by
  have hread : (Number.int suspended.context.steps).ReadsBack :=
    Number.readsBack_int (by omega) (by omega)
  rw [Json.Legible, hnumbers]
  simpa using hread

theorem StoredRow.read_ofRun {suspended : SuspendedRun}
    (hstorable : suspended.Storable)
    (hsteps : suspended.context.steps < Width.span 64)
    (hreadable : suspended.Readable) :
    (StoredRow.ofRun suspended).read = .ok suspended.restored := by
  have hread : Wire.ofText SuspendedRun.decoder suspended.toJson.render =
      .ok suspended.restored :=
    (SuspendedRun.reads_toJson hstorable hsteps).ofText hreadable.legible
      hreadable.depth_le
  simp [read, ofRun, hread]

end Workflow
