import Workflow.Proofs.Graph.Document
import Workflow.Proofs.Wire.Agrees

/-!
# Graphs through their documents

There are two readers of graph documents: one reads the forms of all nodes and
then their settings, the other one reads node by node, as part of a run that
was put aside.  Both accept the same documents and read the same graphs
(`Graph.ofJson_eq_ok_iff`).  A graph that was loaded comes back from the
document that is written for it (`Graph.survives`), and there every name is
the first one of its kind, whatever the document said that it was loaded from
(`NodeForm.Becomes`).
-/

namespace Workflow

open Wire (Decoder Fields exists_of_map)

/-! ## Two readers -/

theorem NodeForm.agrees_node :
    NodeForm.decoder.Agrees Node.decoder fun form node =>
      form.toNode? = .ok node := by
  intro place document node
  unfold Node.decoder
  cases NodeForm.decoder place document with
  | error fault => simp
  | ok form =>
      simp only [Except.ok.injEq, exists_eq_left']
      cases form.toNode? <;> simp [Except.mapError]

theorem NodeForm.toNodes?_eq_ok_iff {forms : List NodeForm} {nodes : List Node} :
    toNodes? forms = .ok nodes ↔
      List.Forall₂ (fun form node => form.toNode? = .ok node) forms nodes := by
  induction forms generalizing nodes with
  | nil => simp [toNodes?, eq_comm]
  | cons form forms ih =>
      rw [List.forall₂_cons_left_iff, toNodes?]
      cases form.toNode? with
      | error defect => simp
      | ok node =>
          constructor
          · intro hnodes
            obtain ⟨others, hothers, rfl⟩ := exists_of_map hnodes
            exact ⟨node, others, rfl, ih.mp hothers, rfl⟩
          · rintro ⟨_, others, hnode, hothers, rfl⟩
            obtain rfl := Except.ok.inj hnode
            simp [ih.mpr hothers, Except.map]

theorem GraphForm.agrees_graph :
    GraphForm.decoder.Agrees Graph.decoder fun form graph =>
      form.toGraph? = .ok graph := by
  refine Decoder.agrees_record (Fields.Agrees.both
    (Fields.agrees_required NodeForm.agrees_node.list)
    (Fields.agrees_self _) fun forms edges graph => ?_)
  simp only [toGraph?, ← NodeForm.toNodes?_eq_ok_iff]
  constructor
  · intro hgraph
    obtain ⟨nodes, hnodes, rfl⟩ := exists_of_map hgraph
    exact ⟨nodes, edges, hnodes, rfl, rfl⟩
  · rintro ⟨nodes, _, hnodes, rfl, rfl⟩
    simp [hnodes, Except.map]

/-- Both readers accept the same documents and read the same graphs. -/
theorem Graph.ofJson_eq_ok_iff {value : Json} {graph : Graph} :
    ofJson value = .ok graph ↔ Wire.ofValue decoder value = .ok graph := by
  rw [Wire.ofValue, GraphForm.agrees_graph, ofJson, Wire.ofValue]
  cases GraphForm.decoder ⟨.value, 0⟩ (Document.ofJson value) <;> simp

/-! ## Names -/

/-- The condition of a loop stands under one of its names. -/
theorem WhileConfig.condition_of_ofValue {before : Assoc Json}
    {config : WhileConfig}
    (hread : Wire.ofValue decoder (.record before) = .ok config) :
    (Assoc.get? before "whileCondition").or (Assoc.get? before "condition") =
      some (.text config.condition) := by
  unfold Wire.ofValue decoder at hread
  obtain ⟨members, closed, inside, hrecord, -, hfields, -⟩ | ⟨_, _, hlist, -⟩ :=
    Wire.Decoder.record_eq_ok_iff.mp hread
  · obtain ⟨rfl, rfl⟩ := Document.record.inj hrecord
    obtain ⟨_, iterations, hmade, -, rfl⟩ := Wire.Reading.both_eq_ok hfields
    obtain ⟨_, condition, hmk, hcondition, rfl⟩ := Wire.Reading.both_eq_ok hmade
    obtain rfl := Wire.Reading.ok.inj hmk
    obtain ⟨name, value, hfilter, hvalue⟩ := Fields.exists_of_oneOf hcondition
    obtain rfl := Decoder.eq_text_of_string hvalue
    have hname : name ∈ ["whileCondition", "condition"] := by
      have hmem := List.mem_singleton_self (name, Json.text condition)
      rw [← hfilter] at hmem
      simpa using (List.mem_filter.mp hmem).2
    rw [Assoc.get?_of_filter hfilter (by simp), Assoc.get?_of_filter hfilter (by simp)]
    rcases List.mem_pair.mp hname with rfl | rfl <;> simp
  · exact nomatch hlist

theorem NodeKind.exists_settings (kind : NodeKind) :
    ∃ members, kind.settings = .record members := by
  cases kind <;> exact ⟨_, rfl⟩

namespace NodeForm

/-- The kind of a node is what its form says; one kind has two names. -/
theorem Describes.label_eq {form : NodeForm} {kind : NodeKind}
    (hdescribes : form.Describes kind) :
    kind.label = if form.kind = "mcp" then "tool" else form.kind := by
  cases hdescribes with
  | tool hname _ => rcases hname with hname | hname <;> simp [hname, NodeKind.label]
  | _ hname => simp [hname, NodeKind.label]

theorem Describes.exists_loop {form : NodeForm} {kind : NodeKind}
    (hdescribes : form.Describes kind) (hname : form.kind = "while") :
    ∃ config, kind = .loop config ∧
      Wire.ofValue WhileConfig.decoder form.settings = .ok config := by
  cases hdescribes with
  | @loop config _ hread =>
      refine ⟨config, rfl, ?_⟩
      unfold read at hread
      cases hvalue : Wire.ofValue WhileConfig.decoder form.settings <;>
        simp_all [Except.mapError]
  | _ => simp_all

/-- What becomes of the form of a node once the node has been read and written:
it goes by the first name of its kind, its settings are an object, and the
condition of a loop stands under its first name. -/
structure Becomes (form written : NodeForm) : Prop where
  id_eq : written.id = form.id
  name_eq : written.name = form.name
  kind_eq : written.kind = if form.kind = "mcp" then "tool" else form.kind
  settings : ∃ members, written.config = .record members ∧
    (written.kind = "while" → Assoc.get? members "condition" = none) ∧
    ∀ before, form.kind = "while" → form.config = .record before →
      Assoc.get? members "whileCondition" =
        (Assoc.get? before "whileCondition").or (Assoc.get? before "condition")

theorem becomes_ofNode {form : NodeForm} {node : Node}
    (hnode : form.toNode? = .ok node) : form.Becomes (ofNode node) := by
  obtain ⟨kind, hkind, rfl⟩ := exists_of_map hnode
  have hdescribes := describes_of_kind? hkind
  refine ⟨rfl, rfl, hdescribes.label_eq, ?_⟩
  by_cases hname : form.kind = "while"
  · obtain ⟨config, rfl, hread⟩ := hdescribes.exists_loop hname
    refine ⟨_, rfl, fun _ => by simp, fun before _ hbefore => ?_⟩
    rw [settings, hbefore] at hread
    rw [WhileConfig.condition_of_ofValue hread]
    simp
  · have hlabel : kind.label ≠ "while" := by
      rw [hdescribes.label_eq]
      split <;> simp [hname]
    obtain ⟨members, hmembers⟩ := kind.exists_settings
    exact ⟨members, hmembers, fun hwritten => absurd hwritten hlabel,
      fun _ hloop => absurd hloop hname⟩

end NodeForm

/-! ## Graphs -/

/-- A graph that was loaded from a document comes through being written. -/
structure Graph.Survives (value : Json) (graph : Graph) : Prop where
  loads : ofJson graph.toJson = .ok graph
  /-- It comes back as part of another document, which may be a value or a text. -/
  reads : decoder.Reads graph.toJson graph
  /-- Whatever is read off its document is written as that document again. -/
  rewrites : ∀ again, ofJson graph.toJson = .ok again ∨
    Wire.ofValue decoder graph.toJson = .ok again → again.toJson = graph.toJson
  /-- All names in its document are first names. -/
  becomes : ∃ form,
    Wire.ofValue GraphForm.decoder value = .ok form ∧
    Wire.ofValue GraphForm.decoder graph.toJson = .ok (.ofGraph graph) ∧
    List.Forall₂ NodeForm.Becomes form.nodes (GraphForm.ofGraph graph).nodes ∧
    (GraphForm.ofGraph graph).edges = form.edges

namespace Graph

theorem forall_becomes {form : GraphForm} {graph : Graph}
    (hgraph : form.toGraph? = .ok graph) :
    List.Forall₂ NodeForm.Becomes form.nodes (GraphForm.ofGraph graph).nodes ∧
      (GraphForm.ofGraph graph).edges = form.edges := by
  obtain ⟨nodes, hnodes, rfl⟩ := exists_of_map hgraph
  refine ⟨?_, rfl⟩
  rw [GraphForm.ofGraph, List.forall₂_map_right_iff]
  exact (NodeForm.toNodes?_eq_ok_iff.mp hnodes).imp
    fun _ _ hnode => NodeForm.becomes_ofNode hnode

/-- Both readers of graphs accept the same documents and read the same graphs,
and every graph that they read survives being written. -/
theorem survives_encoding (value : Json) (graph : Graph) :
    (ofJson value = .ok graph ↔ Wire.ofValue decoder value = .ok graph) ∧
      (ofJson value = .ok graph → graph.Survives value) := by
  refine ⟨ofJson_eq_ok_iff, fun hload => ?_⟩
  have hstorable := storable_of_ofJson hload
  have hloads := ofJson_toJson hstorable
  refine ⟨hloads, reads_toJson hstorable, fun again hagain => ?_, ?_⟩
  · rw [← ofJson_eq_ok_iff, or_self, hloads] at hagain
    rw [Except.ok.inj hagain]
  · unfold ofJson at hload
    split at hload
    · contradiction
    · next form hform =>
        exact ⟨form, hform, (GraphForm.reads_ofGraph hstorable).ofValue,
          forall_becomes hload⟩

end Graph

/-! ## A document with second names -/

namespace Nicknames

/-- A loop whose condition and a tool whose kind go by their second names, and
nodes without settings. -/
def document : Json :=
  Json.ofMembers [
    ("nodes", .list [
      Json.ofMembers [("id", .text "begin"), ("kind", .text "start"),
        ("config", .null)],
      Json.ofMembers [("id", .text "again"), ("kind", .text "while"),
        ("config", Json.ofMembers [("condition", .text "true"),
          ("maxIterations", Json.nat 2)])],
      Json.ofMembers [("id", .text "look"), ("kind", .text "mcp"),
        ("config", Json.ofMembers [("server", .text "search"),
          ("tool", .text "query")])],
      Json.ofMembers [("id", .text "done"), ("kind", .text "end")]]),
    ("edges", .list [])]

def graph : Graph :=
  ⟨[⟨"begin", none, .start []⟩, ⟨"again", none, .loop ⟨"true", 2⟩⟩,
    ⟨"look", none, .tool ⟨"search", "query", .null⟩⟩,
    ⟨"done", none, .finish⟩], []⟩

theorem survives_encoding_nicknames :
    Graph.ofJson document = .ok graph ∧ graph.Survives document := by
  have hload : Graph.ofJson document = .ok graph := by decide +kernel
  exact ⟨hload, (Graph.survives_encoding document graph).2 hload⟩

end Nicknames

end Workflow
