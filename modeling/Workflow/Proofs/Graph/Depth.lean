import Mathlib.Data.Finset.Card
import Workflow.Proofs.Graph.WellFormed

/-!
# Depths

A loop enters its body only so often before it is left; the other edges, which
lead onwards, are taken as often as a run comes to them.  A graph in which
every cycle enters the body of a loop has no cycle of onward edges, and each
onward edge of it leads to a greater `depth`.

That every cycle touches a while node, which is asked of every graph, is less:
a cycle may leave all of its loops.
-/

namespace Workflow.Graph

variable {graph : Graph}

/-! ## Onward edges -/

/-- Whether a loop enters its body by an edge. -/
def entersBody (graph : Graph) (edge : Edge) : Bool :=
  graph.loops edge.source && edge.branch? = some .body

/-- What is left of a graph without the edges into the bodies of loops. -/
def onward (graph : Graph) : Graph :=
  { graph with edges := graph.edges.filter fun edge => !graph.entersBody edge }

theorem mem_onward_iff {edge : Edge} :
    edge ∈ graph.onward.edges ↔
      edge ∈ graph.edges ∧ graph.entersBody edge = false := by
  simp [onward]

theorem walk_onward_iff {first last : String} {walk : List Edge} :
    Walk graph.onward first walk last ↔
      Walk graph first walk last ∧
        ∀ edge ∈ walk, graph.entersBody edge = false := by
  induction walk generalizing first with
  | nil => simp [walk_nil_iff]
  | cons edge rest ih =>
      simp only [walk_cons_iff, mem_onward_iff, ih, List.forall_mem_cons]
      tauto

/-- Every cycle enters the body of a loop. -/
def CyclesEnterBodies (graph : Graph) : Prop :=
  ∀ id walk, Walk graph id walk id → walk ≠ [] →
    ∃ edge ∈ walk, graph.entersBody edge = true

/-- Every cycle enters the body of a loop if there is none of onward edges. -/
theorem cyclesEnterBodies_iff :
    graph.CyclesEnterBodies ↔
      ∀ id walk, Walk graph.onward id walk id → walk = [] := by
  constructor
  · intro hcycles id walk hwalk
    obtain ⟨hall, honward⟩ := walk_onward_iff.mp hwalk
    by_contra hne
    obtain ⟨edge, hedge, henters⟩ := hcycles id walk hall hne
    simp [honward edge hedge] at henters
  · intro hnone id walk hwalk hne
    by_contra hall
    refine hne (hnone id walk (walk_onward_iff.mpr ⟨hwalk, ?_⟩))
    intro edge hedge
    by_contra henters
    exact hall ⟨edge, hedge, by simpa using henters⟩

theorem cyclesEnterBodies_of_rank (rank : String → ℕ)
    (hrank : ∀ edge ∈ graph.onward.edges, rank edge.source < rank edge.target) :
    graph.CyclesEnterBodies := by
  refine cyclesEnterBodies_iff.mpr fun id walk hwalk => ?_
  by_contra hne
  exact lt_irrefl _ (hwalk.rank_lt rank hrank hne)

theorem WellFormed.loops_eq_false {refusal? : Json → Option String}
    {node : Node} (hgraph : WellFormed refusal? graph)
    (hnode : node ∈ graph.nodes) (hkind : node.kind.isLoop = false) :
    graph.loops node.id = false := by
  rw [← Bool.not_eq_true, loops_eq_true_iff]
  rintro ⟨other, hother, hloop, hid⟩
  have hsame := List.inj_on_of_nodup_map hgraph.idsDistinct hother hnode hid
  simp [← hsame, hloop] at hkind

/-! ## Depth -/

/-- The ids of nodes from which onward edges lead to an id. -/
noncomputable def above (graph : Graph) (id : String) : Finset String := by
  classical
  exact (graph.nodes.map (·.id)).toFinset.filter fun other =>
    ∃ walk, walk ≠ [] ∧ Walk graph.onward other walk id

theorem mem_above_iff {id other : String} :
    other ∈ graph.above id ↔ other ∈ graph.nodes.map (·.id) ∧
      ∃ walk, walk ≠ [] ∧ Walk graph.onward other walk id := by
  simp [above]

/-- How many nodes a run may have come through, by onward edges, before an
id. -/
noncomputable def depth (graph : Graph) (id : String) : ℕ :=
  (graph.above id).card

theorem depth_le (id : String) : graph.depth id ≤ graph.nodes.length := by
  classical
  calc
    graph.depth id ≤ (graph.nodes.map (·.id)).toFinset.card :=
      Finset.card_le_card fun _ hid =>
        List.mem_toFinset.mpr (mem_above_iff.mp hid).1
    _ ≤ (graph.nodes.map (·.id)).length := List.toFinset_card_le _
    _ = graph.nodes.length := List.length_map _

theorem CyclesEnterBodies.depth_lt (hcycles : graph.CyclesEnterBodies)
    {edge : Edge} (hedge : edge ∈ graph.onward.edges)
    (hsource : edge.source ∈ graph.nodes.map (·.id)) :
    graph.depth edge.source < graph.depth edge.target := by
  refine Finset.card_lt_card (Finset.ssubset_iff_exists_cons_subset.mpr ?_)
  have hnone := cyclesEnterBodies_iff.mp hcycles
  have habsent : edge.source ∉ graph.above edge.source := by
    intro hmem
    obtain ⟨-, walk, hne, hwalk⟩ := mem_above_iff.mp hmem
    exact hne (hnone _ walk hwalk)
  refine ⟨edge.source, habsent, ?_⟩
  intro other hother
  rcases Finset.mem_cons.mp hother with rfl | hmem
  · exact mem_above_iff.mpr
      ⟨hsource, [edge], by simp, .cons hedge (.nil edge.target)⟩
  · obtain ⟨hnode, walk, -, hwalk⟩ := mem_above_iff.mp hmem
    exact mem_above_iff.mpr
      ⟨hnode, walk ++ [edge], by simp, hwalk.snoc hedge⟩

end Workflow.Graph
