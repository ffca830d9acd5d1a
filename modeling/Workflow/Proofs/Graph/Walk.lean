import Mathlib.Data.List.Basic
import Workflow.Graph.Validity

/-!
# Walks through a graph

A walk is a list of edges, each of which starts where the one before it ends.
Reachability is the existence of a walk, and a cycle is a walk of some length
that comes back to where it started, so parallel edges and edges from a node
to itself are covered.

The main statement is that `Graph.gather` finds exactly the ids that a walk
leads to.
-/

namespace Workflow.Graph

/-- The edges of `graph` in a list that lead from one node to another, one
after the other. -/
inductive Walk (graph : Graph) : String → List Edge → String → Prop
  | nil (id : String) : Walk graph id [] id
  | cons {edge : Edge} {rest : List Edge} {last : String}
      (hedge : edge ∈ graph.edges)
      (hrest : Walk graph edge.target rest last) :
      Walk graph edge.source (edge :: rest) last

variable {graph : Graph}

theorem walk_nil_iff {first last : String} :
    Walk graph first [] last ↔ first = last := by
  constructor
  · intro hwalk
    cases hwalk
    rfl
  · rintro rfl
    exact .nil first

theorem walk_cons_iff {first last : String} {edge : Edge} {rest : List Edge} :
    Walk graph first (edge :: rest) last ↔
      edge.source = first ∧ edge ∈ graph.edges ∧
        Walk graph edge.target rest last := by
  constructor
  · intro hwalk
    cases hwalk with
    | cons hedge hrest => exact ⟨rfl, hedge, hrest⟩
  · rintro ⟨rfl, hedge, hrest⟩
    exact .cons hedge hrest

namespace Walk

variable {first middle last : String}

theorem append {walk rest : List Edge} (hwalk : Walk graph first walk middle)
    (hrest : Walk graph middle rest last) :
    Walk graph first (walk ++ rest) last := by
  induction hwalk with
  | nil id => exact hrest
  | cons hedge _ ih => exact .cons hedge (ih hrest)

/-- A walk goes on by an edge out of the node that it has come to. -/
theorem snoc {walk : List Edge} {edge : Edge}
    (hwalk : Walk graph first walk edge.source) (hedge : edge ∈ graph.edges) :
    Walk graph first (walk ++ [edge]) edge.target :=
  hwalk.append (.cons hedge (.nil edge.target))

/-- A graph whose edges all lead upwards has no way back. -/
theorem rank_lt (rank : String → Nat)
    (hrank : ∀ edge ∈ graph.edges, rank edge.source < rank edge.target)
    {walk : List Edge} (hwalk : Walk graph first walk last)
    (hne : walk ≠ []) :
    rank first < rank last := by
  induction hwalk with
  | nil => exact absurd rfl hne
  | @cons edge rest last hedge hrest ih =>
      by_cases hlast : rest = []
      · subst hlast
        rw [← walk_nil_iff.mp hrest]
        exact hrank edge hedge
      · exact Nat.lt_trans (hrank edge hedge) (ih hlast)

/-- Each edge of a walk leads to where the walk ends or to where another of
its edges starts. -/
theorem target_eq {walk : List Edge} (hwalk : Walk graph first walk last) :
    ∀ edge ∈ walk, edge.target = last ∨ ∃ next ∈ walk,
      edge.target = next.source := by
  induction hwalk with
  | nil id => simp
  | @cons edge rest last _ hrest ih =>
      intro other hother
      rcases List.mem_cons.mp hother with rfl | hin
      · cases rest with
        | nil => exact .inl (walk_nil_iff.mp hrest)
        | cons next rest =>
            exact .inr ⟨next, by simp, (walk_cons_iff.mp hrest).1.symm⟩
      · rcases ih other hin with hlast | ⟨next, hnext, heq⟩
        · exact .inl hlast
        · exact .inr ⟨next, List.mem_cons_of_mem _ hnext, heq⟩

/-- A walk does not leave a set of ids that no edge leaves. -/
theorem mem_of_closed {walk : List Edge} {ids : List String}
    (hwalk : Walk graph first walk last)
    (hclosed : ∀ edge ∈ graph.edges, edge.source ∈ ids → edge.target ∈ ids)
    (hfirst : first ∈ ids) :
    last ∈ ids := by
  induction hwalk with
  | nil id => exact hfirst
  | cons hedge _ ih => exact ih (hclosed _ hedge hfirst)

end Walk

/-! ## The ids that a walk leads to -/

theorem mem_successors_iff {id child : String} :
    child ∈ graph.successors id ↔
      ∃ edge ∈ graph.edges, edge.source = id ∧ edge.target = child := by
  simp only [successors, outgoing, List.mem_map, List.mem_filter,
    decide_eq_true_eq]
  constructor
  · rintro ⟨edge, ⟨hedge, hsource⟩, htarget⟩
    exact ⟨edge, hedge, hsource, htarget⟩
  · rintro ⟨edge, hedge, hsource, htarget⟩
    exact ⟨edge, ⟨hedge, hsource⟩, htarget⟩

theorem exists_walk_of_mem_gather {remaining pending : List String}
    {id : String} (hid : id ∈ graph.gather remaining pending) :
    ∃ first ∈ pending, ∃ walk, Walk graph first walk id := by
  fun_induction gather graph remaining pending with
  | case1 remaining pending hnone => simp at hid
  | case2 remaining pending found hfound ih =>
      have hpending : found ∈ pending := List.mem_of_find?_eq_some hfound
      rcases List.mem_cons.mp hid with rfl | hrest
      · exact ⟨id, hpending, [], .nil id⟩
      obtain ⟨first, hfirst, walk, hwalk⟩ := ih hrest
      rcases List.mem_append.mp hfirst with hchild | hold
      · obtain ⟨edge, hedge, rfl, rfl⟩ := mem_successors_iff.mp hchild
        exact ⟨edge.source, hpending, edge :: walk, .cons hedge hwalk⟩
      · exact ⟨first, hold, walk, hwalk⟩

theorem mem_gather_of_mem_pending {remaining pending : List String}
    {id : String} (hpending : id ∈ pending) (hremaining : id ∈ remaining) :
    id ∈ graph.gather remaining pending := by
  fun_induction gather graph remaining pending with
  | case1 remaining pending hnone =>
      have habsent := List.find?_eq_none.mp hnone id hpending
      simp [hremaining] at habsent
  | case2 remaining pending found hfound ih =>
      by_cases heq : id = found
      · exact List.mem_cons.mpr (.inl heq)
      · exact List.mem_cons_of_mem found
          (ih (List.mem_append_right _ hpending)
            ((List.mem_erase_of_ne heq).mpr hremaining))

/-- What is gathered is closed under edges, as far as they stay among the ids
that remain. -/
theorem mem_gather_of_mem_successors {remaining pending : List String}
    {id child : String} (hid : id ∈ graph.gather remaining pending)
    (hchild : child ∈ graph.successors id) (hremaining : child ∈ remaining) :
    child ∈ graph.gather remaining pending := by
  fun_induction gather graph remaining pending with
  | case1 remaining pending hnone => simp at hid
  | case2 remaining pending found hfound ih =>
      by_cases heq : child = found
      · exact List.mem_cons.mpr (.inl heq)
      have hleft : child ∈ remaining.erase found :=
        (List.mem_erase_of_ne heq).mpr hremaining
      apply List.mem_cons_of_mem
      rcases List.mem_cons.mp hid with rfl | hrest
      · exact mem_gather_of_mem_pending (List.mem_append_left _ hchild) hleft
      · exact ih hrest hleft

/-- Where edges lead to nodes only, the search finds exactly the ids that a
walk leads to. -/
theorem mem_reachableFrom_iff {first id : String}
    (htargets : ∀ edge ∈ graph.edges, edge.target ∈ graph.nodes.map (·.id))
    (hfirst : first ∈ graph.nodes.map (·.id)) :
    id ∈ graph.reachableFrom first ↔ ∃ walk, Walk graph first walk id := by
  constructor
  · intro hid
    obtain ⟨root, hroot, walk, hwalk⟩ := exists_walk_of_mem_gather hid
    obtain rfl : root = first := List.mem_singleton.mp hroot
    exact ⟨walk, hwalk⟩
  · rintro ⟨walk, hwalk⟩
    apply hwalk.mem_of_closed
    · intro edge hedge hsource
      have hchild : edge.target ∈ graph.successors edge.source :=
        mem_successors_iff.mpr ⟨edge, hedge, rfl, rfl⟩
      exact mem_gather_of_mem_successors hsource hchild (htargets edge hedge)
    · exact mem_gather_of_mem_pending (List.mem_singleton_self first) hfirst

end Workflow.Graph
