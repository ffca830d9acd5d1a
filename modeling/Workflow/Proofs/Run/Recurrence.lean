import Mathlib.Data.List.Chain
import Mathlib.Data.List.Perm.Subperm
import Workflow.Proofs.Run.Loop
import Workflow.Proofs.Run.Stored

/-!
# Nodes that come back

Each node that a run starts is led to by an edge from the node started before
it, whether the run was put aside in between or not.  So a node that is started
again closes a walk, and in a well-formed graph a closed walk passes through a
while node.  A stretch of starts without while nodes therefore has no
repetition, which bounds its length by the size of the graph.

The starts of all legs are counted, also those of a run that has ended, so
`Graph.Route` takes the place of the walk that `Tells` relates to the trace.
-/

namespace Workflow

namespace Graph

variable {graph : Graph}

/-! ## Routes -/

/-- Node ids of which each is led to by an edge from the one before it. -/
structure Route (graph : Graph) (places : List String) : Prop where
  mem : ∀ id ∈ places, id ∈ graph.nodes.map (·.id)
  leads : places.IsChain fun id next => next ∈ graph.successors id

namespace Route

variable {places rest : List String} {id next : String}

theorem nil : graph.Route [] :=
  ⟨by simp, .nil⟩

theorem left_of_append (hroute : graph.Route (places ++ rest)) :
    graph.Route places where
  mem := fun id hid => hroute.mem id (List.mem_append_left rest hid)
  leads := hroute.leads.left_of_append

/-- A route goes on by an edge out of its last place. -/
theorem snoc (hroute : graph.Route places)
    (hlast : places.getLast? = some id) (hnext : next ∈ graph.successors id)
    (hmem : next ∈ graph.nodes.map (·.id)) :
    graph.Route (places ++ [next]) where
  mem := by
    intro other hother
    rcases List.mem_append.mp hother with hold | hnew
    · exact hroute.mem other hold
    · rwa [List.mem_singleton.mp hnew]
  leads := by
    apply hroute.leads.append (.singleton next)
    intro last hlast' first hfirst
    obtain rfl : id = last := by simpa [hlast] using hlast'
    obtain rfl : next = first := by simpa using hfirst
    exact hnext

/-- Between two places of a route there is a walk, whose edges start at the
places on the way. -/
theorem exists_walk (hroute : graph.Route places) {i j : ℕ} (hij : i ≤ j)
    (hid : places[i]? = some id) (hnext : places[j]? = some next) :
    ∃ walk, Walk graph id walk next ∧
      walk.map (·.source) = (places.drop i).take (j - i) := by
  induction j, hij using Nat.le_induction generalizing next with
  | base =>
      obtain rfl : id = next := Option.some.inj (hid.symm.trans hnext)
      exact ⟨[], .nil id, by simp⟩
  | succ j hij ih =>
      obtain ⟨hbound, rfl⟩ := List.getElem?_eq_some_iff.mp hnext
      have hlast : places[j]? = some places[j] := List.getElem?_eq_getElem _
      obtain ⟨walk, hwalk, hsources⟩ := ih hlast
      have hleads := List.isChain_iff_getElem.mp hroute.leads j hbound
      obtain ⟨edge, hedge, hsource, htarget⟩ := mem_successors_iff.mp hleads
      rw [← hsource] at hwalk
      have hsnoc := hwalk.snoc hedge
      rw [htarget] at hsnoc
      refine ⟨walk ++ [edge], hsnoc, ?_⟩
      have hstep : j + 1 - i = j - i + 1 := by omega
      have hfound : (places.drop i)[j - i]? = some places[j] := by
        rw [List.getElem?_drop, Nat.add_sub_cancel' hij, hlast]
      rw [hstep, List.take_add_one, hfound, List.map_append, hsources]
      simp [hsource]

end Route

/-- A route that comes back to a place has been at a while node. -/
theorem WellFormed.loops_of_recurs {refusal? : Json → Option String}
    {places : List String} {id : String} {i j : ℕ}
    (hgraph : graph.WellFormed refusal?) (hroute : graph.Route places)
    (hij : i < j) (hfirst : places[i]? = some id)
    (hagain : places[j]? = some id) :
    ∃ k loop, i ≤ k ∧ k < j ∧ places[k]? = some loop ∧
      graph.loops loop = true := by
  obtain ⟨walk, hwalk, hsources⟩ := hroute.exists_walk hij.le hfirst hagain
  have hbound : j < places.length := (List.getElem?_eq_some_iff.mp hagain).1
  have hne : walk ≠ [] := by
    rintro rfl
    have hlength := congrArg List.length hsources
    simp only [List.map_nil, List.length_nil, List.length_take,
      List.length_drop] at hlength
    omega
  obtain ⟨node, hnode, hkind, edge, hedge, hsource⟩ :=
    hgraph.cycles id walk hwalk hne
  have hloop : edge.source ∈ (places.drop i).take (j - i) := by
    rw [← hsources]
    exact List.mem_map_of_mem hedge
  obtain ⟨k, hk, heq⟩ := List.mem_iff_getElem.mp hloop
  simp only [List.length_take, List.length_drop] at hk
  have hfound : places[i + k]? = some edge.source := by
    rw [← heq, List.getElem_take, List.getElem_drop]
    exact List.getElem?_eq_getElem _
  refine ⟨i + k, edge.source, by omega, by omega, hfound, ?_⟩
  exact List.any_eq_true.mpr ⟨node, hnode, by simp [hsource, hkind]⟩

/-- A stretch of a route without a while node has no repetition, and so is no
longer than there are other nodes. -/
theorem WellFormed.nodup_of_plain {refusal? : Json → Option String}
    {places stretch : List String} (hgraph : graph.WellFormed refusal?)
    (hroute : graph.Route places) (hpart : stretch <:+: places)
    (hplain : ∀ id ∈ stretch, graph.loops id = false) :
    stretch.Nodup ∧
      stretch.length ≤ (graph.nodes.filter (!·.kind.isLoop)).length := by
  obtain ⟨before, after, rfl⟩ := hpart
  have hat : ∀ {k : ℕ}, k < stretch.length →
      (before ++ stretch ++ after)[before.length + k]? = stretch[k]? := by
    intro k hk
    rw [List.append_assoc, List.getElem?_append_right (by omega),
      Nat.add_sub_cancel_left, List.getElem?_append_left hk]
  have hnodup : stretch.Nodup := by
    rw [List.nodup_iff_getElem?_ne_getElem?]
    intro i j hij hj hsame
    have hfirst : stretch[i]? = some stretch[j] := by
      rw [hsame, List.getElem?_eq_getElem hj]
    obtain ⟨k, loop, hik, hkj, hloop, hkind⟩ :=
      hgraph.loops_of_recurs hroute (Nat.add_lt_add_left hij before.length)
        ((hat (hij.trans hj)).trans hfirst)
        ((hat hj).trans (List.getElem?_eq_getElem hj))
    obtain ⟨k, rfl⟩ := Nat.exists_eq_add_of_le ((Nat.le_add_right _ i).trans hik)
    rw [hat (by omega)] at hloop
    simp [hplain loop (List.mem_of_getElem? hloop)] at hkind
  refine ⟨hnodup, ?_⟩
  have hsubset : stretch ⊆
      (graph.nodes.filter (!·.kind.isLoop)).map (·.id) := by
    intro id hid
    have hmem : id ∈ graph.nodes.map (·.id) := hroute.mem id (by simp [hid])
    obtain ⟨node, hnode, rfl⟩ := List.mem_map.mp hmem
    have hkind : node.kind.isLoop = false := by
      have hother := List.any_eq_false.mp (hplain _ hid) node hnode
      simpa using hother
    exact List.mem_map_of_mem (List.mem_filter.mpr ⟨hnode, by simp [hkind]⟩)
  simpa using (hnodup.subperm hsubset).length_le

end Graph

namespace Leg

variable {plan : Plan} {refusal? : Json → Option String}

/-! ## Stages -/

/-- What has been started is a route; its last place is where the run stands,
or leads to where it goes next. -/
def Routed (graph : Graph) (events : List Event) : Leg → Prop
  | .between _ next => graph.Route (placesOf .started events ++ [next])
  | .entered _ node | .working _ node _ =>
    graph.Route (placesOf .started events) ∧
      (placesOf .started events).getLast? = some node.id
  | .parking suspended | .parked suspended | .ended (.suspended suspended) =>
    graph.Route (placesOf .started events) ∧
      (placesOf .started events).getLast? = some suspended.cursor
  | .ended (.completed _) | .ended (.failed _ _) =>
    graph.Route (placesOf .started events)

/-- Wherever a run stands, what has been started is a route. -/
theorem Routed.route {graph : Graph} {leg : Leg} {events : List Event}
    (hrouted : leg.Routed graph events) :
    graph.Route (placesOf .started events) := by
  cases leg with
  | between _ _ => exact hrouted.left_of_append
  | entered _ _ | working _ _ _ | parking _ | parked _ => exact hrouted.1
  | ended outcome =>
      cases outcome with
      | completed _ | failed _ _ => exact hrouted
      | suspended _ => exact hrouted.1

theorem Visits.routed {graph : Graph} {leg : Leg} {context : Context}
    {node : Node} {events : List Event} (hvisits : Visits leg context node)
    (hrouted : leg.Routed graph events) :
    (placesOf .started events).getLast? = some node.id := by
  cases hvisits with
  | entered => exact hrouted.2
  | working => exact hrouted.2

/-- Events of other kinds than starts leave the route as it is. -/
theorem placesOf_started_append {before : List Event} {event : Event}
    (hkind : event.kind ≠ .started) :
    placesOf .started (before ++ [event]) = placesOf .started before := by
  simp [placesOf, hkind]

theorem placesOf_started_concat {before : List Event} {node : Node} :
    placesOf .started (before ++ [startedEvent node]) =
      placesOf .started before ++ [node.id] := by
  simp [placesOf, startedEvent]

/-- A node is left for one that an edge leads to. -/
theorem route_of_exit {graph : Graph} {id : String} {branch : Option Branch}
    {edge : Edge} {places : List String} (hgraph : graph.WellFormed refusal?)
    (hexit : graph.Exit id branch edge) (hroute : graph.Route places)
    (hlast : places.getLast? = some id) :
    graph.Route (places ++ [edge.target]) := by
  have hnext : edge.target ∈ graph.successors id :=
    Graph.mem_successors_iff.mpr ⟨edge, hexit.mem, hexit.source, rfl⟩
  exact hroute.snoc hlast hnext (hgraph.targets edge hexit.mem)

/-- A step goes on along the route. -/
theorem Goes.routed {leg next : Leg} {move : leg.Move}
    {before events : List Event} (hgraph : plan.graph.WellFormed refusal?)
    (hgoes : Goes plan leg move next events)
    (hrouted : leg.Routed plan.graph before) :
    next.Routed plan.graph (before ++ events) := by
  have hroute := hrouted.route
  cases hgoes with
  | fails _ => simpa [Routed, placesOf] using hroute
  | enters _ _ =>
      rw [Routed, placesOf_started_concat]
      exact ⟨hrouted, List.getLast?_concat⟩
  | works _ => simpa [Routed] using hrouted
  | leaves hvisits _ hexit =>
      have hlast := hvisits.routed hrouted
      rw [Routed, placesOf_started_append (by simp)]
      exact route_of_exit hgraph hexit hroute hlast
  | completes _ => simpa [Routed, placesOf] using hroute
  | parks _ => simpa [Routed, suspend] using hrouted
  | keeps => simpa [Routed] using hrouted
  | suspends => simpa [Routed, placesOf] using hrouted

/-- An approval goes on from the node at which the run was put aside. -/
theorem Resumes.routed {graph : Graph} {suspended : SuspendedRun}
    {signal : ResumeSignal} {leg : Leg} {before events : List Event}
    (hgraph : graph.WellFormed refusal?) (hsame : suspended.graph = graph)
    (hresumes : Resumes suspended signal leg events)
    (hrouted : (Leg.ended (.suspended suspended)).Routed graph before) :
    leg.Routed graph (before ++ events) := by
  obtain ⟨hroute, hlast⟩ := hrouted
  cases hresumes with
  | rejected _ =>
      rw [Routed, List.append_cons before, placesOf_started_append (by simp),
        placesOf_started_append (by simp)]
      exact hroute
  | approved _ hexit =>
      rw [hsame] at hexit
      rw [Routed, List.append_cons before, placesOf_started_append (by simp),
        placesOf_started_append (by simp)]
      exact route_of_exit hgraph hexit hroute hlast

end Leg

namespace History

variable {drops : Prop} {around : Surroundings} {run : RunId} {graph : Graph}
variable {inputs : Assoc Json} {history : History}

theorem Stored.routed
    (hstored : Stored drops around run graph inputs history) :
    history.leg.Routed graph history.events := by
  have hgraph := hstored.wellFormed
  refine Stored.induct
    (motive := fun history => history.leg.Routed graph history.events)
    ?_ ?_ ?_ hstored
  · intro limits leg told hstarts
    cases hstarts with
    | refused _ => exact .nil
    | begins hstart =>
        have hmem := List.mem_of_find?_eq_some hstart
        refine ⟨?_, .singleton _⟩
        intro id hid
        obtain rfl := List.mem_singleton.mp hid
        exact List.mem_map_of_mem hmem
  · intro beginning limits past told leg next new move hsound _ hgoes hrouted
    simpa [events] using hgoes.routed hgraph hrouted
  · intro beginning limits now past told suspended restored signal leg new
      hawaits hrestored hresumes hrouted
    refine hresumes.routed hgraph
      (hrestored.graph_eq.trans hawaits.graph_eq) ?_
    rw [Leg.Routed, hrestored.cursor_eq]
    exact hrouted

/-- If a node is started twice by a run, over all its legs, then a while node
is started at the first of the two or between them.  So the starts of a stretch
without while nodes are all different, and there are no more of them than
nodes of other kinds. -/
theorem Stored.recurs_by_loop
    (hstored : Stored drops around run graph inputs history) :
    (∀ (i j : ℕ) (id : String), i < j →
      (placesOf .started history.events)[i]? = some id →
      (placesOf .started history.events)[j]? = some id →
      ∃ k loop, i ≤ k ∧ k < j ∧
        (placesOf .started history.events)[k]? = some loop ∧
        graph.loops loop = true) ∧
    ∀ stretch, stretch <:+: placesOf .started history.events →
      (∀ id ∈ stretch, graph.loops id = false) →
      stretch.Nodup ∧
        stretch.length ≤ (graph.nodes.filter (!·.kind.isLoop)).length := by
  have hgraph := hstored.wellFormed
  have hroute := hstored.routed.route
  constructor
  · intro i j id hij hfirst hagain
    exact hgraph.loops_of_recurs hroute hij hfirst hagain
  · intro stretch hpart hplain
    exact hgraph.nodup_of_plain hroute hpart hplain

end History

namespace Laps

/-- The loop is started a second time after the first, and the start node once
before that. -/
theorem recurs_by_loop_laps :
    History.Stored False around "run" graph [] done ∧
      (∃ k loop, 1 ≤ k ∧ k < 2 ∧
        (placesOf .started done.events)[k]? = some loop ∧
        graph.loops loop = true) ∧
      ["begin"].Nodup ∧ ["begin"].length ≤ 2 := by
  have hstored : History.Stored False around "run" graph [] done :=
    done_steady.reachable.stored
  obtain ⟨hrecurs, hstretch⟩ := hstored.recurs_by_loop
  have hfirst : (placesOf .started done.events)[1]? = some "again" := by
    decide
  have hagain : (placesOf .started done.events)[2]? = some "again" := by
    decide
  have hpart : ["begin"] <:+: placesOf .started done.events :=
    ⟨[], ["again", "again", "again"], by decide⟩
  exact ⟨hstored, hrecurs 1 2 "again" (by decide) hfirst hagain,
    hstretch ["begin"] hpart (by decide)⟩

end Laps

end Workflow
