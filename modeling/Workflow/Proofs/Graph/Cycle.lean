import Mathlib.Data.List.Perm.Subperm
import Workflow.Proofs.Graph.Walk

/-!
# The search for cycles

`Graph.search` follows edges that touch no while node.  It keeps the path that
it is on and the ids that it is done with.  Two facts carry the proof that it
decides whether there is a cycle:

* the path is a walk, so an edge back to a node on it closes a cycle;
* an id that is done has only done successors, so every walk from it comes to
  an end (`Bounded`), and no cycle passes through it.

The search goes no deeper than there are nodes, because the ids on the path
differ.
-/

namespace Workflow.Graph

variable {graph : Graph}

/-! ## Walks that touch no while node -/

/-- A walk whose edges touch no while node. -/
def PlainWalk (graph : Graph) (first : String) (walk : List Edge)
    (last : String) : Prop :=
  Walk graph first walk last ∧
    ∀ edge ∈ walk, graph.loops edge.source = false ∧
      graph.loops edge.target = false

/-- A cycle through a node that touches no while node. -/
def PlainCycle (graph : Graph) (id : String) : Prop :=
  ∃ walk, walk ≠ [] ∧ PlainWalk graph id walk id

theorem mem_plainSuccessors_iff {id child : String} :
    child ∈ graph.plainSuccessors id ↔
      ∃ edge ∈ graph.edges, edge.source = id ∧ edge.target = child ∧
        graph.loops edge.source = false ∧
        graph.loops edge.target = false := by
  simp only [plainSuccessors, outgoing, List.mem_map, List.mem_filter,
    decide_eq_true_eq, Bool.and_eq_true, Bool.not_eq_true']
  constructor
  · rintro ⟨edge, ⟨⟨hedge, hsource⟩, hplain⟩, htarget⟩
    exact ⟨edge, hedge, hsource, htarget, hplain⟩
  · rintro ⟨edge, hedge, hsource, htarget, hplain⟩
    exact ⟨edge, ⟨⟨hedge, hsource⟩, hplain⟩, htarget⟩

theorem PlainWalk.snoc {first id child : String} {walk : List Edge}
    (hwalk : PlainWalk graph first walk id)
    (hchild : child ∈ graph.plainSuccessors id) :
    ∃ edge, PlainWalk graph first (walk ++ [edge]) child := by
  obtain ⟨edge, hedge, rfl, rfl, hplain⟩ := mem_plainSuccessors_iff.mp hchild
  refine ⟨edge, hwalk.1.snoc hedge, ?_⟩
  intro other hother
  rcases List.mem_append.mp hother with hold | hlast
  · exact hwalk.2 other hold
  · obtain rfl : other = edge := List.mem_singleton.mp hlast
    exact hplain

/-- A cycle on which no edge starts from a while node touches none at all. -/
theorem Walk.plain_of_sources {id : String} {walk : List Edge}
    (hwalk : Walk graph id walk id)
    (hsources : ∀ edge ∈ walk, graph.loops edge.source = false) :
    PlainWalk graph id walk id := by
  refine ⟨hwalk, fun edge hedge => ⟨hsources edge hedge, ?_⟩⟩
  rcases hwalk.target_eq edge hedge with hlast | ⟨next, hnext, htarget⟩
  · cases walk with
    | nil => simp at hedge
    | cons next rest =>
        have hfirst := (walk_cons_iff.mp hwalk).1
        rw [hlast, ← hfirst]
        exact hsources next (List.mem_cons_self ..)
  · rw [htarget]
    exact hsources next hnext

/-! ## Ids from which every walk ends -/

/-- Every walk from a node that touches no while node comes to an end. -/
def Bounded (graph : Graph) (id : String) : Prop :=
  Acc (fun child parent => child ∈ graph.plainSuccessors parent) id

theorem Bounded.not_plainCycle {id : String} (hid : Bounded graph id) :
    ¬PlainCycle graph id := by
  induction hid with
  | intro id _ ih =>
      rintro ⟨walk, hne, hwalk, hplain⟩
      cases hwalk with
      | nil _ => exact hne rfl
      | @cons edge rest _ hedge hrest =>
          have hfirst := hplain edge (List.mem_cons_self ..)
          -- the same cycle, entered one node later
          refine ih edge.target
            (mem_plainSuccessors_iff.mpr ⟨edge, hedge, rfl, rfl, hfirst⟩)
            ⟨rest ++ [edge], by simp, hrest.snoc hedge, ?_⟩
          intro other hother
          rcases List.mem_append.mp hother with hin | hlast
          · exact hplain other (List.mem_cons_of_mem _ hin)
          · obtain rfl : other = edge := List.mem_singleton.mp hlast
            exact hfirst

/-! ## What the search finds -/

/-- The path of a search: each id is a plain successor of the one after it. -/
def Trail (graph : Graph) (path : List String) : Prop :=
  path.IsChain fun child parent => child ∈ graph.plainSuccessors parent

theorem exists_walk_of_mem_trail {id first : String} {path : List String}
    (htrail : Trail graph (id :: path)) (hfirst : first ∈ id :: path) :
    ∃ walk, PlainWalk graph first walk id := by
  induction path generalizing id with
  | nil =>
      obtain rfl : first = id := List.mem_singleton.mp hfirst
      exact ⟨[], .nil first, by simp⟩
  | cons parent rest ih =>
      rcases List.mem_cons.mp hfirst with rfl | hrest
      · exact ⟨[], .nil first, by simp⟩
      obtain ⟨hchild, htrail⟩ := List.isChain_cons_cons.mp htrail
      obtain ⟨walk, hwalk⟩ := ih htrail hrest
      obtain ⟨edge, hlonger⟩ := hwalk.snoc hchild
      exact ⟨walk ++ [edge], hlonger⟩

/-- An edge from the end of the path to a node on it closes a cycle. -/
theorem plainCycle_of_mem_trail {id child : String} {path : List String}
    (htrail : Trail graph (id :: path))
    (hchild : child ∈ graph.plainSuccessors id) (hmem : child ∈ id :: path) :
    PlainCycle graph child := by
  obtain ⟨walk, hwalk⟩ := exists_walk_of_mem_trail htrail hmem
  obtain ⟨edge, hclosed⟩ := hwalk.snoc hchild
  exact ⟨walk ++ [edge], by simp, hclosed⟩

theorem searchAll_error {fuel : Nat} {id : String}
    {path successors done : List String} {blamed : String}
    (htrail : Trail graph (id :: path))
    (hsearch : ∀ (path : List String) (child : String) (done : List String),
      Trail graph (child :: path) →
      graph.search fuel (child :: path) child done = .error blamed →
      PlainCycle graph blamed)
    (hsuccessors : ∀ child ∈ successors, child ∈ graph.plainSuccessors id)
    (herror :
      graph.searchAll fuel (id :: path) successors done = .error blamed) :
    PlainCycle graph blamed := by
  induction successors generalizing done with
  | nil => simp [searchAll] at herror
  | cons child rest ih =>
      have hchild := hsuccessors child (List.mem_cons_self ..)
      have hrest : ∀ other ∈ rest, other ∈ graph.plainSuccessors id :=
        fun other hother => hsuccessors other (List.mem_cons_of_mem _ hother)
      rw [searchAll] at herror
      split at herror
      next hpath =>
        obtain rfl : child = blamed := Except.error.inj herror
        exact plainCycle_of_mem_trail htrail hchild (by simpa using hpath)
      next =>
        split at herror
        · exact ih hrest herror
        · split at herror
          next blamed' hfound =>
            obtain rfl : blamed' = blamed := Except.error.inj herror
            exact hsearch _ child done
              (List.isChain_cons_cons.mpr ⟨hchild, htrail⟩) hfound
          next => exact ih hrest herror

theorem search_error {fuel : Nat} {id : String} {path done : List String}
    {blamed : String} (htrail : Trail graph (id :: path))
    (herror : graph.search fuel (id :: path) id done = .error blamed) :
    PlainCycle graph blamed := by
  induction fuel generalizing id path done with
  | zero => simp [search] at herror
  | succ fuel ih =>
      rw [search] at herror
      cases hall : graph.searchAll fuel (id :: path)
        (graph.plainSuccessors id) done with
      | ok found => simp [hall, Except.map] at herror
      | error blamed' =>
          obtain rfl : blamed' = blamed := by
            simpa [hall, Except.map] using herror
          exact searchAll_error htrail
            (fun _ _ _ htrail herror => ih htrail herror)
            (fun _ hchild => hchild) hall

/-- From every id that the search is done with, every walk ends. -/
def Settled (graph : Graph) (done : List String) : Prop :=
  ∀ id ∈ done, Bounded graph id

/-- What a search without a find has done: all that was done before, and some
more ids. -/
structure Covers (graph : Graph) (before ids after : List String) : Prop where
  settled : Settled graph after
  kept : before ⊆ after
  covered : ids ⊆ after

theorem Covers.trans {before ids middle others after : List String}
    (hfirst : Covers graph before ids middle)
    (hsecond : Covers graph middle others after) :
    Covers graph before (ids ++ others) after where
  settled := hsecond.settled
  kept := List.Subset.trans hfirst.kept hsecond.kept
  covered := by
    intro id hid
    rcases List.mem_append.mp hid with hold | hnew
    · exact hsecond.kept (hfirst.covered hold)
    · exact hsecond.covered hnew

/-- A path of different nodes that leaves fuel for all nodes, and what its end
leads to. -/
structure Fuelled (graph : Graph) (fuel : Nat) (path : List String) :
    Prop where
  nodup : path.Nodup
  nodes : path ⊆ graph.nodes.map (·.id)
  enough : graph.nodes.length < fuel + path.length

theorem Fuelled.pos {fuel : Nat} {path : List String}
    (hpath : Fuelled graph fuel path) :
    0 < fuel := by
  have hlength : path.length ≤ graph.nodes.length := by
    simpa using (hpath.nodup.subperm hpath.nodes).length_le
  have henough := hpath.enough
  omega

theorem Fuelled.cons {fuel : Nat} {path : List String} {child : String}
    (hpath : Fuelled graph (fuel + 1) path) (hfresh : child ∉ path)
    (hnode : child ∈ graph.nodes.map (·.id)) :
    Fuelled graph fuel (child :: path) where
  nodup := List.nodup_cons.mpr ⟨hfresh, hpath.nodup⟩
  nodes := List.cons_subset.mpr ⟨hnode, hpath.nodes⟩
  enough := by
    have henough := hpath.enough
    simp only [List.length_cons]
    omega

theorem searchAll_ok {fuel : Nat} {path successors done found : List String}
    (hpath : Fuelled graph (fuel + 1) path) (hsettled : Settled graph done)
    (hsearch : ∀ (child : String) (done found : List String),
      Fuelled graph fuel (child :: path) → Settled graph done →
      graph.search fuel (child :: path) child done = .ok found →
      Covers graph done [child] found)
    (hnodes : ∀ child ∈ successors, child ∈ graph.nodes.map (·.id))
    (hok : graph.searchAll fuel path successors done = .ok found) :
    Covers graph done successors found := by
  induction successors generalizing done with
  | nil =>
      obtain rfl : done = found := by simpa [searchAll] using hok
      exact ⟨hsettled, List.Subset.refl done, by simp⟩
  | cons child rest ih =>
      have hrest : ∀ other ∈ rest, other ∈ graph.nodes.map (·.id) :=
        fun other hother => hnodes other (List.mem_cons_of_mem _ hother)
      rw [searchAll] at hok
      split at hok
      next => simp at hok
      next hfresh =>
        split at hok
        next hdone =>
          have hlater := ih hsettled hrest hok
          refine ⟨hlater.settled, hlater.kept,
            List.cons_subset.mpr ⟨?_, hlater.covered⟩⟩
          exact hlater.kept (by simpa using hdone)
        next =>
          split at hok
          next => simp at hok
          next middle hfound =>
            have hnode := hnodes child (List.mem_cons_self ..)
            have hchild := hsearch child done middle
              (hpath.cons (by simpa using hfresh) hnode) hsettled hfound
            exact hchild.trans (ih hchild.settled hrest hok)

theorem search_ok {fuel : Nat} {id : String} {path done found : List String}
    (htargets : ∀ edge ∈ graph.edges, edge.target ∈ graph.nodes.map (·.id))
    (hpath : Fuelled graph fuel (id :: path)) (hsettled : Settled graph done)
    (hok : graph.search fuel (id :: path) id done = .ok found) :
    Covers graph done [id] found := by
  induction fuel generalizing id path done found with
  | zero => exact absurd hpath.pos (by omega)
  | succ fuel ih =>
      rw [search] at hok
      cases hall : graph.searchAll fuel (id :: path)
        (graph.plainSuccessors id) done with
      | error blamed => simp [hall, Except.map] at hok
      | ok deeper =>
          obtain rfl : id :: deeper = found := by
            simpa [hall, Except.map] using hok
          have hnodes : ∀ child ∈ graph.plainSuccessors id,
              child ∈ graph.nodes.map (·.id) := by
            intro child hchild
            obtain ⟨edge, hedge, -, rfl, -⟩ :=
              mem_plainSuccessors_iff.mp hchild
            exact htargets edge hedge
          have hbelow := searchAll_ok hpath hsettled
            (fun _ _ _ hpath hsettled hok => ih hpath hsettled hok)
            hnodes hall
          have hid : Bounded graph id :=
            .intro id fun child hchild =>
              hbelow.settled child (hbelow.covered hchild)
          refine ⟨?_, fun other hother =>
            List.mem_cons_of_mem _ (hbelow.kept hother), by simp⟩
          intro other hother
          rcases List.mem_cons.mp hother with rfl | hdeeper
          · exact hid
          · exact hbelow.settled other hdeeper

/-! ## The search from all nodes -/

theorem fuelled_root {node : Node} (hnode : node ∈ graph.nodes) :
    Fuelled graph (graph.nodes.length + 1) [node.id] where
  nodup := by simp
  nodes := by
    intro id hid
    obtain rfl : id = node.id := List.mem_singleton.mp hid
    exact List.mem_map_of_mem hnode
  enough := by
    simp only [List.length_singleton]
    omega

theorem searchFrom_error {nodes : List Node} {done : List String}
    {blamed : String} (herror : graph.searchFrom nodes done = .error blamed) :
    PlainCycle graph blamed := by
  induction nodes generalizing done with
  | nil => simp [searchFrom] at herror
  | cons node rest ih =>
      rw [searchFrom] at herror
      split at herror
      · exact ih herror
      · split at herror
        next blamed' hfound =>
          obtain rfl : blamed' = blamed := Except.error.inj herror
          exact search_error (List.IsChain.singleton _) hfound
        next => exact ih herror

theorem searchFrom_ok {nodes : List Node} {done found : List String}
    (htargets : ∀ edge ∈ graph.edges, edge.target ∈ graph.nodes.map (·.id))
    (hnodes : nodes ⊆ graph.nodes) (hsettled : Settled graph done)
    (hok : graph.searchFrom nodes done = .ok found) :
    Covers graph done (nodes.map (·.id)) found := by
  induction nodes generalizing done with
  | nil =>
      obtain rfl : done = found := by simpa [searchFrom] using hok
      exact ⟨hsettled, List.Subset.refl done, by simp⟩
  | cons node rest ih =>
      obtain ⟨hnode, hrest⟩ := List.cons_subset.mp hnodes
      rw [searchFrom] at hok
      split at hok
      next hdone =>
        have hlater := ih hrest hsettled hok
        refine ⟨hlater.settled, hlater.kept,
          List.cons_subset.mpr ⟨?_, hlater.covered⟩⟩
        exact hlater.kept (by simpa using hdone)
      next =>
        split at hok
        next => simp at hok
        next middle hfound =>
          have hfirst :=
            search_ok htargets (fuelled_root hnode) hsettled hfound
          exact hfirst.trans (ih hrest hfirst.settled hok)

/-- The node that is blamed for a cycle lies on one that touches no while
node. -/
theorem plainCycle_of_cycleDefect? {blamed : Defect}
    (hdefect : graph.cycleDefect? = some blamed) :
    ∃ id, blamed = .cycle id ∧ PlainCycle graph id := by
  unfold cycleDefect? at hdefect
  split at hdefect
  next id hfound =>
    exact ⟨id, (Option.some.inj hdefect).symm, searchFrom_error hfound⟩
  next => simp at hdefect

/-- Where edges join nodes, no cycle is found if and only if none misses the
while nodes. -/
theorem cycleDefect?_eq_none_iff
    (hsources : ∀ edge ∈ graph.edges, edge.source ∈ graph.nodes.map (·.id))
    (htargets : ∀ edge ∈ graph.edges, edge.target ∈ graph.nodes.map (·.id)) :
    graph.cycleDefect? = none ↔
      ∀ id walk, Walk graph id walk id → walk ≠ [] →
        ∃ edge ∈ walk, graph.loops edge.source = true := by
  constructor
  · intro hnone id walk hwalk hne
    by_contra hmissing
    have hplain : ∀ edge ∈ walk, graph.loops edge.source = false := by
      intro edge hedge
      exact eq_false_of_ne_true fun hloop => hmissing ⟨edge, hedge, hloop⟩
    have hid : id ∈ graph.nodes.map (·.id) := by
      cases walk with
      | nil => exact absurd rfl hne
      | cons edge rest =>
          obtain ⟨rfl, hedge, -⟩ := walk_cons_iff.mp hwalk
          exact hsources edge hedge
    unfold cycleDefect? at hnone
    split at hnone
    next => simp at hnone
    next found hfound =>
      have hall :=
        searchFrom_ok htargets (List.Subset.refl _) (by simp [Settled]) hfound
      exact (hall.settled id (hall.covered hid)).not_plainCycle
        ⟨walk, hne, hwalk.plain_of_sources hplain⟩
  · intro hcycles
    cases hdefect : graph.cycleDefect? with
    | none => rfl
    | some blamed =>
        obtain ⟨id, -, walk, hne, hwalk, hplain⟩ :=
          plainCycle_of_cycleDefect? hdefect
        obtain ⟨edge, hedge, hloop⟩ := hcycles id walk hwalk hne
        rw [(hplain edge hedge).1] at hloop
        exact absurd hloop (by simp)

end Workflow.Graph
