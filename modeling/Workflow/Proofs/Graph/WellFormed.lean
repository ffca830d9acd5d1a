import Mathlib.Data.List.Nodup
import Mathlib.Data.List.TakeWhile
import Workflow.Proofs.Graph.Cycle

/-!
# Well-formed graphs

`WellFormed` says in terms of nodes, edges, walks and cycles which graphs may
run.  It does not mention any search.  Each stage of `Graph.defect?` is
characterised on its own, given what the stages before it have established;
together the stages decide `WellFormed`.

In a well-formed graph a node has exactly one edge for each branch that its
kind can take, and the look-ups `Graph.soleEdge?` and `Graph.branchEdge?` find
it.

Whether the schema of an answer can be used is a parameter throughout.
-/

namespace Workflow.Graph

variable {graph : Graph}

/-! ## What a graph has to satisfy -/

/-- Exactly two edges leave a node, and they stand for two given branches. -/
def Fork (graph : Graph) (id : String) (a b : Branch) : Prop :=
  ∃ first second, (graph.outgoing id).Perm [first, second] ∧
    first.branch? = some a ∧ second.branch? = some b

/-- A node is left by the edges that its kind asks for. -/
def ExitsFit (graph : Graph) (node : Node) : Prop :=
  match node.kind with
  | .finish => graph.outgoing node.id = []
  | .ifElse _ => graph.Fork node.id .whenTrue .whenFalse
  | .loop _ => graph.Fork node.id .body .exit
  | _ => ∃ edge, graph.outgoing node.id = [edge]

/-- A text that is more than white space. -/
def Meaningful (text : String) : Prop :=
  Text.trimmed text ≠ ""

/-- What a node needs to run is there. -/
def SettingsFit (refusal? : Json → Option String) (node : Node) : Prop :=
  match node.kind with
  | .agent config => Meaningful config.instructions ∧
      ∀ schema, config.outputFormat = .json (some schema) →
        refusal? schema = none
  | .transform config => Meaningful config.script
  | .ifElse condition => Meaningful condition
  | .loop config => Meaningful config.condition
  | .tool config => config.server ≠ "" ∧ config.tool ≠ ""
  | _ => True

/-- A graph that may run; `refusal?` tells why a schema cannot be used. -/
structure WellFormed (refusal? : Json → Option String) (graph : Graph) :
    Prop where
  idsNonempty : ∀ node ∈ graph.nodes, node.id ≠ ""
  idsDistinct : (graph.nodes.map (·.id)).Nodup
  edgesDistinct : (graph.edges.map (·.id)).Nodup
  oneStart : ∃! start, start ∈ graph.nodes ∧ start.kind.isStart = true
  someFinish : ∃ finish ∈ graph.nodes, finish.kind.isFinish = true
  sources : ∀ edge ∈ graph.edges, edge.source ∈ graph.nodes.map (·.id)
  targets : ∀ edge ∈ graph.edges, edge.target ∈ graph.nodes.map (·.id)
  startEntries : ∀ node ∈ graph.nodes, node.kind.isStart = true →
    graph.incoming node.id = []
  entries : ∀ node ∈ graph.nodes, node.kind.isStart = false →
    graph.incoming node.id ≠ []
  exits : ∀ node ∈ graph.nodes, graph.ExitsFit node
  settings : ∀ node ∈ graph.nodes, SettingsFit refusal? node
  reachable : ∀ start ∈ graph.nodes, start.kind.isStart = true →
    ∀ node ∈ graph.nodes, ∃ walk, Walk graph start.id walk node.id
  cycles : ∀ id walk, Walk graph id walk id → walk ≠ [] →
    ∃ node ∈ graph.nodes, node.kind.isLoop = true ∧
      ∃ edge ∈ walk, edge.source = node.id

/-! ## Ids -/

theorem nodeIdDefect?_eq_none_iff {seen : List String} {nodes : List Node} :
    nodeIdDefect? seen nodes = none ↔
      (∀ node ∈ nodes, node.id ≠ "" ∧ node.id ∉ seen) ∧
        (nodes.map (·.id)).Nodup := by
  induction nodes generalizing seen with
  | nil => simp [nodeIdDefect?]
  | cons node rest ih =>
      by_cases hempty : node.id = ""
      · simp [nodeIdDefect?, hempty]
      by_cases hseen : node.id ∈ seen
      · simp [nodeIdDefect?, hempty, hseen]
      simp only [nodeIdDefect?, hempty, List.contains_eq_mem, hseen,
        decide_false, if_false, Bool.false_eq_true, ih, List.mem_cons, not_or,
        forall_eq_or_imp, List.map_cons, List.nodup_cons, List.mem_map,
        not_exists, not_and, not_false_eq_true, true_and, ne_eq]
      constructor
      · rintro ⟨hrest, hnodup⟩
        exact ⟨fun other hother =>
          ⟨(hrest other hother).1, (hrest other hother).2.2⟩,
          fun other hother => (hrest other hother).2.1, hnodup⟩
      · rintro ⟨hrest, hfresh, hnodup⟩
        exact ⟨fun other hother =>
          ⟨(hrest other hother).1, hfresh other hother,
            (hrest other hother).2⟩, hnodup⟩

theorem edgeIdDefect?_eq_none_iff {seen : List String} {edges : List Edge} :
    edgeIdDefect? seen edges = none ↔
      (∀ edge ∈ edges, edge.id ∉ seen) ∧ (edges.map (·.id)).Nodup := by
  induction edges generalizing seen with
  | nil => simp [edgeIdDefect?]
  | cons edge rest ih =>
      by_cases hseen : edge.id ∈ seen
      · simp [edgeIdDefect?, hseen]
      simp only [edgeIdDefect?, List.contains_eq_mem, hseen, decide_false,
        if_false, Bool.false_eq_true, ih, List.mem_cons, not_or,
        forall_eq_or_imp, List.map_cons, List.nodup_cons, List.mem_map,
        not_exists, not_and, not_false_eq_true, true_and]
      constructor
      · rintro ⟨hrest, hnodup⟩
        exact ⟨fun other hother => (hrest other hother).2,
          fun other hother => (hrest other hother).1, hnodup⟩
      · rintro ⟨hrest, hfresh, hnodup⟩
        exact ⟨fun other hother => ⟨hfresh other hother, hrest other hother⟩,
          hnodup⟩

/-! ## Start and end nodes -/

theorem terminalDefect?_eq_none_iff :
    graph.terminalDefect? = none ↔
      (∃ start, graph.nodes.filter (·.kind.isStart) = [start]) ∧
        ∃ finish ∈ graph.nodes, finish.kind.isFinish = true := by
  unfold terminalDefect?
  split
  next hnone => simp [hnone]
  next start hone =>
    simp only [hone, List.any_eq_true]
    split
    · simp_all
    · simp_all
  next start second rest hmany => simp [hmany]

/-- In a list without repetitions, one item is filtered out if and only if
exactly one is like that. -/
theorem exists_filter_eq_singleton_iff {α : Type} {p : α → Bool}
    {items : List α} (hnodup : items.Nodup) :
    (∃ item, items.filter p = [item]) ↔
      ∃! item, item ∈ items ∧ p item = true := by
  constructor
  · rintro ⟨item, hfilter⟩
    have hmem : ∀ other, other ∈ items ∧ p other = true ↔ other = item := by
      intro other
      rw [← List.mem_filter, hfilter, List.mem_singleton]
    exact ⟨item, (hmem item).mpr rfl, fun other hother =>
      (hmem other).mp hother⟩
  · rintro ⟨item, hitem, hunique⟩
    have hmem : item ∈ items.filter p := List.mem_filter.mpr hitem
    have hall : ∀ other ∈ items.filter p, other = item :=
      fun other hother => hunique other (List.mem_filter.mp hother)
    have hfiltered : (items.filter p).Nodup := hnodup.filter p
    generalize items.filter p = filtered at hmem hall hfiltered
    match filtered with
    | [] => simp at hmem
    | [other] => exact ⟨other, rfl⟩
    | first :: second :: rest =>
        have hsame : first = second :=
          (hall first (by simp)).trans (hall second (by simp)).symm
        simp [hsame] at hfiltered

theorem start?_eq_some_of_filter {start : Node}
    (hfilter : graph.nodes.filter (·.kind.isStart) = [start]) :
    graph.start? = some start := by
  have hhead := List.head?_filter (p := fun node : Node => node.kind.isStart)
    (l := graph.nodes)
  rw [hfilter] at hhead
  exact hhead.symm

/-! ## The ends of edges -/

theorem node?_isSome_iff {id : String} :
    (graph.node? id).isSome = true ↔ id ∈ graph.nodes.map (·.id) := by
  rw [node?, List.find?_isSome, List.mem_map]
  refine exists_congr fun node => and_congr_right fun _ => ?_
  exact decide_eq_true_iff

theorem endpointDefect?_eq_none_iff :
    graph.endpointDefect? = none ↔
      ∀ edge ∈ graph.edges, edge.source ∈ graph.nodes.map (·.id) ∧
        edge.target ∈ graph.nodes.map (·.id) := by
  rw [endpointDefect?, List.findSome?_eq_none_iff]
  refine forall₂_congr fun edge _ => ?_
  rw [← node?_isSome_iff, ← node?_isSome_iff]
  cases graph.node? edge.source <;> cases graph.node? edge.target <;> simp

/-! ## The edges and the settings of a node -/

theorem pairOf_eq_true_iff (edges : List Edge) {a b : Branch} (hne : a ≠ b) :
    pairOf edges a b = true ↔
      ∃ first second, edges.Perm [first, second] ∧
        first.branch? = some a ∧ second.branch? = some b := by
  simp only [pairOf, Bool.and_eq_true, decide_eq_true_eq, List.any_eq_true]
  constructor
  · rintro ⟨⟨hlength, one, hone, ha⟩, other, hother, hb⟩
    obtain ⟨x, y, rfl⟩ := List.length_eq_two.mp hlength
    have hdiffer : one ≠ other := by
      rintro rfl
      exact hne (Option.some.inj (ha.symm.trans hb))
    refine ⟨one, other, ?_, ha, hb⟩
    simp only [List.mem_cons, List.not_mem_nil, or_false] at hone hother
    rcases hone with rfl | rfl <;> rcases hother with rfl | rfl
    · exact absurd rfl hdiffer
    · exact .refl _
    · exact .swap _ _ _
    · exact absurd rfl hdiffer
  · rintro ⟨first, second, hperm, ha, hb⟩
    refine ⟨⟨hperm.length_eq, first, ?_, ha⟩, second, ?_, hb⟩
    · exact hperm.mem_iff.mpr (by simp)
    · exact hperm.mem_iff.mpr (by simp)

/-- A node is entered as its kind asks for: a start node never, any other node
somehow. -/
def EntriesFit (graph : Graph) (node : Node) : Prop :=
  (node.kind.isStart = true → graph.incoming node.id = []) ∧
    (node.kind.isStart = false → graph.incoming node.id ≠ [])

theorem degreeDefect?_eq_none_iff {node : Node} :
    graph.degreeDefect? node = none ↔
      graph.EntriesFit node ∧ graph.ExitsFit node := by
  have hbranches := pairOf_eq_true_iff (graph.outgoing node.id)
    (show Branch.whenTrue ≠ .whenFalse by decide)
  have hloop := pairOf_eq_true_iff (graph.outgoing node.id)
    (show Branch.body ≠ .exit by decide)
  by_cases hentries : graph.incoming node.id = []
  · cases hkind : node.kind <;>
      simp [degreeDefect?, EntriesFit, ExitsFit, hkind, NodeKind.isStart,
        hentries, List.length_eq_one_iff]
  · have hpos : 0 < (graph.incoming node.id).length :=
      List.length_pos_iff.mpr hentries
    cases hkind : node.kind <;>
      simp [degreeDefect?, EntriesFit, ExitsFit, Fork, hkind,
        NodeKind.isStart, hentries, hpos, hbranches, hloop,
        List.length_eq_one_iff]

/-- A text is blank if nothing is left of it after trimming. -/
theorem blank_eq_false_iff {text : String} :
    Text.blank text = false ↔ Meaningful text := by
  have htrim : Text.trim text.toList = [] ↔
      ∀ c ∈ text.toList, Text.isBlank c = true := by
    unfold Text.trim Text.trimRight
    rw [List.reverse_eq_nil_iff, List.dropWhile_eq_nil_iff]
    simp only [List.mem_reverse]
    constructor
    · intro hleft
      have hnil : Text.trimLeft text.toList = [] := by
        by_contra hne
        have hhead :
            Text.isBlank ((Text.trimLeft text.toList).head hne) = false :=
          List.head_dropWhile_not Text.isBlank hne
        rw [hleft _ (List.head_mem hne)] at hhead
        exact absurd hhead (by simp)
      exact List.dropWhile_eq_nil_iff.mp hnil
    · intro hall c hc
      exact hall c ((List.dropWhile_sublist _).subset hc)
  have hempty : Text.trimmed text = "" ↔ Text.trim text.toList = [] := by
    rw [Text.trimmed, ← String.ofList_nil, String.ofList_inj]
  rw [Meaningful, ne_eq, hempty, htrim, Text.blank, ← Bool.not_eq_true,
    List.all_eq_true]

theorem settingDefect?_eq_none_iff {refusal? : Json → Option String}
    {node : Node} :
    settingDefect? refusal? node = none ↔ SettingsFit refusal? node := by
  cases hkind : node.kind with
  | agent config =>
      cases hformat : config.outputFormat with
      | text =>
          simp [settingDefect?, SettingsFit, hkind, hformat,
            blank_eq_false_iff]
      | json schema =>
          cases schema <;>
            simp [settingDefect?, SettingsFit, hkind, hformat,
              blank_eq_false_iff]
  | tool config =>
      by_cases hserver : config.server = "" <;>
        simp [settingDefect?, SettingsFit, hkind, hserver]
  | _ => simp [settingDefect?, SettingsFit, hkind, blank_eq_false_iff]

theorem nodeDefect?_eq_none_iff {refusal? : Json → Option String}
    {node : Node} :
    graph.nodeDefect? refusal? node = none ↔
      graph.EntriesFit node ∧ graph.ExitsFit node ∧
        SettingsFit refusal? node := by
  rw [nodeDefect?, Option.or_eq_none_iff, degreeDefect?_eq_none_iff,
    settingDefect?_eq_none_iff, and_assoc]

/-! ## Reachability and cycles -/

theorem reachDefect?_eq_none_iff {start : Node}
    (hstart : graph.start? = some start)
    (htargets : ∀ edge ∈ graph.edges, edge.target ∈ graph.nodes.map (·.id)) :
    graph.reachDefect? = none ↔
      ∀ node ∈ graph.nodes, ∃ walk, Walk graph start.id walk node.id := by
  have hnode : start.id ∈ graph.nodes.map (·.id) :=
    List.mem_map_of_mem (List.mem_of_find?_eq_some hstart)
  simp only [reachDefect?, hstart, Option.map_eq_none_iff, List.find?_eq_none]
  refine forall₂_congr fun node _ => ?_
  rw [← mem_reachableFrom_iff htargets hnode]
  simp

theorem loops_eq_true_iff {id : String} :
    graph.loops id = true ↔
      ∃ node ∈ graph.nodes, node.kind.isLoop = true ∧ node.id = id := by
  simp [loops, and_comm]

/-! ## All stages together -/

variable {refusal? : Json → Option String}

theorem idDefects_eq_none_iff :
    nodeIdDefect? [] graph.nodes = none ∧
      edgeIdDefect? [] graph.edges = none ↔
      (∀ node ∈ graph.nodes, node.id ≠ "") ∧ (graph.nodes.map (·.id)).Nodup ∧
        (graph.edges.map (·.id)).Nodup := by
  rw [nodeIdDefect?_eq_none_iff, edgeIdDefect?_eq_none_iff]
  simp [and_assoc]

/-- A graph without a defect has whatever makes it well-formed. -/
theorem wellFormed_of_defect?_eq_none
    (hnone : graph.defect? refusal? = none) :
    WellFormed refusal? graph := by
  simp only [defect?, Option.or_eq_none_iff] at hnone
  obtain ⟨hnodeIds, hedgeIds, hterminal, hendpoints, hnodes, hreach, hcycle⟩ :=
    hnone
  obtain ⟨hnonempty, hdistinct, hedges⟩ :=
    idDefects_eq_none_iff.mp ⟨hnodeIds, hedgeIds⟩
  obtain ⟨⟨start, hfilter⟩, hfinish⟩ :=
    terminalDefect?_eq_none_iff.mp hterminal
  have hends := endpointDefect?_eq_none_iff.mp hendpoints
  have hfit : ∀ node ∈ graph.nodes,
      graph.EntriesFit node ∧ graph.ExitsFit node ∧
        SettingsFit refusal? node := by
    intro node hnode
    have hnone := List.findSome?_eq_none_iff.mp hnodes node hnode
    exact nodeDefect?_eq_none_iff.mp hnone
  have hsources := fun edge hedge => (hends edge hedge).1
  have htargets := fun edge hedge => (hends edge hedge).2
  have hstart := start?_eq_some_of_filter hfilter
  have hwalks := (reachDefect?_eq_none_iff hstart htargets).mp hreach
  have hnodup : graph.nodes.Nodup := List.Nodup.of_map _ hdistinct
  have hone := (exists_filter_eq_singleton_iff hnodup).mp ⟨start, hfilter⟩
  refine
    { idsNonempty := hnonempty
      idsDistinct := hdistinct
      edgesDistinct := hedges
      oneStart := hone
      someFinish := hfinish
      sources := hsources
      targets := htargets
      startEntries := fun node hnode => (hfit node hnode).1.1
      entries := fun node hnode => (hfit node hnode).1.2
      exits := fun node hnode => (hfit node hnode).2.1
      settings := fun node hnode => (hfit node hnode).2.2
      reachable := ?_
      cycles := ?_ }
  · intro other hother hstart
    have hsame : other ∈ graph.nodes.filter (·.kind.isStart) :=
      List.mem_filter.mpr ⟨hother, hstart⟩
    rw [hfilter, List.mem_singleton] at hsame
    exact hsame ▸ hwalks
  · intro id walk hwalk hne
    obtain ⟨edge, hedge, hloop⟩ :=
      (cycleDefect?_eq_none_iff hsources htargets).mp hcycle id walk hwalk hne
    obtain ⟨node, hnode, hkind, hid⟩ := loops_eq_true_iff.mp hloop
    exact ⟨node, hnode, hkind, edge, hedge, hid.symm⟩

/-- No stage finds a defect of a well-formed graph. -/
theorem WellFormed.defect?_eq_none (hgraph : WellFormed refusal? graph) :
    graph.defect? refusal? = none := by
  obtain ⟨hnodeIds, hedgeIds⟩ := idDefects_eq_none_iff.mpr
    ⟨hgraph.idsNonempty, hgraph.idsDistinct, hgraph.edgesDistinct⟩
  have hnodup : graph.nodes.Nodup := List.Nodup.of_map _ hgraph.idsDistinct
  obtain ⟨start, hfilter⟩ :=
    (exists_filter_eq_singleton_iff hnodup).mpr hgraph.oneStart
  have hmem : start ∈ graph.nodes.filter (·.kind.isStart) := by
    rw [hfilter]
    exact List.mem_singleton_self start
  have hstart := List.mem_filter.mp hmem
  have hterminal :=
    terminalDefect?_eq_none_iff.mpr ⟨⟨start, hfilter⟩, hgraph.someFinish⟩
  have hendpoints := endpointDefect?_eq_none_iff.mpr fun edge hedge =>
    ⟨hgraph.sources edge hedge, hgraph.targets edge hedge⟩
  have hnodes :
      graph.nodes.findSome? (graph.nodeDefect? refusal?) = none := by
    refine List.findSome?_eq_none_iff.mpr fun node hnode =>
      nodeDefect?_eq_none_iff.mpr ?_
    exact ⟨⟨hgraph.startEntries node hnode, hgraph.entries node hnode⟩,
      hgraph.exits node hnode, hgraph.settings node hnode⟩
  have hfirst := start?_eq_some_of_filter hfilter
  have hreach := (reachDefect?_eq_none_iff hfirst hgraph.targets).mpr
    (hgraph.reachable start hstart.1 hstart.2)
  have hcycle : graph.cycleDefect? = none := by
    refine (cycleDefect?_eq_none_iff hgraph.sources hgraph.targets).mpr ?_
    intro id walk hwalk hne
    obtain ⟨node, hnode, hkind, edge, hedge, hid⟩ :=
      hgraph.cycles id walk hwalk hne
    exact ⟨edge, hedge, loops_eq_true_iff.mpr ⟨node, hnode, hkind, hid.symm⟩⟩
  simp only [defect?, Option.or_eq_none_iff]
  exact ⟨hnodeIds, hedgeIds, hterminal, hendpoints, hnodes, hreach, hcycle⟩

/-- A graph may run if and only if it is well-formed. -/
theorem defect?_eq_none_iff :
    graph.defect? refusal? = none ↔ WellFormed refusal? graph :=
  ⟨wellFormed_of_defect?_eq_none, WellFormed.defect?_eq_none⟩

end Workflow.Graph

/-! ## The edge by which a node is left -/

namespace Workflow

/-- The branches by which a kind of node is left; no branch stands for its
only edge. -/
def NodeKind.LeavesBy : NodeKind → Option Branch → Prop
  | .finish, _ => False
  | .ifElse _, branch => branch = some .whenTrue ∨ branch = some .whenFalse
  | .loop _, branch => branch = some .body ∨ branch = some .exit
  | _, branch => branch = none

namespace Graph

variable {graph : Graph}

/-- The edge by which a node is left: its only one, or the only one for a
branch. -/
structure Exit (graph : Graph) (id : String) (branch : Option Branch)
    (edge : Edge) : Prop where
  mem : edge ∈ graph.edges
  source : edge.source = id
  label : ∀ b, branch = some b → edge.branch? = some b
  unique : ∀ other ∈ graph.edges, other.source = id →
    (∀ b, branch = some b → other.branch? = some b) → other = edge

theorem mem_outgoing_iff {id : String} {edge : Edge} :
    edge ∈ graph.outgoing id ↔ edge ∈ graph.edges ∧ edge.source = id := by
  simp [outgoing]

theorem exit_of_outgoing_eq {id : String} {edge : Edge}
    (hout : graph.outgoing id = [edge]) :
    graph.Exit id none edge := by
  have hmem : ∀ other,
      other ∈ graph.edges ∧ other.source = id ↔ other = edge := by
    intro other
    rw [← mem_outgoing_iff, hout, List.mem_singleton]
  obtain ⟨hedge, hsource⟩ := (hmem edge).mpr rfl
  exact ⟨hedge, hsource, by simp, fun other hother hleaves _ =>
    (hmem other).mp ⟨hother, hleaves⟩⟩

theorem Fork.swap {id : String} {a b : Branch} (hfork : graph.Fork id a b) :
    graph.Fork id b a := by
  obtain ⟨first, second, hperm, ha, hb⟩ := hfork
  exact ⟨second, first, hperm.trans (.swap ..), hb, ha⟩

theorem exists_exit_of_fork {id : String} {a b : Branch} (hne : a ≠ b)
    (hfork : graph.Fork id a b) : ∃ edge, graph.Exit id (some a) edge := by
  obtain ⟨first, second, hperm, ha, hb⟩ := hfork
  have hmem : ∀ other, other ∈ graph.edges ∧ other.source = id ↔
      other = first ∨ other = second := by
    intro other
    rw [← mem_outgoing_iff, hperm.mem_iff]
    simp
  obtain ⟨hedge, hsource⟩ := (hmem first).mpr (.inl rfl)
  refine ⟨first, hedge, hsource, by simpa using ha, ?_⟩
  intro other hother hleaves hlabel
  rcases (hmem other).mp ⟨hother, hleaves⟩ with hfirst | rfl
  · exact hfirst
  · exact absurd (Option.some.inj ((hlabel a rfl).symm.trans hb)) hne

/-- Each branch that a kind of node can take has exactly one edge. -/
theorem WellFormed.exists_exit {refusal? : Json → Option String} {node : Node}
    {branch : Option Branch} (hgraph : WellFormed refusal? graph)
    (hnode : node ∈ graph.nodes) (hbranch : node.kind.LeavesBy branch) :
    ∃ edge, graph.Exit node.id branch edge := by
  have hexits := hgraph.exits node hnode
  unfold ExitsFit at hexits
  cases hkind : node.kind with
  | finish => simp [hkind, NodeKind.LeavesBy] at hbranch
  | ifElse condition =>
      simp only [hkind, NodeKind.LeavesBy] at hexits hbranch
      rcases hbranch with rfl | rfl
      · exact exists_exit_of_fork (by decide) hexits
      · exact exists_exit_of_fork (by decide) hexits.swap
  | loop config =>
      simp only [hkind, NodeKind.LeavesBy] at hexits hbranch
      rcases hbranch with rfl | rfl
      · exact exists_exit_of_fork (by decide) hexits
      · exact exists_exit_of_fork (by decide) hexits.swap
  | _ =>
      simp only [hkind, NodeKind.LeavesBy] at hexits hbranch
      obtain ⟨edge, hout⟩ := hexits
      subst hbranch
      exact ⟨edge, exit_of_outgoing_eq hout⟩

theorem find?_eq_some_of_unique {α : Type} {p : α → Bool} {items : List α}
    {item : α} (hitem : item ∈ items) (hp : p item = true)
    (hunique : ∀ other ∈ items, p other = true → other = item) :
    items.find? p = some item := by
  cases hfound : items.find? p with
  | none => exact absurd hp (List.find?_eq_none.mp hfound item hitem)
  | some other =>
      rw [hunique other (List.mem_of_find?_eq_some hfound)
        (List.find?_some hfound)]

theorem Exit.soleEdge?_eq {id : String} {edge : Edge}
    (hexit : graph.Exit id none edge) :
    graph.soleEdge? id = some edge := by
  refine find?_eq_some_of_unique hexit.mem (by simpa using hexit.source) ?_
  intro other hother hleaves
  exact hexit.unique other hother (by simpa using hleaves) (by simp)

theorem Exit.branchEdge?_eq {id : String} {branch : Branch} {edge : Edge}
    (hexit : graph.Exit id (some branch) edge) :
    graph.branchEdge? id branch = some edge := by
  refine find?_eq_some_of_unique hexit.mem ?_ ?_
  · simp [hexit.source, hexit.label branch rfl]
  · intro other hother hleaves
    simp only [Bool.and_eq_true, decide_eq_true_eq] at hleaves
    refine hexit.unique other hother hleaves.1 ?_
    rintro b ⟨⟩
    exact hleaves.2

/-- Ids name at most one node each. -/
theorem WellFormed.node?_eq_some_iff {refusal? : Json → Option String}
    {node : Node} (hgraph : WellFormed refusal? graph) :
    graph.node? node.id = some node ↔ node ∈ graph.nodes := by
  constructor
  · exact List.mem_of_find?_eq_some
  · intro hnode
    refine find?_eq_some_of_unique hnode (by simp) ?_
    intro other hother hid
    exact List.inj_on_of_nodup_map hgraph.idsDistinct hother hnode
      (by simpa using hid)

end Graph

end Workflow
