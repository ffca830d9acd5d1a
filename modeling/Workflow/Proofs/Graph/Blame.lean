import Workflow.Proofs.Graph.WellFormed

/-!
# What a defect says

The rules for graphs are checked one after the other, and the first defect is
reported.  `Blames` says for each check what is true of a graph when it finds a
defect: which rule is broken, by which node, and that the nodes before it in
the document keep all rules of that check.  The main statement is that a defect
blames in this sense, and at the first check that the graph does not pass.

For a cycle there is no first node.  The one that is blamed comes out of the
middle of a search, and all that is said of it is that it lies on a cycle that
touches no while node.
-/

namespace Workflow.Graph

variable {graph : Graph} {refusal? : Json → Option String} {node : Node}
  {defect : Defect}

/-! ## Rules for single nodes -/

/-- A node keeps the rules for its edges, their labels and its settings. -/
def Fits (refusal? : Json → Option String) (graph : Graph) (node : Node) : Prop :=
  graph.EntriesFit node ∧ graph.ExitsFit node ∧ SettingsFit refusal? node

/-- A kind of node that is left by a single edge. -/
def Straight : NodeKind → Prop
  | .finish | .ifElse _ | .loop _ => False
  | _ => True

/-- A setting that a kind of node needs is not there. -/
inductive Lacks : NodeKind → String → Prop
  | instructions {config : AgentConfig}
      (hblank : ¬ Meaningful config.instructions) :
      Lacks (.agent config) "instructions"
  | script {config : TransformConfig} (hblank : ¬ Meaningful config.script) :
      Lacks (.transform config) "script"
  | condition {condition : String} (hblank : ¬ Meaningful condition) :
      Lacks (.ifElse condition) "condition"
  | whileCondition {config : WhileConfig}
      (hblank : ¬ Meaningful config.condition) :
      Lacks (.loop config) "whileCondition"
  | server {config : ToolCallConfig} (hempty : config.server = "") :
      Lacks (.tool config) "server"
  | tool {config : ToolCallConfig} (hserver : config.server ≠ "")
      (hempty : config.tool = "") : Lacks (.tool config) "tool"

/-- A node breaks the rule that a defect speaks of, and keeps those that are
checked before. -/
inductive Breaks (refusal? : Json → Option String) (graph : Graph) (node : Node) :
    Defect → Prop
  | enteredStart (hstart : node.kind.isStart = true)
      (hincoming : graph.incoming node.id ≠ []) :
      Breaks refusal? graph node (.enteredStart node.id)
  | neverEntered (hstart : node.kind.isStart = false)
      (hincoming : graph.incoming node.id = []) :
      Breaks refusal? graph node (.neverEntered node.id)
  | leftFinish (hentries : graph.EntriesFit node) (hkind : node.kind = .finish)
      (hexits : graph.outgoing node.id ≠ []) :
      Breaks refusal? graph node (.leftFinish node.id)
  | badBranches {condition : String} (hentries : graph.EntriesFit node)
      (hkind : node.kind = .ifElse condition)
      (hexits : ¬ graph.Fork node.id .whenTrue .whenFalse) :
      Breaks refusal? graph node (.badBranches node.id)
  | badLoop {config : WhileConfig} (hentries : graph.EntriesFit node)
      (hkind : node.kind = .loop config)
      (hexits : ¬ graph.Fork node.id .body .exit) :
      Breaks refusal? graph node (.badLoop node.id)
  | wrongDegree (hentries : graph.EntriesFit node) (hkind : Straight node.kind)
      (hexits : (graph.outgoing node.id).length ≠ 1) :
      Breaks refusal? graph node
        (.wrongDegree node.id node.kind.label (graph.outgoing node.id).length)
  | emptySetting {setting : String} (hentries : graph.EntriesFit node)
      (hexits : graph.ExitsFit node) (hlacks : Lacks node.kind setting) :
      Breaks refusal? graph node (.emptySetting node.id setting)
  | badSchema {config : AgentConfig} {schema : Json} {reason : String}
      (hentries : graph.EntriesFit node) (hexits : graph.ExitsFit node)
      (hkind : node.kind = .agent config)
      (hinstructions : Meaningful config.instructions)
      (hformat : config.outputFormat = .json (some schema))
      (hrefused : refusal? schema = some reason) :
      Breaks refusal? graph node (.badSchema node.id reason)

theorem Lacks.not_settingsFit {setting : String}
    (hlacks : Lacks node.kind setting) : ¬ SettingsFit refusal? node := by
  intro hfit
  unfold SettingsFit at hfit
  generalize hkind : node.kind = kind at hlacks hfit
  cases hlacks with
  | instructions hblank => exact hblank hfit.1
  | script hblank => exact hblank hfit
  | condition hblank => exact hblank hfit
  | whileCondition hblank => exact hblank hfit
  | server hempty => exact hfit.1 hempty
  | tool _ hempty => exact hfit.2 hempty

theorem Breaks.node? (hbreaks : Breaks refusal? graph node defect) :
    defect.node? = some node.id := by
  cases hbreaks <;> rfl

/-- A straight node is left by one edge. -/
theorem exitsFit_iff (hkind : Straight node.kind) :
    graph.ExitsFit node ↔ (graph.outgoing node.id).length = 1 := by
  rw [ExitsFit, List.length_eq_one_iff]
  cases hnode : node.kind with
  | finish | ifElse | loop => simp [Straight, hnode] at hkind
  | _ => exact Iff.rfl

theorem Breaks.not_fits (hbreaks : Breaks refusal? graph node defect) :
    ¬ Fits refusal? graph node := by
  rintro ⟨hentries, hexits, hsettings⟩
  cases hbreaks with
  | enteredStart hstart hincoming => exact hincoming (hentries.1 hstart)
  | neverEntered hstart hincoming => exact hentries.2 hstart hincoming
  | leftFinish _ hkind hbad =>
      rw [ExitsFit, hkind] at hexits
      exact hbad hexits
  | badBranches _ hkind hbad =>
      rw [ExitsFit, hkind] at hexits
      exact hbad hexits
  | badLoop _ hkind hbad =>
      rw [ExitsFit, hkind] at hexits
      exact hbad hexits
  | wrongDegree _ hkind hbad => exact hbad ((exitsFit_iff hkind).mp hexits)
  | emptySetting _ _ hlacks => exact hlacks.not_settingsFit hsettings
  | badSchema _ _ hkind _ hformat hrefused =>
      rw [SettingsFit, hkind] at hsettings
      rw [hsettings.2 _ hformat] at hrefused
      contradiction

theorem breaks_of_degreeDefect? (hdefect : graph.degreeDefect? node = some defect) :
    Breaks refusal? graph node defect := by
  have hbranches := pairOf_eq_true_iff (graph.outgoing node.id)
    (show Branch.whenTrue ≠ .whenFalse by decide)
  have hloop := pairOf_eq_true_iff (graph.outgoing node.id)
    (show Branch.body ≠ .exit by decide)
  unfold degreeDefect? at hdefect
  dsimp only at hdefect
  split at hdefect
  next hentered =>
    obtain rfl := Option.some.inj hdefect
    simp only [Bool.and_eq_true, decide_eq_true_eq] at hentered
    exact .enteredStart hentered.1 (List.length_pos_iff.mp hentered.2)
  next hnotEntered =>
    split at hdefect
    next hnever =>
      obtain rfl := Option.some.inj hdefect
      simp only [Bool.and_eq_true, Bool.not_eq_true', decide_eq_true_eq] at hnever
      exact .neverEntered hnever.1 (List.length_eq_zero_iff.mp hnever.2)
    next hnotNever =>
      have hentries : graph.EntriesFit node := by
        constructor
        · intro hstart
          simpa [hstart] using hnotEntered
        · intro hstart
          simpa [hstart] using hnotNever
      split at hdefect
      next hkind =>
        split at hdefect
        · contradiction
        · next hexits =>
            obtain rfl := Option.some.inj hdefect
            exact .leftFinish hentries hkind (by simpa using hexits)
      next condition hkind =>
        split at hdefect
        · contradiction
        · next hexits =>
            obtain rfl := Option.some.inj hdefect
            exact .badBranches hentries hkind fun hfork => hexits (hbranches.mpr hfork)
      next config hkind =>
        split at hdefect
        · contradiction
        · next hexits =>
            obtain rfl := Option.some.inj hdefect
            exact .badLoop hentries hkind fun hfork => hexits (hloop.mpr hfork)
      next hfinish hifElse hloop =>
        split at hdefect
        · contradiction
        · next hexits =>
            obtain rfl := Option.some.inj hdefect
            refine .wrongDegree hentries ?_ hexits
            unfold Straight
            split
            · exact hfinish ‹_›
            · exact hifElse _ ‹_›
            · exact hloop _ ‹_›
            · trivial

/-- A setting that must be more than white space and is not. -/
theorem eq_emptySetting_of_blank {setting value : String}
    (hdefect : (if Text.blank value then some (.emptySetting node.id setting)
      else none) = some defect) :
    ¬ Meaningful value ∧ defect = .emptySetting node.id setting := by
  split at hdefect
  next hblank =>
    refine ⟨fun hmeaningful => ?_, (Option.some.inj hdefect).symm⟩
    rw [blank_eq_false_iff.mpr hmeaningful] at hblank
    contradiction
  next => contradiction

theorem breaks_of_settingDefect? (hentries : graph.EntriesFit node)
    (hexits : graph.ExitsFit node)
    (hdefect : settingDefect? refusal? node = some defect) :
    Breaks refusal? graph node defect := by
  have hempty {setting : String} (hlacks : Lacks node.kind setting) :
      Breaks refusal? graph node (.emptySetting node.id setting) :=
    .emptySetting hentries hexits hlacks
  unfold settingDefect? at hdefect
  dsimp only at hdefect
  split at hdefect
  next config hkind =>
    rcases Option.or_eq_some_iff.mp hdefect with hfirst | ⟨hnone, hschema⟩
    · obtain ⟨hblank, rfl⟩ := eq_emptySetting_of_blank hfirst
      exact hempty (hkind ▸ .instructions hblank)
    · have hinstructions : Meaningful config.instructions := by
        apply blank_eq_false_iff.mp
        simpa using hnone
      split at hschema
      next schema hformat =>
        obtain ⟨reason, hrefused, rfl⟩ := Option.map_eq_some_iff.mp hschema
        exact .badSchema hentries hexits hkind hinstructions hformat hrefused
      next => contradiction
  next config hkind =>
    obtain ⟨hblank, rfl⟩ := eq_emptySetting_of_blank hdefect
    exact hempty (hkind ▸ .script hblank)
  next condition hkind =>
    obtain ⟨hblank, rfl⟩ := eq_emptySetting_of_blank hdefect
    exact hempty (hkind ▸ .condition hblank)
  next config hkind =>
    obtain ⟨hblank, rfl⟩ := eq_emptySetting_of_blank hdefect
    exact hempty (hkind ▸ .whileCondition hblank)
  next config hkind =>
    split at hdefect
    next hserver =>
      obtain rfl := Option.some.inj hdefect
      exact hempty (hkind ▸ .server hserver)
    next hserver =>
      split at hdefect
      next htool =>
        obtain rfl := Option.some.inj hdefect
        exact hempty (hkind ▸ .tool hserver htool)
      next => contradiction
  next => contradiction

theorem breaks_of_nodeDefect?
    (hdefect : graph.nodeDefect? refusal? node = some defect) :
    Breaks refusal? graph node defect := by
  rcases Option.or_eq_some_iff.mp hdefect with hdegree | ⟨hnone, hsetting⟩
  · exact breaks_of_degreeDefect? hdegree
  · obtain ⟨hentries, hexits⟩ := degreeDefect?_eq_none_iff.mp hnone
    exact breaks_of_settingDefect? hentries hexits hsetting

/-! ## Checks -/

/-- What is checked of a graph. -/
inductive Check where
  | ids
  | terminals
  | endpoints
  | nodes
  | reach
  | cycles
deriving DecidableEq

/-- A node that a walk from a start node leads to. -/
def Reached (graph : Graph) (node : Node) : Prop :=
  ∃ start ∈ graph.nodes, start.kind.isStart = true ∧
    ∃ walk, Walk graph start.id walk node.id

namespace Check

/-- All checks, in their order. -/
def all : List Check :=
  [ids, terminals, endpoints, nodes, reach, cycles]

/-- The place of a check in the order. -/
def rank : Check → Nat
  | ids => 0
  | terminals => 1
  | endpoints => 2
  | nodes => 3
  | reach => 4
  | cycles => 5

theorem mem_all (check : Check) : check ∈ all := by
  cases check <;> decide

theorem mem_of_rank_lt {earlier check : Check} {before after : List Check}
    (hall : all = before ++ check :: after) (hlt : earlier.rank < check.rank) :
    earlier ∈ before := by
  have hsorted : all.Pairwise fun check later => check.rank < later.rank := by
    decide
  rw [hall, List.pairwise_append, List.pairwise_cons] at hsorted
  have hmem := mem_all earlier
  rw [hall, List.mem_append, List.mem_cons] at hmem
  rcases hmem with hbefore | rfl | hafter
  · exact hbefore
  · exact absurd hlt (Nat.lt_irrefl _)
  · exact absurd hlt (Nat.lt_asymm (hsorted.2.1.1 earlier hafter))

/-- The rules that a graph keeps when it passes a check. -/
def Passed (refusal? : Json → Option String) (graph : Graph) : Check → Prop
  | ids => (∀ node ∈ graph.nodes, node.id ≠ "") ∧
      (graph.nodes.map (·.id)).Nodup ∧ (graph.edges.map (·.id)).Nodup
  | terminals => (∃! start, start ∈ graph.nodes ∧ start.kind.isStart = true) ∧
      ∃ finish ∈ graph.nodes, finish.kind.isFinish = true
  | endpoints => ∀ edge ∈ graph.edges, edge.source ∈ graph.nodes.map (·.id) ∧
      edge.target ∈ graph.nodes.map (·.id)
  | nodes => ∀ node ∈ graph.nodes, Fits refusal? graph node
  | reach => ∀ node ∈ graph.nodes, Reached graph node
  | cycles => ∀ id walk, Walk graph id walk id → walk ≠ [] →
      ∃ edge ∈ walk, graph.loops edge.source = true

/-- The first defect that a check finds. -/
def defect? (refusal? : Json → Option String) (graph : Graph) :
    Check → Option Defect
  | ids => (nodeIdDefect? [] graph.nodes).or (edgeIdDefect? [] graph.edges)
  | terminals => graph.terminalDefect?
  | endpoints => graph.endpointDefect?
  | nodes => graph.nodes.findSome? (graph.nodeDefect? refusal?)
  | reach => graph.reachDefect?
  | cycles => graph.cycleDefect?

end Check

variable {check : Check}

theorem findSome?_cons_eq_or {α β : Type} (f : α → Option β) (item : α)
    (rest : List α) :
    (item :: rest).findSome? f = (f item).or (rest.findSome? f) := by
  rw [List.findSome?_cons]
  cases f item <;> rfl

theorem defect?_eq_findSome? :
    graph.defect? refusal? =
      Check.all.findSome? (Check.defect? refusal? graph) := by
  simp only [Check.all, findSome?_cons_eq_or, List.findSome?_nil, Check.defect?,
    Option.or_none, Option.or_assoc, Graph.defect?]

/-- A defect is found by one check, and by none before it. -/
theorem exists_check (hdefect : graph.defect? refusal? = some defect) :
    ∃ check : Check, check.defect? refusal? graph = some defect ∧
      ∀ earlier : Check, earlier.rank < check.rank →
        earlier.defect? refusal? graph = none := by
  rw [defect?_eq_findSome?, List.findSome?_eq_some_iff] at hdefect
  obtain ⟨before, check, after, hall, hfound, hbefore⟩ := hdefect
  exact ⟨check, hfound, fun earlier hlt =>
    hbefore earlier (Check.mem_of_rank_lt hall hlt)⟩

/-- A graph that has passed the first two checks has one start node. -/
theorem exists_start (hids : Check.ids.Passed refusal? graph)
    (hterminals : Check.terminals.Passed refusal? graph) :
    ∃ start, graph.start? = some start ∧
      ∀ node, Reached graph node ↔ ∃ walk, Walk graph start.id walk node.id := by
  obtain ⟨-, hdistinct, -⟩ := hids
  obtain ⟨hone, -⟩ := hterminals
  have hnodup : graph.nodes.Nodup := List.Nodup.of_map _ hdistinct
  obtain ⟨start, hfilter⟩ := (exists_filter_eq_singleton_iff hnodup).mpr hone
  have hmem (node : Node) :
      node ∈ graph.nodes ∧ node.kind.isStart = true ↔ node = start := by
    have hmem : node ∈ graph.nodes.filter (·.kind.isStart) ↔
        node ∈ graph.nodes ∧ node.kind.isStart = true := List.mem_filter
    rw [hfilter, List.mem_singleton] at hmem
    exact hmem.symm
  refine ⟨start, start?_eq_some_of_filter hfilter, fun node => ?_⟩
  constructor
  · rintro ⟨other, hother, hkind, hwalk⟩
    obtain rfl := (hmem other).mp ⟨hother, hkind⟩
    exact hwalk
  · intro hwalk
    obtain ⟨hnode, hkind⟩ := (hmem start).mpr rfl
    exact ⟨start, hnode, hkind, hwalk⟩

/-- Of a graph that has passed all checks before it, a check finds no defect just
if the graph passes it. -/
theorem Check.defect?_none_iff_passed
    (hearlier : ∀ earlier : Check, earlier.rank < check.rank →
      earlier.Passed refusal? graph) :
    check.defect? refusal? graph = none ↔ check.Passed refusal? graph := by
  cases check with
  | ids => rw [defect?, Option.or_eq_none_iff, idDefects_eq_none_iff, Passed]
  | terminals =>
      obtain ⟨-, hdistinct, -⟩ := hearlier .ids (by decide)
      have hnodup : graph.nodes.Nodup := List.Nodup.of_map _ hdistinct
      rw [defect?, terminalDefect?_eq_none_iff,
        exists_filter_eq_singleton_iff hnodup, Passed]
  | endpoints => rw [defect?, endpointDefect?_eq_none_iff, Passed]
  | nodes =>
      rw [defect?, List.findSome?_eq_none_iff, Passed]
      exact forall₂_congr fun node _ => nodeDefect?_eq_none_iff
  | reach =>
      have hends := hearlier .endpoints (by decide)
      obtain ⟨start, hstart, hreached⟩ :=
        exists_start (hearlier .ids (by decide)) (hearlier .terminals (by decide))
      rw [defect?, Passed,
        reachDefect?_eq_none_iff hstart fun edge hedge => (hends edge hedge).2]
      exact forall₂_congr fun node _ => (hreached node).symm
  | cycles =>
      have hends := hearlier .endpoints (by decide)
      exact cycleDefect?_eq_none_iff (fun edge hedge => (hends edge hedge).1)
        fun edge hedge => (hends edge hedge).2

theorem Check.passed_of_defect?_eq_none
    (hnone : ∀ earlier : Check, earlier.rank < check.rank →
      earlier.defect? refusal? graph = none) :
    ∀ earlier : Check, earlier.rank < check.rank →
      earlier.Passed refusal? graph := by
  intro earlier hlt
  induction hrank : earlier.rank using Nat.strong_induction_on
    generalizing earlier with
  | _ rank ih =>
      subst hrank
      refine (defect?_none_iff_passed fun other hother => ?_).mp (hnone earlier hlt)
      exact ih other.rank hother other (Nat.lt_trans hother hlt) rfl

/-! ## What is blamed -/

/-- What is true of a graph when a check reports a defect. -/
inductive Blames (refusal? : Json → Option String) (graph : Graph) :
    Check → Defect → Prop
  | emptyId {node : Node} (hnode : node ∈ graph.nodes) (hempty : node.id = "") :
      Blames refusal? graph .ids .emptyId
  | repeatedNode {before after : List Node} {node : Node}
      (hnodes : graph.nodes = before ++ node :: after)
      (hbefore : (before.map (·.id)).Nodup)
      (hseen : node.id ∈ before.map (·.id)) :
      Blames refusal? graph .ids (.repeatedNode node.id)
  | repeatedEdge {before after : List Edge} {edge : Edge}
      (hedges : graph.edges = before ++ edge :: after)
      (hbefore : (before.map (·.id)).Nodup)
      (hseen : edge.id ∈ before.map (·.id)) :
      Blames refusal? graph .ids (.repeatedEdge edge.id)
  | noStart (hnone : ∀ node ∈ graph.nodes, node.kind.isStart = false) :
      Blames refusal? graph .terminals .noStart
  | secondStart {first second : Node} {others : List Node}
      (hstarts : graph.nodes.filter (·.kind.isStart) =
        first :: second :: others) :
      Blames refusal? graph .terminals (.secondStart second.id)
  | noFinish (hnone : ∀ node ∈ graph.nodes, node.kind.isFinish = false) :
      Blames refusal? graph .terminals .noFinish
  | unknownEndpoint {before after : List Edge} {edge : Edge} {endpoint : String}
      (hedges : graph.edges = before ++ edge :: after)
      (hbefore : ∀ other ∈ before, other.source ∈ graph.nodes.map (·.id) ∧
        other.target ∈ graph.nodes.map (·.id))
      (hendpoint : endpoint = edge.source ∨
        edge.source ∈ graph.nodes.map (·.id) ∧ endpoint = edge.target)
      (hunknown : endpoint ∉ graph.nodes.map (·.id)) :
      Blames refusal? graph .endpoints (.unknownEndpoint edge.id endpoint)
  | breaks {before after : List Node} {node : Node} {defect : Defect}
      (hnodes : graph.nodes = before ++ node :: after)
      (hbefore : ∀ other ∈ before, Fits refusal? graph other)
      (hbreaks : Breaks refusal? graph node defect)
      (hnamed : defect.node? = some node.id) :
      Blames refusal? graph .nodes defect
  | unreachable {before after : List Node} {node : Node}
      (hnodes : graph.nodes = before ++ node :: after)
      (hbefore : ∀ other ∈ before, Reached graph other)
      (hnode : ¬ Reached graph node) :
      Blames refusal? graph .reach (.unreachable node.id)
  | cycle {id : String} (hcycle : PlainCycle graph id) :
      Blames refusal? graph .cycles (.cycle id)

theorem exists_of_nodeIdDefect? {seen : List String} {nodes : List Node}
    (hdefect : nodeIdDefect? seen nodes = some defect) :
    ∃ before node after, nodes = before ++ node :: after ∧
      nodeIdDefect? seen before = none ∧
      (node.id = "" ∧ defect = .emptyId ∨
        (node.id ∈ seen ∨ node.id ∈ before.map (·.id)) ∧
          defect = .repeatedNode node.id) := by
  induction nodes generalizing seen with
  | nil => contradiction
  | cons node rest ih =>
      rw [nodeIdDefect?] at hdefect
      split at hdefect
      next hempty =>
        exact ⟨[], node, rest, rfl, rfl,
          .inl ⟨hempty, (Option.some.inj hdefect).symm⟩⟩
      next hnonempty =>
        split at hdefect
        next hseen =>
          have hmem : node.id ∈ seen := by simpa using hseen
          exact ⟨[], node, rest, rfl, rfl,
            .inr ⟨.inl hmem, (Option.some.inj hdefect).symm⟩⟩
        next hfresh =>
          obtain ⟨before, other, after, rfl, hbefore, hother⟩ := ih hdefect
          refine ⟨node :: before, other, after, rfl, ?_, ?_⟩
          · rw [nodeIdDefect?, if_neg hnonempty, if_neg hfresh, hbefore]
          · refine hother.imp_right (And.imp_left ?_)
            simp only [List.mem_cons, List.map_cons]
            tauto

theorem exists_of_edgeIdDefect? {seen : List String} {edges : List Edge}
    (hdefect : edgeIdDefect? seen edges = some defect) :
    ∃ before edge after, edges = before ++ edge :: after ∧
      edgeIdDefect? seen before = none ∧
      (edge.id ∈ seen ∨ edge.id ∈ before.map (·.id)) ∧
      defect = .repeatedEdge edge.id := by
  induction edges generalizing seen with
  | nil => contradiction
  | cons edge rest ih =>
      rw [edgeIdDefect?] at hdefect
      split at hdefect
      next hseen =>
        have hmem : edge.id ∈ seen := by simpa using hseen
        exact ⟨[], edge, rest, rfl, rfl, .inl hmem,
          (Option.some.inj hdefect).symm⟩
      next hfresh =>
        obtain ⟨before, other, after, rfl, hbefore, hseen, hother⟩ := ih hdefect
        refine ⟨edge :: before, other, after, rfl, ?_, ?_, hother⟩
        · rw [edgeIdDefect?, if_neg hfresh, hbefore]
        · simp only [List.mem_cons, List.map_cons] at hseen ⊢
          tauto

theorem blames_ids (hdefect : Check.ids.defect? refusal? graph = some defect) :
    Blames refusal? graph .ids defect := by
  rcases Option.or_eq_some_iff.mp hdefect with hnode | ⟨-, hedge⟩
  · obtain ⟨before, node, after, hnodes, hbefore, hbroken⟩ :=
      exists_of_nodeIdDefect? hnode
    rcases hbroken with ⟨hempty, rfl⟩ | ⟨hseen, rfl⟩
    · exact .emptyId (hnodes ▸ List.mem_append_cons_self) hempty
    · have hdistinct := (nodeIdDefect?_eq_none_iff.mp hbefore).2
      exact .repeatedNode hnodes hdistinct (hseen.resolve_left List.not_mem_nil)
  · obtain ⟨before, edge, after, hedges, hbefore, hseen, rfl⟩ :=
      exists_of_edgeIdDefect? hedge
    have hdistinct := (edgeIdDefect?_eq_none_iff.mp hbefore).2
    exact .repeatedEdge hedges hdistinct (hseen.resolve_left List.not_mem_nil)

theorem blames_terminals (hdefect : graph.terminalDefect? = some defect) :
    Blames refusal? graph .terminals defect := by
  unfold terminalDefect? at hdefect
  split at hdefect
  next hstarts =>
    obtain rfl := Option.some.inj hdefect
    exact .noStart (by simpa [List.filter_eq_nil_iff] using hstarts)
  next start hstarts =>
    split at hdefect
    · contradiction
    · next hfinish =>
        obtain rfl := Option.some.inj hdefect
        exact .noFinish (by simpa using hfinish)
  next first second others hstarts =>
    obtain rfl := Option.some.inj hdefect
    exact .secondStart hstarts

theorem blames_endpoints (hdefect : graph.endpointDefect? = some defect) :
    Blames refusal? graph .endpoints defect := by
  have hknown (id : String) :
      (graph.node? id).isNone = false ↔ id ∈ graph.nodes.map (·.id) := by
    rw [← node?_isSome_iff, Option.isNone_eq_false_iff]
  have hunknown (id : String) :
      (graph.node? id).isNone = true ↔ id ∉ graph.nodes.map (·.id) := by
    rw [← hknown, Bool.not_eq_false]
  obtain ⟨before, edge, after, hedges, hedge, hbefore⟩ :=
    List.findSome?_eq_some_iff.mp hdefect
  have hends : ∀ other ∈ before, other.source ∈ graph.nodes.map (·.id) ∧
      other.target ∈ graph.nodes.map (·.id) := by
    intro other hother
    have hnone := hbefore other hother
    rw [← hknown, ← hknown]
    cases hsource : (graph.node? other.source).isNone <;>
      cases htarget : (graph.node? other.target).isNone <;> simp_all
  split at hedge
  next hsource =>
    obtain rfl := Option.some.inj hedge
    exact .unknownEndpoint hedges hends (.inl rfl) ((hunknown _).mp hsource)
  next hsource =>
    split at hedge
    next htarget =>
      obtain rfl := Option.some.inj hedge
      refine .unknownEndpoint hedges hends (.inr ⟨?_, rfl⟩)
        ((hunknown _).mp htarget)
      exact (hknown _).mp (eq_false_of_ne_true hsource)
    next => contradiction

theorem blames_nodes (hdefect : Check.nodes.defect? refusal? graph = some defect) :
    Blames refusal? graph .nodes defect := by
  obtain ⟨before, node, after, hnodes, hnode, hbefore⟩ :=
    List.findSome?_eq_some_iff.mp hdefect
  have hbreaks := breaks_of_nodeDefect? hnode
  exact .breaks hnodes
    (fun other hother => nodeDefect?_eq_none_iff.mp (hbefore other hother))
    hbreaks hbreaks.node?

theorem blames_reach
    (hpassed : ∀ earlier : Check, earlier.rank < Check.reach.rank →
      earlier.Passed refusal? graph)
    (hdefect : graph.reachDefect? = some defect) :
    Blames refusal? graph .reach defect := by
  have hends := hpassed .endpoints (by decide)
  obtain ⟨start, hstart, hreached⟩ :=
    exists_start (hpassed .ids (by decide)) (hpassed .terminals (by decide))
  have hid : start.id ∈ graph.nodes.map (·.id) :=
    List.mem_map_of_mem (List.mem_of_find?_eq_some hstart)
  have hfound (node : Node) :
      node.id ∈ graph.reachableFrom start.id ↔ Reached graph node := by
    rw [hreached, mem_reachableFrom_iff (fun edge hedge => (hends edge hedge).2) hid]
  rw [reachDefect?, hstart] at hdefect
  obtain ⟨node, hnode, rfl⟩ := Option.map_eq_some_iff.mp hdefect
  obtain ⟨hmissed, before, after, hnodes, hbefore⟩ :=
    List.find?_eq_some_iff_append.mp hnode
  refine .unreachable hnodes ?_ ?_
  · intro other hother
    exact (hfound other).mp (by simpa using hbefore other hother)
  · rw [← hfound]
    simpa using hmissed

theorem Check.blames
    (hpassed : ∀ earlier : Check, earlier.rank < check.rank →
      earlier.Passed refusal? graph)
    (hdefect : check.defect? refusal? graph = some defect) :
    Blames refusal? graph check defect := by
  cases check with
  | ids => exact blames_ids hdefect
  | terminals => exact blames_terminals hdefect
  | endpoints => exact blames_endpoints hdefect
  | nodes => exact blames_nodes hdefect
  | reach => exact blames_reach hpassed hdefect
  | cycles =>
      obtain ⟨id, rfl, hcycle⟩ := plainCycle_of_cycleDefect? hdefect
      exact .cycle hcycle

/-- The defect that is reported blames at the first check that the graph does
not pass. -/
theorem defect?_blames (hdefect : graph.defect? refusal? = some defect) :
    ∃ check : Check, Blames refusal? graph check defect ∧
      ¬ check.Passed refusal? graph ∧
      ∀ earlier : Check, earlier.rank < check.rank →
        earlier.Passed refusal? graph := by
  obtain ⟨check, hfound, hnone⟩ := exists_check hdefect
  have hpassed := Check.passed_of_defect?_eq_none hnone
  refine ⟨check, Check.blames hpassed hfound, ?_, hpassed⟩
  rw [← Check.defect?_none_iff_passed hpassed, hfound]
  exact Option.some_ne_none defect

/-! ## A graph that goes round -/

/-- A node is repeated until a condition holds, but not by a while node. -/
def retrying : Graph where
  nodes := [⟨"begin", none, .start []⟩, ⟨"try", none, .transform ⟨"x", none⟩⟩,
    ⟨"test", none, .ifElse "done"⟩, ⟨"stop", none, .finish⟩]
  edges := [⟨"1", "begin", "try", none⟩, ⟨"2", "try", "test", none⟩,
    ⟨"3", "test", "stop", some "true"⟩, ⟨"4", "test", "try", some "false"⟩]

theorem cycleDefect?_retrying :
    retrying.cycleDefect? = some (.cycle "try") := by
  have hbegin : retrying.plainSuccessors "begin" = ["try"] := by decide
  have htry : retrying.plainSuccessors "try" = ["test"] := by decide
  have htest : retrying.plainSuccessors "test" = ["stop", "try"] := by decide
  have hstop : retrying.plainSuccessors "stop" = [] := by decide
  have hsearch : retrying.search 5 ["begin"] "begin" [] = .error "try" := by
    simp [search, searchAll, hbegin, htry, htest, hstop, Except.map]
  have hfrom (rest : List Node) :
      retrying.searchFrom (⟨"begin", none, .start []⟩ :: rest) [] =
        .error "try" := by
    have hlength : retrying.nodes.length = 4 := rfl
    simp [searchFrom, hlength, hsearch]
  have hall : retrying.searchFrom retrying.nodes [] = .error "try" := hfrom _
  rw [cycleDefect?, hall]

theorem defect?_retrying :
    retrying.defect? (fun _ => none) = some (.cycle "try") := by
  have hids : nodeIdDefect? [] retrying.nodes = none := by decide
  have hedges : edgeIdDefect? [] retrying.edges = none := by decide
  have hterminals : retrying.terminalDefect? = none := by decide
  have hends : retrying.endpointDefect? = none := by decide
  have hnodes : retrying.nodes.findSome? (retrying.nodeDefect? fun _ => none) =
      none := by decide +kernel
  have hreach : retrying.reachDefect? = none := by decide +kernel
  simp only [defect?, hids, hedges, hterminals, hends, hnodes, hreach,
    cycleDefect?_retrying, Option.none_or]

theorem defect?_blames_retrying :
    retrying.defect? (fun _ => none) = some (.cycle "try") ∧
      PlainCycle retrying "try" ∧
      ∀ node ∈ retrying.nodes, Reached retrying node := by
  obtain ⟨check, hblames, -, hpassed⟩ := defect?_blames defect?_retrying
  cases hblames with
  | breaks _ _ hbreaks => cases hbreaks
  | cycle hcycle =>
      exact ⟨defect?_retrying, hcycle, hpassed .reach (by decide)⟩

end Workflow.Graph
