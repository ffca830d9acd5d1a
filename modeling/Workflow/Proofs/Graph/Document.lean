import Workflow.Graph.Wire
import Workflow.Proofs.Wire.Gives
import Workflow.Proofs.Wire.Reads

/-!
# Graphs as documents

A graph that was loaded is `Storable`: its numbers fit the widths that they are
read in, and its arbitrary values are canonical, and definite where they may be
absent (`storable_of_ofJson`, `storable_of_ofText`).  A storable graph is read
back off its document as it was, with the settings of all eight kinds of nodes
(`Graph.reads_toJson`).
-/

namespace Workflow

open Wire (Decoder Fields exists_of_map)

namespace Json

theorem forall_mem_optional {name : String} {value : Option Json}
    {P : String × Json → Prop} :
    (∀ member ∈ optional name value, P member) ↔
      ∀ present ∈ value, P (name, present) := by
  cases value <;> simp [optional]

@[simp] theorem get?_optional_reverse (name key : String) (value : Option Json) :
    Assoc.get? (optional name value).reverse key =
      if name = key then value else none := by
  cases value <;> simp [optional, Assoc.get?]

@[simp] theorem get?_ite_reverse {p : Prop} [Decidable p] (name key : String)
    (value : Json) :
    Assoc.get? (if p then [] else [(name, value)]).reverse key =
      if ¬p ∧ name = key then some value else none := by
  split <;> simp_all

/-- The members of an object that is built of a list. -/
theorem reads_ofMembers {α : Type} {what : String} {fields : Fields α}
    {listed : List (String × Json)} {x : α}
    (hreads : (Assoc.ofList listed).Sorted → fields.Reads (Assoc.ofList listed) x) :
    (Wire.record what fields).Reads (ofMembers listed) x :=
  Decoder.reads_record (hreads (Assoc.sorted_ofList listed))

end Json

/-! ## Settings -/

theorem VariableType.reads_label (type : VariableType) :
    decoder.Reads (.text type.label) type :=
  Decoder.reads_variant (by cases type <;> rfl)

theorem Decision.reads_label (decision : Decision) :
    decoder.Reads (.text decision.label) decision :=
  Decoder.reads_variant (by cases decision <;> rfl)

namespace InputVariable

/-- A default value is told from an absent one. -/
def Storable (declared : InputVariable) : Prop :=
  Json.Definite declared.default?

variable {declared : InputVariable}

theorem canonical_toJson (hstorable : declared.Storable) :
    declared.toJson.Canonical := by
  refine Json.canonical_ofMembers ?_
  simpa [List.forall_mem_append, Json.forall_mem_optional, -Prod.forall,
    -List.mem_append] using hstorable.canonical

theorem reads_toJson (hstorable : declared.Storable) :
    decoder.Reads declared.toJson declared := by
  obtain ⟨name, type, required, default?⟩ := declared
  refine Json.reads_ofMembers fun hsorted => ?_
  refine .seq (.seq (.seq (.map ?_) ?_) ?_) ?_
  · exact Fields.reads_required hsorted (by simp) (Decoder.reads_string name)
  · exact Fields.reads_withDefault hsorted (by simp) type.reads_label
  · exact Fields.reads_withDefault hsorted (by simp) (Decoder.reads_bool required)
  · exact Fields.reads_optional_definite hsorted (by simp) hstorable

theorem gives_storable : decoder.Gives Storable := by
  refine Decoder.gives_record (.seq (.seq (.seq (.map (Fields.gives_any _) ?_)
    (Fields.gives_any _)) (Fields.gives_any _)) Fields.gives_optional_json)
  exact fun _ _ _ _ _ _ _ hdefault => hdefault

end InputVariable

namespace OutputFormat

/-- A schema is told from an absent one. -/
def Storable : OutputFormat → Prop
  | text => True
  | json schema => Json.Definite schema

variable {format : OutputFormat}

theorem canonical_toJson (hstorable : format.Storable) :
    format.toJson.Canonical := by
  cases format with
  | text => exact Json.canonical_ofMembers (by simp)
  | json schema =>
      have hschema : Json.Definite schema := hstorable
      refine Json.canonical_ofMembers ?_
      simpa [List.forall_mem_cons, Json.forall_mem_optional, -Prod.forall,
        -List.mem_cons] using hschema.canonical

theorem reads_toJson (hstorable : format.Storable) :
    decoder.Reads format.toJson format := by
  have hcanonical := canonical_toJson hstorable
  cases format with
  | text =>
      have htag : Assoc.get? (Assoc.ofList [("type", Json.text "text")]) "type" =
          some (.text "text") := by simp
      exact Decoder.reads_tagged hcanonical htag rfl fun _ _ => rfl
  | json schema =>
      let listed := ("type", Json.text "json") :: Json.optional "schema" schema
      have htag : Assoc.get? (Assoc.ofList listed) "type" = some (.text "json") := by
        simp [listed]
      refine Decoder.reads_tagged hcanonical htag rfl ?_
      have hsorted := (Assoc.sorted_ofList listed).erase "type"
      have hschema : Assoc.get? (Assoc.erase (Assoc.ofList listed) "type") "schema" =
          schema := by
        simp [Assoc.get?_erase_of_ne, listed]
      exact Decoder.reads_record
        (.map (Fields.reads_optional_definite hsorted hschema hstorable))

theorem gives_storable : decoder.Gives Storable := by
  refine Decoder.gives_tagged (List.forall_mem_cons.mpr ⟨?_,
    List.forall_mem_singleton.mpr ?_⟩)
  · exact Decoder.gives_bare trivial
  · exact Decoder.gives_record
      (.map Fields.gives_optional_json fun _ hschema => hschema)

end OutputFormat

theorem ToolSpec.canonical_toJson (spec : ToolSpec) : spec.toJson.Canonical :=
  Json.canonical_ofMembers (by simp)

theorem ToolSpec.reads_toJson (spec : ToolSpec) :
    decoder.Reads spec.toJson spec := by
  obtain ⟨server, names⟩ := spec
  refine Json.reads_ofMembers fun hsorted => ?_
  refine .seq (.map ?_) ?_
  · exact Fields.reads_required hsorted (by simp) (Decoder.reads_string server)
  · exact Fields.reads_withDefault hsorted (by simp)
      (Decoder.reads_list fun name _ => Decoder.reads_string name)

namespace AgentConfig

/-- The settings of an agent are read back as they were written. -/
structure Storable (config : AgentConfig) : Prop where
  format : config.outputFormat.Storable
  rounds_lt : ∀ rounds ∈ config.maxToolRounds, rounds < Width.span 32

variable {config : AgentConfig}

theorem canonical_toJson (hstorable : config.Storable) :
    config.toJson.Canonical := by
  have hformat := OutputFormat.canonical_toJson hstorable.format
  refine Json.canonical_ofMembers ?_
  split <;>
    simpa [ToolSpec.canonical_toJson, List.forall_mem_append, List.forall_mem_cons,
      Json.forall_mem_optional, -Prod.forall, -List.mem_append, -List.mem_cons]

theorem reads_toJson (hstorable : config.Storable) :
    decoder.Reads config.toJson config := by
  have hformat := OutputFormat.reads_toJson hstorable.format
  obtain ⟨instructions, model, tools, format, rounds⟩ := config
  refine Json.reads_ofMembers fun hsorted => ?_
  refine .seq (.seq (.seq (.seq (.map ?_) ?_) ?_) ?_) ?_
  · exact Fields.reads_required hsorted (by simp) (Decoder.reads_string instructions)
  · exact Fields.reads_optional hsorted (by simp)
      fun name _ => ⟨Decoder.reads_string name, by simp⟩
  · cases tools with
    | nil => exact Fields.reads_withDefault_absent (by simp)
    | cons spec tools =>
        exact Fields.reads_withDefault hsorted (by simp)
          (Decoder.reads_list fun spec _ => spec.reads_toJson)
  · exact Fields.reads_withDefault hsorted (by simp) hformat
  · exact Fields.reads_optional hsorted (by simp)
      fun count hmem => ⟨Decoder.reads_natBelow (hstorable.rounds_lt count hmem), by simp⟩

theorem gives_storable : decoder.Gives Storable := by
  refine Decoder.gives_record (.seq (.seq (.seq (.seq (.map (Fields.gives_any _) ?_)
    (Fields.gives_any _)) (Fields.gives_any _))
    (Fields.gives_withDefault OutputFormat.gives_storable trivial))
    (Fields.gives_optional (Decoder.gives_natBelow _ _)))
  exact fun _ _ _ _ _ _ _ hformat _ hrounds => ⟨hformat, hrounds⟩

end AgentConfig

namespace TransformConfig

def Storable (config : TransformConfig) : Prop :=
  ∀ millis ∈ config.timeoutMs, millis < Width.span 64

variable {config : TransformConfig}

theorem canonical_toJson (config : TransformConfig) : config.toJson.Canonical := by
  refine Json.canonical_ofMembers ?_
  simp [List.forall_mem_cons, Json.forall_mem_optional, -Prod.forall, -List.mem_cons]

theorem reads_toJson (hstorable : config.Storable) :
    decoder.Reads config.toJson config := by
  obtain ⟨script, millis⟩ := config
  refine Json.reads_ofMembers fun hsorted => ?_
  refine .seq (.map ?_) ?_
  · exact Fields.reads_required hsorted (by simp) (Decoder.reads_string script)
  · exact Fields.reads_optional hsorted (by simp)
      fun limit hmem => ⟨Decoder.reads_natBelow (hstorable limit hmem), by simp⟩

theorem gives_storable : decoder.Gives Storable := by
  refine Decoder.gives_record (.seq (.map (Fields.gives_any _) ?_)
    (Fields.gives_optional (Decoder.gives_natBelow _ _)))
  exact fun _ _ _ hmillis => hmillis

end TransformConfig

namespace WhileConfig

def Storable (config : WhileConfig) : Prop :=
  config.maxIterations < Width.span 32

variable {config : WhileConfig}

theorem canonical_toJson (config : WhileConfig) : config.toJson.Canonical :=
  Json.canonical_ofMembers (by simp)

theorem reads_toJson (hstorable : config.Storable) :
    decoder.Reads config.toJson config := by
  obtain ⟨condition, iterations⟩ := config
  refine Json.reads_ofMembers fun hsorted => ?_
  refine .seq (.map ?_) ?_
  · exact Fields.reads_requiredAs hsorted (by simp) (by simp)
      (Decoder.reads_string condition)
  · exact Fields.reads_required hsorted (by simp) (Decoder.reads_natBelow hstorable)

theorem gives_storable : decoder.Gives Storable := by
  refine Decoder.gives_record (.seq (.map (Fields.gives_any _) ?_)
    (Fields.gives_required (Decoder.gives_natBelow _ _)))
  exact fun _ _ _ hiterations => hiterations

end WhileConfig

namespace ApprovalConfig

def Storable (config : ApprovalConfig) : Prop :=
  ∀ secs ∈ config.timeoutSecs, secs < Width.span 64

variable {config : ApprovalConfig}

theorem canonical_toJson (config : ApprovalConfig) : config.toJson.Canonical := by
  refine Json.canonical_ofMembers ?_
  simp [Json.forall_mem_optional, -Prod.forall, -List.mem_append]

theorem reads_toJson (hstorable : config.Storable) :
    decoder.Reads config.toJson config := by
  obtain ⟨prompt, secs, onTimeout⟩ := config
  refine Json.reads_ofMembers fun hsorted => ?_
  refine .seq (.seq (.map ?_) ?_) ?_
  · exact Fields.reads_withDefault hsorted (by simp) (Decoder.reads_string prompt)
  · exact Fields.reads_optional hsorted (by simp)
      fun limit hmem => ⟨Decoder.reads_natBelow (hstorable limit hmem), by simp⟩
  · exact Fields.reads_withDefault hsorted (by simp) onTimeout.reads_label

theorem gives_storable : decoder.Gives Storable := by
  refine Decoder.gives_record (.seq (.seq (.map (Fields.gives_any _) ?_)
    (Fields.gives_optional (Decoder.gives_natBelow _ _))) (Fields.gives_any _))
  exact fun _ _ _ hsecs _ _ => hsecs

end ApprovalConfig

namespace ToolCallConfig

def Storable (config : ToolCallConfig) : Prop :=
  config.arguments.Canonical

variable {config : ToolCallConfig}

theorem canonical_toJson (hstorable : config.Storable) :
    config.toJson.Canonical := by
  have harguments : config.arguments.Canonical := hstorable
  exact Json.canonical_ofMembers (by simpa using harguments)

theorem reads_toJson (hstorable : config.Storable) :
    decoder.Reads config.toJson config := by
  obtain ⟨server, tool, arguments⟩ := config
  refine Json.reads_ofMembers fun hsorted => ?_
  refine .seq (.seq (.map ?_) ?_) ?_
  · exact Fields.reads_required hsorted (by simp) (Decoder.reads_string server)
  · exact Fields.reads_required hsorted (by simp) (Decoder.reads_string tool)
  · exact Fields.reads_withDefault hsorted (by simp) (Decoder.reads_json hstorable)

theorem gives_storable : decoder.Gives Storable := by
  refine Decoder.gives_record (.seq (.seq (.map (Fields.gives_any _) ?_)
    (Fields.gives_any _)) (Fields.gives_withDefault Decoder.gives_json trivial))
  exact fun _ _ _ _ _ harguments => harguments

end ToolCallConfig

/-! ## Nodes -/

namespace NodeKind

/-- The settings of a node are read back as they were written. -/
def Storable : NodeKind → Prop
  | start declared => ∀ input ∈ declared, input.Storable
  | finish => True
  | agent config => config.Storable
  | transform config => config.Storable
  | ifElse _ => True
  | loop config => config.Storable
  | approval config => config.Storable
  | tool config => config.Storable

theorem canonical_settings {kind : NodeKind} (hstorable : kind.Storable) :
    kind.settings.Canonical := by
  cases kind with
  | start declared =>
      have hdeclared : ∀ input ∈ declared, input.toJson.Canonical := fun input hmem =>
        InputVariable.canonical_toJson (hstorable input hmem)
      exact Json.canonical_ofMembers (by simpa using hdeclared)
  | finish => exact Json.canonical_record.mpr (by simp)
  | agent config => exact AgentConfig.canonical_toJson hstorable
  | transform config => exact config.canonical_toJson
  | ifElse condition => exact Json.canonical_ofMembers (by simp)
  | loop config => exact config.canonical_toJson
  | approval config => exact config.canonical_toJson
  | tool config => exact ToolCallConfig.canonical_toJson hstorable

theorem settings_ne_null (kind : NodeKind) : kind.settings ≠ .null := by
  cases kind <;> exact nofun

end NodeKind

namespace NodeForm

section Reading

variable {α : Type} {decoder : Decoder α} {x : α}

theorem read_eq_ok {id kind : String} {name : Option String} {config : Json}
    (hnull : config ≠ .null) (hreads : decoder.Reads config x) :
    read ⟨id, kind, name, config⟩ decoder = .ok x := by
  have hsettings : settings ⟨id, kind, name, config⟩ = config := by
    unfold settings
    split
    · contradiction
    · rfl
  rw [read, hsettings, hreads.ofValue]
  rfl

theorem of_read {P : α → Prop} {form : NodeForm} (hgives : decoder.Gives P)
    (hread : form.read decoder = .ok x) : P x := by
  unfold read Wire.ofValue at hread
  cases hvalue : decoder ⟨.value, 0⟩ (Document.ofJson form.settings) with
  | error fault =>
      rw [hvalue] at hread
      contradiction
  | ok value =>
      rw [hvalue] at hread
      exact Except.ok.inj hread ▸ hgives hvalue

end Reading

theorem reads_start {declared : List InputVariable}
    (hstorable : ∀ input ∈ declared, input.Storable) :
    startDecoder.Reads (NodeKind.start declared).settings declared := by
  refine Json.reads_ofMembers fun hsorted => ?_
  exact Fields.reads_withDefault hsorted (by simp)
    (Decoder.reads_list fun input hmem =>
      InputVariable.reads_toJson (hstorable input hmem))

theorem reads_ifElse (condition : String) :
    ifElseDecoder.Reads (NodeKind.ifElse condition).settings condition := by
  refine Json.reads_ofMembers fun hsorted => ?_
  exact Fields.reads_required hsorted (by simp) (Decoder.reads_string condition)

theorem gives_start :
    startDecoder.Gives fun declared => ∀ input ∈ declared, input.Storable :=
  Decoder.gives_record
    (Fields.gives_withDefault InputVariable.gives_storable.list nofun)

/-- What a node is written as. -/
def ofNode (node : Node) : NodeForm :=
  ⟨node.id, node.kind.label, node.name, node.kind.settings⟩

/-- What a node is written as describes its kind. -/
theorem kind?_ofNode {node : Node} (hstorable : node.kind.Storable) :
    (ofNode node).kind? = .ok node.kind := by
  obtain ⟨id, name, kind⟩ := node
  have hnull := kind.settings_ne_null
  cases kind with
  | start declared =>
      simp [kind?, ofNode, NodeKind.label, read_eq_ok hnull (reads_start hstorable)]
  | finish => simp [kind?, ofNode, NodeKind.label]
  | agent config =>
      simp [kind?, ofNode, NodeKind.label,
        read_eq_ok hnull (AgentConfig.reads_toJson hstorable)]
  | transform config =>
      simp [kind?, ofNode, NodeKind.label,
        read_eq_ok hnull (TransformConfig.reads_toJson hstorable)]
  | ifElse condition =>
      simp [kind?, ofNode, NodeKind.label, read_eq_ok hnull (reads_ifElse condition)]
  | loop config =>
      simp [kind?, ofNode, NodeKind.label,
        read_eq_ok hnull (WhileConfig.reads_toJson hstorable)]
  | approval config =>
      simp [kind?, ofNode, NodeKind.label,
        read_eq_ok hnull (ApprovalConfig.reads_toJson hstorable)]
  | tool config =>
      simp [kind?, ofNode, NodeKind.label,
        read_eq_ok hnull (ToolCallConfig.reads_toJson hstorable)]

/-- The kinds that a form describes: the one that it names, with settings that
are read as those of this kind. -/
inductive Describes (form : NodeForm) : NodeKind → Prop
  | start {declared : List InputVariable} (hname : form.kind = "start")
      (hread : form.read startDecoder = .ok declared) :
      Describes form (.start declared)
  | finish (hname : form.kind = "end") : Describes form .finish
  | agent {config : AgentConfig} (hname : form.kind = "agent")
      (hread : form.read AgentConfig.decoder = .ok config) :
      Describes form (.agent config)
  | transform {config : TransformConfig} (hname : form.kind = "transform")
      (hread : form.read TransformConfig.decoder = .ok config) :
      Describes form (.transform config)
  | ifElse {condition : String} (hname : form.kind = "if-else")
      (hread : form.read ifElseDecoder = .ok condition) :
      Describes form (.ifElse condition)
  | loop {config : WhileConfig} (hname : form.kind = "while")
      (hread : form.read WhileConfig.decoder = .ok config) :
      Describes form (.loop config)
  | approval {config : ApprovalConfig} (hname : form.kind = "user-approval")
      (hread : form.read ApprovalConfig.decoder = .ok config) :
      Describes form (.approval config)
  | tool {config : ToolCallConfig}
      (hname : form.kind = "tool" ∨ form.kind = "mcp")
      (hread : form.read ToolCallConfig.decoder = .ok config) :
      Describes form (.tool config)

theorem describes_of_kind? {form : NodeForm} {kind : NodeKind}
    (hkind : form.kind? = .ok kind) : form.Describes kind := by
  unfold kind? at hkind
  split at hkind
  next hname =>
    obtain ⟨declared, hread, rfl⟩ := exists_of_map hkind
    exact .start hname hread
  split at hkind
  next hname => exact Except.ok.inj hkind ▸ .finish hname
  split at hkind
  next hname =>
    obtain ⟨config, hread, rfl⟩ := exists_of_map hkind
    exact .agent hname hread
  split at hkind
  next hname =>
    obtain ⟨config, hread, rfl⟩ := exists_of_map hkind
    exact .transform hname hread
  split at hkind
  next hname =>
    obtain ⟨condition, hread, rfl⟩ := exists_of_map hkind
    exact .ifElse hname hread
  split at hkind
  next hname =>
    obtain ⟨config, hread, rfl⟩ := exists_of_map hkind
    exact .loop hname hread
  split at hkind
  next hname =>
    obtain ⟨config, hread, rfl⟩ := exists_of_map hkind
    exact .approval hname hread
  split at hkind
  next hname =>
    obtain ⟨config, hread, rfl⟩ := exists_of_map hkind
    exact .tool (by simpa using hname) hread
  next => contradiction

theorem storable_of_kind? {form : NodeForm} {kind : NodeKind}
    (hkind : form.kind? = .ok kind) : kind.Storable := by
  cases describes_of_kind? hkind with
  | start _ hread =>
      have hstorable := of_read gives_start hread
      exact hstorable
  | finish _ => trivial
  | agent _ hread =>
      have hstorable := of_read AgentConfig.gives_storable hread
      exact hstorable
  | transform _ hread =>
      have hstorable := of_read TransformConfig.gives_storable hread
      exact hstorable
  | ifElse _ _ => trivial
  | loop _ hread =>
      have hstorable := of_read WhileConfig.gives_storable hread
      exact hstorable
  | approval _ hread =>
      have hstorable := of_read ApprovalConfig.gives_storable hread
      exact hstorable
  | tool _ hread =>
      have hstorable := of_read ToolCallConfig.gives_storable hread
      exact hstorable

theorem reads_ofNode {node : Node} (hstorable : node.kind.Storable) :
    decoder.Reads node.toJson (ofNode node) := by
  refine Json.reads_ofMembers fun hsorted => ?_
  refine .seq (.seq (.seq (.map ?_) ?_) ?_) ?_
  · exact Fields.reads_required hsorted (by simp) (Decoder.reads_string node.id)
  · exact Fields.reads_required hsorted (by simp)
      (Decoder.reads_string node.kind.label)
  · exact Fields.reads_optional hsorted (by simp)
      fun name _ => ⟨Decoder.reads_string name, by simp⟩
  · exact Fields.reads_withDefault hsorted (by simp)
      (Decoder.reads_json (NodeKind.canonical_settings hstorable))

/-- What a node is written as describes the node. -/
theorem toNode?_ofNode {node : Node} (hstorable : node.kind.Storable) :
    (ofNode node).toNode? = .ok node := by
  rw [toNode?, kind?_ofNode hstorable]
  rfl

theorem toNodes?_ofNode {nodes : List Node}
    (hstorable : ∀ node ∈ nodes, node.kind.Storable) :
    toNodes? (nodes.map ofNode) = .ok nodes := by
  induction nodes with
  | nil => rfl
  | cons node nodes ih =>
      obtain ⟨hnode, hnodes⟩ := List.forall_mem_cons.mp hstorable
      simp [toNodes?, toNode?_ofNode hnode, ih hnodes, Except.map]

theorem storable_of_toNodes? {forms : List NodeForm} {nodes : List Node}
    (hnodes : toNodes? forms = .ok nodes) : ∀ node ∈ nodes, node.kind.Storable := by
  induction forms generalizing nodes with
  | nil =>
      obtain rfl := Except.ok.inj hnodes
      nofun
  | cons form forms ih =>
      unfold toNodes? at hnodes
      split at hnodes
      · contradiction
      · next node hnode =>
          obtain ⟨kind, hkind, rfl⟩ := exists_of_map hnode
          obtain ⟨others, hothers, rfl⟩ := exists_of_map hnodes
          exact List.forall_mem_cons.mpr ⟨storable_of_kind? hkind, ih hothers⟩

end NodeForm

theorem Node.reads_toJson {node : Node} (hstorable : node.kind.Storable) :
    decoder.Reads node.toJson node := by
  intro place hplace
  have hform := NodeForm.reads_ofNode hstorable place hplace
  simp only [decoder, hform, NodeForm.toNode?_ofNode hstorable]
  rfl

theorem Edge.reads_toJson (edge : Edge) : decoder.Reads edge.toJson edge := by
  obtain ⟨id, source, target, label⟩ := edge
  refine Json.reads_ofMembers fun hsorted => ?_
  refine .seq (.seq (.seq (.map ?_) ?_) ?_) ?_
  · exact Fields.reads_required hsorted (by simp) (Decoder.reads_string id)
  · exact Fields.reads_required hsorted (by simp) (Decoder.reads_string source)
  · exact Fields.reads_required hsorted (by simp) (Decoder.reads_string target)
  · cases label with
    | none =>
        exact Fields.reads_withDefault hsorted (by simp [Json.orNull])
          Decoder.reads_optional_null
    | some label =>
        exact Fields.reads_withDefault hsorted (by simp [Json.orNull])
          ((Decoder.reads_string label).optional (by simp))

/-! ## Graphs -/

namespace Graph

/-- The settings of all nodes are read back as they were written. -/
def Storable (graph : Graph) : Prop :=
  ∀ node ∈ graph.nodes, node.kind.Storable

end Graph

/-- What a graph is written as. -/
def GraphForm.ofGraph (graph : Graph) : GraphForm :=
  ⟨graph.nodes.map NodeForm.ofNode, graph.edges⟩

theorem GraphForm.reads_ofGraph {graph : Graph} (hstorable : graph.Storable) :
    decoder.Reads graph.toJson (ofGraph graph) := by
  obtain ⟨nodes, edges⟩ := graph
  refine Json.reads_ofMembers fun hsorted => ?_
  refine .seq (.map ?_) ?_
  · exact Fields.reads_required hsorted (by simp)
      (Decoder.reads_list_map fun node hmem =>
        NodeForm.reads_ofNode (hstorable node hmem))
  · exact Fields.reads_withDefault hsorted (by simp)
      (Decoder.reads_list fun edge _ => edge.reads_toJson)

namespace Graph

/-- A storable graph is read back as it was. -/
theorem reads_toJson {graph : Graph} (hstorable : graph.Storable) :
    decoder.Reads graph.toJson graph := by
  obtain ⟨nodes, edges⟩ := graph
  refine Json.reads_ofMembers fun hsorted => ?_
  refine .seq (.map ?_) ?_
  · exact Fields.reads_required hsorted (by simp)
      (Decoder.reads_list fun node hmem => node.reads_toJson (hstorable node hmem))
  · exact Fields.reads_withDefault hsorted (by simp)
      (Decoder.reads_list fun edge _ => edge.reads_toJson)

/-- A storable graph is loaded from its own document. -/
theorem ofJson_toJson {graph : Graph} (hstorable : graph.Storable) :
    ofJson graph.toJson = .ok graph := by
  have hforms := GraphForm.reads_ofGraph hstorable
  have hnodes := NodeForm.toNodes?_ofNode hstorable
  simp [ofJson, hforms.ofValue, GraphForm.ofGraph, GraphForm.toGraph?, hnodes,
    Except.map]

theorem storable_of_toGraph? {form : GraphForm} {graph : Graph}
    (hgraph : form.toGraph? = .ok graph) : graph.Storable := by
  obtain ⟨nodes, hnodes, rfl⟩ := exists_of_map hgraph
  exact NodeForm.storable_of_toNodes? hnodes

theorem storable_of_ofJson {value : Json} {graph : Graph}
    (hload : ofJson value = .ok graph) : graph.Storable := by
  unfold ofJson at hload
  split at hload
  · contradiction
  · exact storable_of_toGraph? hload

theorem storable_of_ofText {text : String} {graph : Graph}
    (hload : ofText text = .ok graph) : graph.Storable := by
  unfold ofText at hload
  split at hload
  · contradiction
  · exact storable_of_toGraph? hload

end Graph

end Workflow
