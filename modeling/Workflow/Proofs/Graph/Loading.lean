import Workflow.Graph.Wire
import Workflow.Proofs.Wire.Repeated

/-!
# Loading a text and loading its value

A graph is loaded off a text, or off the value of a text.  The value keeps the
last of the members of a name, so it is the same for a text that repeats a
member; the text itself is refused then, where the member is a known one of
the document, of a node or of an edge.  Both ways load the same graphs apart
from that (`Graph.loads_like_value`).  In the settings of a node, which are taken as
a value either way, members may be repeated.
-/

namespace Workflow

open Document (Once partsOf itemsOf)
open Wire (Decoder Fields)

/-- None of the names stands twice. -/
def Document.OnceEach (names : List String) (document : Document) : Prop :=
  ∀ name ∈ names, Once name document

/-! ## Nodes and edges -/

/-- No known member of a node is repeated. -/
def NodeForm.Unrepeated (document : Document) : Prop :=
  document.OnceEach ["id", "kind", "name", "config"]

/-- No known member of an edge is repeated. -/
def Edge.Unrepeated (document : Document) : Prop :=
  document.OnceEach ["id", "source", "target", "label"]

theorem NodeForm.mirrors_decoder : decoder.Mirrors Unrepeated := by
  have hstring := Decoder.mirrors_string
  have hid := Fields.mirrors_required hstring "id" 0
  have hkind := Fields.mirrors_required hstring "kind" 1
  have hname := Fields.mirrors_optional hstring "name" 2
  have hconfig :=
    Fields.mirrors_withDefault Decoder.mirrors_json "config" 3 .null
  have hfields := (((hid.map NodeForm.mk).seq hkind).seq hname).seq hconfig
  refine (Decoder.mirrors_record hfields).congr fun document => ?_
  simp [Unrepeated, Document.OnceEach, and_assoc]

theorem Edge.mirrors_decoder : decoder.Mirrors Unrepeated := by
  have hstring := Decoder.mirrors_string
  have hid := Fields.mirrors_required hstring "id" 0
  have hsource := Fields.mirrors_required hstring "source" 1
  have htarget := Fields.mirrors_required hstring "target" 2
  have hlabel := Fields.mirrors_optional hstring "label" 3
  have hfields := (((hid.map Edge.mk).seq hsource).seq htarget).seq hlabel
  refine (Decoder.mirrors_record hfields).congr fun document => ?_
  simp [Unrepeated, Document.OnceEach, and_assoc]

/-! ## Graphs -/

/-- No known member is repeated in the document of a graph, in a node or in an
edge. -/
structure Graph.Unrepeated (document : Document) : Prop where
  members : document.OnceEach ["nodes", "edges"]
  nodes : ∀ nodes ∈ partsOf "nodes" 0 document,
    ∀ node ∈ itemsOf nodes, NodeForm.Unrepeated node
  edges : ∀ edges ∈ partsOf "edges" 1 document,
    ∀ edge ∈ itemsOf edges, Edge.Unrepeated edge

theorem GraphForm.mirrors_decoder : decoder.Mirrors Graph.Unrepeated := by
  have hnodes :=
    Fields.mirrors_required NodeForm.mirrors_decoder.list "nodes" 0
  have hedges :=
    Fields.mirrors_withDefault Edge.mirrors_decoder.list "edges" 1 []
  have hfields := (hnodes.map GraphForm.mk).seq hedges
  refine (Decoder.mirrors_record hfields).congr fun document => ?_
  constructor
  · rintro ⟨⟨honce, hnodes⟩, honce', hedges⟩
    exact ⟨by simp [Document.OnceEach, honce, honce'], hnodes, hedges⟩
  · rintro ⟨honce, hnodes, hedges⟩
    exact ⟨⟨honce "nodes" (by simp), hnodes⟩, honce "edges" (by simp), hedges⟩

namespace Graph

/-- A text is loaded as a graph just where its value is, and none of the known
members is repeated in the text. -/
theorem loads_like_value {text : String} {value : Json}
    (hparse : Json.parse? text = some value) (graph : Graph) :
    ofText text = .ok graph ↔
      ofJson value = .ok graph ∧ Unrepeated (Document.scan text).1 := by
  have hform := Wire.ofText_eq_ok_iff_ofValue GraphForm.mirrors_decoder hparse
  have htext : ofText text = .ok graph ↔
      ∃ form, Wire.ofText GraphForm.decoder text = .ok form ∧
        form.toGraph? = .ok graph := by
    unfold ofText
    cases Wire.ofText GraphForm.decoder text <;> simp
  have hvalue : ofJson value = .ok graph ↔
      ∃ form, Wire.ofValue GraphForm.decoder value = .ok form ∧
        form.toGraph? = .ok graph := by
    unfold ofJson
    cases Wire.ofValue GraphForm.decoder value <;> simp
  simp only [htext, hvalue, hform]
  constructor
  · rintro ⟨form, ⟨hform, hplain⟩, hgraph⟩
    exact ⟨⟨form, hform, hgraph⟩, hplain⟩
  · rintro ⟨⟨form, hform, hgraph⟩, hplain⟩
    exact ⟨form, ⟨hform, hplain⟩, hgraph⟩

end Graph

/-! ## Texts that repeat a member -/

namespace Repeats

/-- A document whose first node has settings that repeat their only member, with
further members before its edges. -/
def text (further : String) : String :=
  "\x7b\"nodes\":[\x7b\"id\":\"start\",\"kind\":\"start\"," ++
    "\"config\":\x7b\"variables\":0,\"variables\":[]\x7d\x7d,[\"end\",\"end\"]]," ++
    further ++ "\"edges\":[[\"e\",\"start\",\"end\"]]\x7d"

def value : Json :=
  Json.ofMembers [
    ("nodes", .list [
      Json.ofMembers [("id", .text "start"), ("kind", .text "start"),
        ("config", Json.ofMembers [("variables", .list [])])],
      .list [.text "end", .text "end"]]),
    ("edges", .list [.list [.text "e", .text "start", .text "end"]])]

def graph : Graph :=
  ⟨[⟨"start", none, .start []⟩, ⟨"end", none, .finish⟩],
    [⟨"e", "start", "end", none⟩]⟩

/-- In the settings of a node a member may be repeated. -/
theorem loads_like_value_settings :
    Graph.ofJson value = .ok graph ∧
      Graph.Unrepeated (Document.scan (text "")).1 := by
  have hparse : Json.parse? (text "") = some value := by decide +kernel
  have hload : Graph.ofText (text "") = .ok graph := by decide +kernel
  exact (Graph.loads_like_value hparse graph).mp hload

/-- Where the edges are given twice, the value does not show it. -/
theorem refused_unlike_value :
    Json.parse? (text "\"edges\":[],") = some value ∧
      Graph.ofJson value = .ok graph ∧
      Graph.ofText (text "\"edges\":[],") =
        .error (.malformed (.duplicate "edges")) := by
  decide +kernel

end Repeats

end Workflow
