import Mathlib.Data.List.Basic
import Mathlib.Data.List.Induction
import Mathlib.Data.List.TakeWhile
import Mathlib.Tactic.IntervalCases
import Workflow.Agent.Turn

/-!
# What the pieces of an answer come to

The pieces of an answer belong to channels: its text, its end, its token
counts, and for every position the request for a tool that is made there.
`Assembled` says what a turn is by the pieces that have been read, and each
further piece keeps it.  It follows that a turn is the same for any two answers
with the same channels, however these are interleaved, as long as no request
gets input before it starts (`Turn.ofDeltas_of_sameChannels`).
-/

namespace Workflow

namespace Delta

/-- What a piece of an answer can belong to. -/
inductive Channel where
  | text
  | stop
  | usage
  /-- The request at a position. -/
  | tool (index : Nat)
deriving DecidableEq, Repr

/-- What a piece of an answer belongs to. -/
def channel : Delta → Channel
  | text _ => .text
  | toolStart index _ _ => .tool index
  | toolInput index _ => .tool index
  | stop _ => .stop
  | usage _ _ => .usage

/-- The text in a piece. -/
def text? : Delta → Option String
  | text chunk => some chunk
  | _ => none

/-- The reason to stop in a piece. -/
def stop? : Delta → Option StopReason
  | stop reason => some reason
  | _ => none

/-- The tokens, read and written, that a piece reports. -/
def usage? : Delta → Option (Nat × Nat)
  | usage read written => some (read, written)
  | _ => none

/-- The id and the name with which a piece starts the request at a
position. -/
def start? (index : Nat) : Delta → Option (String × String)
  | toolStart position id name =>
      if position = index then some (id, name) else none
  | _ => none

/-- The input in a piece for the request at a position. -/
def input? (index : Nat) : Delta → Option String
  | toolInput position chunk => if position = index then some chunk else none
  | _ => none

/-- Whether a piece makes room for a request at a position: it starts one
there or further on. -/
def reaches (index : Nat) : Delta → Bool
  | toolStart position _ _ => decide (index ≤ position)
  | _ => false

theorem reaches_eq_true_iff {index : Nat} {delta : Delta} :
    delta.reaches index = true ↔
      ∃ position id name, delta = .toolStart position id name ∧
        index ≤ position := by
  cases delta <;> simp [reaches]

end Delta

namespace Agent

open Delta (text? stop? usage? start? input? reaches channel)

/-- Two answers with the same pieces in each channel, in the same order. -/
def SameChannels (first second : List Delta) : Prop :=
  ∀ wanted,
    first.filter (channel · = wanted) = second.filter (channel · = wanted)

/-- An answer in which no request gets input before it starts. -/
def StartsFirst (deltas : List Delta) : Prop :=
  ∀ before index chunk after,
    deltas = before ++ .toolInput index chunk :: after →
      ∃ id name, .toolStart index id name ∈ before

/-- An answer in which all requests start at positions below a bound. -/
def StartsBelow (bound : Nat) (deltas : List Delta) : Prop :=
  ∀ index id name, .toolStart index id name ∈ deltas → index < bound

/-- The id and the name of the request at a position: those of its last
start. -/
def requested (index : Nat) (deltas : List Delta) : String × String :=
  (deltas.filterMap (start? index)).getLast?.getD ("", "")

/-- The pieces of input that come when there is room for them. -/
def heard (index : Nat) (deltas : List Delta) : List String :=
  (deltas.dropWhile fun delta => !delta.reaches index).filterMap (input? index)

/-- The request that is made at a position, with some pieces of input. -/
def requestAt (index : Nat) (deltas : List Delta) (inputs : List String) :
    Call :=
  ⟨(requested index deltas).1, (requested index deltas).2, String.join inputs⟩

variable {deltas first second before after : List Delta} {delta : Delta}
variable {turn other : Turn} {index : Nat}

/-! ## One more piece -/

theorem requested_concat :
    requested index (deltas ++ [delta]) =
      (delta.start? index).getD (requested index deltas) := by
  unfold requested
  cases hstart : delta.start? index <;> simp [hstart]

theorem requested_of_not_reached
    (hroom : deltas.any (reaches index) = false) :
    requested index deltas = ("", "") := by
  have hnone : deltas.filterMap (start? index) = [] := by
    rw [List.filterMap_eq_nil_iff]
    intro delta hdelta
    have hreaches := List.any_eq_false.mp hroom delta hdelta
    cases delta with
    | toolStart position id name =>
        simp only [reaches, decide_eq_true_eq] at hreaches
        exact if_neg (by omega)
    | _ => rfl
  rw [requested, hnone]
  rfl

theorem heard_of_not_reached (hroom : deltas.any (reaches index) = false) :
    heard index deltas = [] := by
  have hall : ∀ delta ∈ deltas, (!delta.reaches index) = true := by
    simpa using hroom
  rw [heard, List.dropWhile_eq_nil_iff.mpr hall, List.filterMap_nil]

theorem heard_concat (hroom : deltas.any (reaches index) = true) :
    heard index (deltas ++ [delta]) =
      heard index deltas ++ (delta.input? index).toList := by
  have hnot : (deltas.dropWhile fun delta => !delta.reaches index) ≠ [] := by
    rw [Ne, List.dropWhile_eq_nil_iff]
    simpa using hroom
  rw [heard, List.dropWhile_append, if_neg (by simpa using hnot),
    List.filterMap_append, heard]
  cases hinput : delta.input? index <;> simp [hinput]

/-- A piece in which there is no input for a position adds none. -/
theorem heard_concat_of_none (hinput : delta.input? index = none) :
    heard index (deltas ++ [delta]) = heard index deltas := by
  cases hroom : deltas.any (reaches index) with
  | true => rw [heard_concat hroom, hinput, Option.toList_none, List.append_nil]
  | false =>
      have hall : ∀ delta ∈ deltas, (!delta.reaches index) = true := by
        simpa using hroom
      rw [heard_of_not_reached hroom, heard, List.dropWhile_append_of_pos hall]
      cases hreaches : delta.reaches index <;> simp [hreaches, hinput]

/-! ## What has been assembled -/

/-- What a turn is, by the pieces of the answer so far. -/
structure Assembled (deltas : List Delta) (turn : Turn) : Prop where
  text_eq : turn.text = String.join (deltas.filterMap text?)
  stop_eq : turn.stop = (deltas.filterMap stop?).getLast?
  read_eq : turn.read = ((deltas.filterMap usage?).map Prod.fst).sum
  written_eq : turn.written = ((deltas.filterMap usage?).map Prod.snd).sum
  getElem?_calls : ∀ index, turn.calls[index]? =
    if deltas.any (reaches index) then
      some (requestAt index deltas (heard index deltas))
    else none

theorem requestAt_of_not_reached (hroom : deltas.any (reaches index) = false) :
    requestAt index deltas (heard index deltas) = Call.unknown := by
  rw [requestAt, requested_of_not_reached hroom, heard_of_not_reached hroom]
  rfl

theorem getElem?_startCall {calls : List Call} {position : Nat}
    {id name : String} :
    (Turn.startCall calls position id name)[index]? =
      if index ≤ position then
        some (if position = index then
          { calls[index]?.getD Call.unknown with id, name }
        else calls[index]?.getD Call.unknown)
      else calls[index]? := by
  have hpadded : (calls ++ List.replicate (position + 1 - calls.length)
      Call.unknown)[index]? =
        if index ≤ position then some (calls[index]?.getD Call.unknown)
        else calls[index]? := by
    rw [List.getElem?_append, List.getElem?_replicate]
    by_cases hlength : index < calls.length
    · simp [hlength]
    · have hroom : index - calls.length < position + 1 - calls.length ↔
          index ≤ position := by omega
      simp [hlength, hroom]
  rw [Turn.startCall, List.getElem?_modify, hpadded]
  by_cases hle : index ≤ position
  · by_cases heq : position = index <;> simp [hle, heq]
  · have hne : position ≠ index := by omega
    simp [hle, hne]

theorem getElem?_extendCall {calls : List Call} {position : Nat}
    {chunk : String} :
    (Turn.extendCall calls position chunk)[index]? =
      calls[index]?.map fun call =>
        if position = index then { call with input := call.input ++ chunk }
        else call := by
  rw [Turn.extendCall, List.getElem?_modify]
  by_cases heq : position = index <;> simp [heq]

/-- What has been assembled at a position; nothing is known of it before there
is room. -/
theorem Assembled.getD_calls (hassembled : Assembled deltas turn) :
    turn.calls[index]?.getD Call.unknown =
      requestAt index deltas (heard index deltas) := by
  rw [hassembled.getElem?_calls]
  cases hroom : deltas.any (reaches index) with
  | true => rfl
  | false => exact (requestAt_of_not_reached hroom).symm

/-- A piece that is of no request leaves the requests as they are. -/
theorem requestAt_concat_of_none (hstart : delta.start? index = none)
    (hinput : delta.input? index = none) :
    requestAt index (deltas ++ [delta]) (heard index (deltas ++ [delta])) =
      requestAt index deltas (heard index deltas) := by
  rw [requestAt, requested_concat, hstart, heard_concat_of_none hinput]
  rfl

theorem any_reaches_concat (hreaches : delta.reaches index = false) :
    (deltas ++ [delta]).any (reaches index) = deltas.any (reaches index) := by
  simp [hreaches]

theorem Assembled.startCall (hassembled : Assembled deltas turn)
    {position : Nat} {id name : String}
    (hdelta : delta = .toolStart position id name) :
    (Turn.startCall turn.calls position id name)[index]? =
      if (deltas ++ [delta]).any (reaches index) then
        some (requestAt index (deltas ++ [delta])
          (heard index (deltas ++ [delta])))
      else none := by
  have hinput : delta.input? index = none := by rw [hdelta]; rfl
  rw [getElem?_startCall, hassembled.getD_calls]
  by_cases hle : index ≤ position
  · have hroom : (deltas ++ [delta]).any (reaches index) = true := by
      simp [hdelta, reaches, hle]
    rw [if_pos hle, if_pos hroom]
    by_cases heq : position = index
    · have hstart : delta.start? index = some (id, name) := by
        rw [hdelta, start?, if_pos heq]
      rw [if_pos heq, requestAt, requestAt, requested_concat, hstart,
        heard_concat_of_none hinput]
      rfl
    · have hstart : delta.start? index = none := by
        rw [hdelta, start?, if_neg heq]
      rw [if_neg heq, requestAt_concat_of_none hstart hinput]
  · have hstart : delta.start? index = none := by
      rw [hdelta, start?, if_neg (by omega)]
    have hreaches : delta.reaches index = false := by
      simpa [hdelta, reaches] using hle
    rw [if_neg hle, hassembled.getElem?_calls, any_reaches_concat hreaches,
      requestAt_concat_of_none hstart hinput]

theorem Assembled.extendCall (hassembled : Assembled deltas turn)
    {position : Nat} {chunk : String}
    (hdelta : delta = .toolInput position chunk) :
    (Turn.extendCall turn.calls position chunk)[index]? =
      if (deltas ++ [delta]).any (reaches index) then
        some (requestAt index (deltas ++ [delta])
          (heard index (deltas ++ [delta])))
      else none := by
  have hstart : delta.start? index = none := by rw [hdelta]; rfl
  have hreaches : delta.reaches index = false := by rw [hdelta]; rfl
  rw [getElem?_extendCall, hassembled.getElem?_calls,
    any_reaches_concat hreaches]
  cases hroom : deltas.any (reaches index) with
  | false => rfl -- Input is lost as long as there is no room for it.
  | true =>
      by_cases heq : position = index
      · have hinput : delta.input? index = some chunk := by
          rw [hdelta, input?, if_pos heq]
        simp only [if_true, if_pos heq, Option.map_some, requestAt,
          requested_concat, heard_concat hroom, hstart, hinput,
          Option.getD_none, Option.toList_some, String.join_append,
          String.join_cons, String.join_nil, String.append_empty]
      · have hinput : delta.input? index = none := by
          rw [hdelta, input?, if_neg heq]
        simp only [if_true, if_neg heq, Option.map_some,
          requestAt_concat_of_none hstart hinput]

/-- What has been assembled is kept by one more piece. -/
theorem Assembled.take (hassembled : Assembled deltas turn) (delta : Delta) :
    Assembled (deltas ++ [delta]) (turn.take delta) where
  text_eq := by
    cases delta <;>
      simp [Turn.take, hassembled.text_eq, text?, List.filterMap_cons]
  stop_eq := by
    cases delta <;>
      simp [Turn.take, hassembled.stop_eq, stop?, List.filterMap_cons]
  read_eq := by
    cases delta <;>
      simp [Turn.take, hassembled.read_eq, usage?, List.filterMap_cons]
  written_eq := by
    cases delta <;>
      simp [Turn.take, hassembled.written_eq, usage?, List.filterMap_cons]
  getElem?_calls index := by
    cases delta with
    | toolStart position id name => exact hassembled.startCall rfl
    | toolInput position chunk => exact hassembled.extendCall rfl
    | _ =>
        rw [any_reaches_concat rfl, requestAt_concat_of_none rfl rfl]
        exact hassembled.getElem?_calls index

/-- What all pieces of an answer come to. -/
theorem assembled_ofDeltas (deltas : List Delta) :
    Assembled deltas (Turn.ofDeltas deltas) := by
  induction deltas using List.reverseRecOn with
  | nil => exact ⟨rfl, rfl, rfl, rfl, fun _ => rfl⟩
  | append_singleton deltas delta ih =>
      have hconcat : Turn.ofDeltas (deltas ++ [delta]) =
          (Turn.ofDeltas deltas).take delta := List.foldl_append
      rw [hconcat]
      exact ih.take delta

/-! ## Channels -/

theorem SameChannels.mem_iff (hsame : SameChannels first second) :
    delta ∈ first ↔ delta ∈ second := by
  have hmem (deltas : List Delta) :
      delta ∈ deltas.filter (channel · = delta.channel) ↔ delta ∈ deltas := by
    simp [List.mem_filter]
  rw [← hmem first, hsame delta.channel, hmem second]

/-- What is read off the pieces of one channel is the same. -/
theorem SameChannels.filterMap_eq {α : Type} {read : Delta → Option α}
    (hsame : SameChannels first second) (wanted : Delta.Channel)
    (hread : ∀ delta : Delta, delta.channel ≠ wanted → read delta = none) :
    first.filterMap read = second.filterMap read := by
  have hfilter (deltas : List Delta) :
      (deltas.filter (channel · = wanted)).filterMap read =
        deltas.filterMap read := by
    rw [List.filterMap_filter]
    congr 1
    funext delta
    by_cases hchannel : delta.channel = wanted
    · simp [hchannel]
    · simp [hchannel, hread delta hchannel]
  rw [← hfilter first, hsame wanted, hfilter second]

theorem SameChannels.any_reaches_eq (hsame : SameChannels first second) :
    first.any (reaches index) = second.any (reaches index) := by
  rw [Bool.eq_iff_iff, List.any_eq_true, List.any_eq_true]
  simp only [hsame.mem_iff]

theorem SameChannels.requested_eq (hsame : SameChannels first second) :
    requested index first = requested index second := by
  have hstarts : first.filterMap (start? index) =
      second.filterMap (start? index) := by
    refine hsame.filterMap_eq (.tool index) fun delta hchannel => ?_
    cases delta with
    | toolStart position id name =>
        exact if_neg fun heq => hchannel (congrArg Delta.Channel.tool heq)
    | _ => rfl
  rw [requested, requested, hstarts]

theorem SameChannels.inputs_eq (hsame : SameChannels first second) :
    first.filterMap (input? index) = second.filterMap (input? index) := by
  refine hsame.filterMap_eq (.tool index) fun delta hchannel => ?_
  cases delta with
  | toolInput position chunk =>
      exact if_neg fun heq => hchannel (congrArg Delta.Channel.tool heq)
  | _ => rfl

/-- Whether requests start before they get input is seen in each channel. -/
theorem SameChannels.startsFirst (hsame : SameChannels first second)
    (hstarts : StartsFirst first) : StartsFirst second := by
  rintro before index chunk after rfl
  have hsplit := hsame (.tool index)
  rw [List.filter_append, List.filter_cons_of_pos (by simp [channel])] at hsplit
  obtain ⟨left, right, rfl, hleft, hright⟩ :=
    List.filter_eq_append_iff.mp hsplit
  obtain ⟨others, rest, rfl, hothers, -, -⟩ := List.filter_eq_cons_iff.mp hright
  rw [← List.append_assoc] at hstarts
  obtain ⟨id, name, hmem⟩ := hstarts _ index chunk rest rfl
  -- A start in the same channel cannot be among the pieces left out.
  have hfound : Delta.toolStart index id name ∈ left := by
    refine (List.mem_append.mp hmem).resolve_right fun hother => ?_
    exact hothers _ hother (by simp [channel])
  have hkept : Delta.toolStart index id name ∈
      before.filter (channel · = .tool index) := by
    rw [← hleft]
    exact List.mem_filter.mpr ⟨hfound, by simp [channel]⟩
  exact ⟨id, name, (List.mem_filter.mp hkept).1⟩

/-- All input is heard if requests start before they get any. -/
theorem StartsFirst.heard_eq (hstarts : StartsFirst deltas) (index : Nat) :
    heard index deltas = deltas.filterMap (input? index) := by
  have hnone : (deltas.takeWhile fun delta => !delta.reaches index).filterMap
      (input? index) = [] := by
    rw [List.filterMap_eq_nil_iff]
    intro delta hdelta
    cases delta with
    | toolInput position chunk =>
        refine if_neg fun heq => ?_
        subst heq
        obtain ⟨before, rest, hearly⟩ := List.append_of_mem hdelta
        obtain ⟨id, name, hstart⟩ := hstarts before position chunk
          (rest ++ deltas.dropWhile fun delta => !delta.reaches position) (by
            rw [← List.cons_append, ← List.append_assoc, ← hearly,
              List.takeWhile_append_dropWhile])
        have hunreached := List.mem_takeWhile_imp
          (hearly ▸ List.mem_append_left _ hstart)
        simp [reaches] at hunreached
    | _ => rfl
  calc heard index deltas
      = (deltas.takeWhile fun delta => !delta.reaches index).filterMap
          (input? index) ++ heard index deltas := by
        rw [hnone, List.nil_append]
    _ = deltas.filterMap (input? index) := by
        rw [heard, ← List.filterMap_append, List.takeWhile_append_dropWhile]

theorem SameChannels.calls_eq (hsame : SameChannels first second)
    (hstarts : StartsFirst first) (hfirst : Assembled first turn)
    (hsecond : Assembled second other) : turn.calls = other.calls := by
  apply List.ext_getElem?
  intro index
  rw [hfirst.getElem?_calls, hsecond.getElem?_calls, hsame.any_reaches_eq,
    hstarts.heard_eq, (hsame.startsFirst hstarts).heard_eq, requestAt,
    requestAt, hsame.requested_eq, hsame.inputs_eq]

/-- What has been assembled is decided by the channels. -/
theorem SameChannels.turn_eq (hsame : SameChannels first second)
    (hstarts : StartsFirst first) (hfirst : Assembled first turn)
    (hsecond : Assembled second other) : turn = other := by
  have htexts : first.filterMap text? = second.filterMap text? :=
    hsame.filterMap_eq .text fun delta hchannel => by
      cases delta <;> first | rfl | exact absurd rfl hchannel
  have hstops : first.filterMap stop? = second.filterMap stop? :=
    hsame.filterMap_eq .stop fun delta hchannel => by
      cases delta <;> first | rfl | exact absurd rfl hchannel
  have husages : first.filterMap usage? = second.filterMap usage? :=
    hsame.filterMap_eq .usage fun delta hchannel => by
      cases delta <;> first | rfl | exact absurd rfl hchannel
  have hcalls := hsame.calls_eq hstarts hfirst hsecond
  obtain ⟨htext, hstop, hread, hwritten, -⟩ := hfirst
  obtain ⟨htext', hstop', hread', hwritten', -⟩ := hsecond
  rw [htexts, ← htext'] at htext
  rw [hstops, ← hstop'] at hstop
  rw [husages, ← hread'] at hread
  rw [husages, ← hwritten'] at hwritten
  cases turn
  cases other
  rw [Turn.mk.injEq]
  exact ⟨htext, hcalls, hstop, hread, hwritten⟩

/-! ## Requests with a name -/

/-- The request that is made at a position: the id and the name of its last
start and all input for it. -/
def sent (index : Nat) (deltas : List Delta) : Call :=
  requestAt index deltas (deltas.filterMap (input? index))

theorem Assembled.getElem?_of_reached (hassembled : Assembled deltas turn)
    (hstarts : StartsFirst deltas) (hroom : deltas.any (reaches index) = true) :
    turn.calls[index]? = some (sent index deltas) := by
  rw [hassembled.getElem?_calls, if_pos hroom, hstarts.heard_eq, sent]

theorem Assembled.lt_length_iff (hassembled : Assembled deltas turn) :
    index < turn.calls.length ↔ deltas.any (reaches index) = true := by
  have hnone : turn.calls[index]? = none ↔ turn.calls.length ≤ index :=
    List.getElem?_eq_none_iff
  rw [hassembled.getElem?_calls] at hnone
  cases hroom : deltas.any (reaches index) with
  | true => simpa [hroom] using hnone
  | false => simpa [hroom] using hnone

theorem Assembled.calls_eq (hassembled : Assembled deltas turn)
    (hstarts : StartsFirst deltas) :
    turn.calls = (List.range turn.calls.length).map (sent · deltas) := by
  apply List.ext_getElem?
  intro index
  rw [List.getElem?_map]
  by_cases hlt : index < turn.calls.length
  · rw [List.getElem?_range hlt, Option.map_some]
    exact hassembled.getElem?_of_reached hstarts
      (hassembled.lt_length_iff.mp hlt)
  · have hle : turn.calls.length ≤ index := Nat.le_of_not_lt hlt
    rw [List.getElem?_eq_none hle, List.getElem?_eq_none (by simpa using hle)]
    rfl

theorem Assembled.length_calls_le (hassembled : Assembled deltas turn)
    {bound : Nat} (hbound : StartsBelow bound deltas) :
    turn.calls.length ≤ bound := by
  refine Nat.le_of_not_lt fun hlt => ?_
  have hroom := hassembled.lt_length_iff.mp hlt
  obtain ⟨delta, hdelta, hreaches⟩ := List.any_eq_true.mp hroom
  obtain ⟨position, id, name, rfl, hle⟩ := Delta.reaches_eq_true_iff.mp hreaches
  exact absurd (hbound position id name hdelta) (Nat.not_lt_of_le hle)

/-- The requests with a name are found in the order of their positions. -/
theorem Assembled.namedCalls_eq (hassembled : Assembled deltas turn)
    (hstarts : StartsFirst deltas) {bound : Nat}
    (hbound : StartsBelow bound deltas) :
    turn.namedCalls = ((List.range bound).map (sent · deltas)).filter
      fun call => !call.name.isEmpty := by
  obtain ⟨free, rfl⟩ :=
    Nat.exists_eq_add_of_le (hassembled.length_calls_le hbound)
  have hfree : ((List.range free).map fun offset =>
      sent (turn.calls.length + offset) deltas).filter
        (fun call => !call.name.isEmpty) = [] := by
    rw [List.filter_eq_nil_iff]
    intro call hcall
    obtain ⟨offset, -, rfl⟩ := List.mem_map.mp hcall
    have hroom : deltas.any (reaches (turn.calls.length + offset)) = false := by
      rw [Bool.eq_false_iff, Ne, ← hassembled.lt_length_iff]
      omega
    simp [sent, requestAt, requested_of_not_reached hroom]
  rw [List.range_add, List.map_append, List.filter_append,
    ← hassembled.calls_eq hstarts, List.map_map, Turn.namedCalls]
  exact (List.append_nil _).symm.trans (congrArg _ hfree.symm)

/-! ## Pieces of pieces -/

namespace Turn

theorem extendCall_empty (calls : List Call) (index : Nat) :
    extendCall calls index "" = calls := by
  apply List.ext_getElem?
  intro position
  rw [getElem?_extendCall]
  cases calls[position]? <;> simp

theorem extendCall_extendCall (calls : List Call) (index : Nat)
    (left right : String) :
    extendCall (extendCall calls index left) index right =
      extendCall calls index (left ++ right) := by
  apply List.ext_getElem?
  intro position
  simp only [getElem?_extendCall, Option.map_map]
  congr 1
  funext call
  by_cases heq : index = position <;> simp [heq, String.append_assoc]

theorem foldl_take_texts (turn : Turn) (pieces : List String) :
    (pieces.map Delta.text).foldl take turn =
      turn.take (.text (String.join pieces)) := by
  induction pieces generalizing turn with
  | nil => simp [take]
  | cons piece pieces ih =>
      rw [List.map_cons, List.foldl_cons, ih]
      simp [take, String.append_assoc]

theorem foldl_take_inputs (turn : Turn) (index : Nat) (pieces : List String) :
    (pieces.map (Delta.toolInput index)).foldl take turn =
      turn.take (.toolInput index (String.join pieces)) := by
  induction pieces generalizing turn with
  | nil => simp [take, extendCall_empty]
  | cons piece pieces ih =>
      rw [List.map_cons, List.foldl_cons, ih]
      simp [take, extendCall_extendCall]

/-! ## Turns -/

/-- What a turn is, by the channels of an answer. -/
structure Reassembles (deltas : List Delta) (turn : Turn) : Prop where
  text_eq : turn.text = String.join (deltas.filterMap text?)
  stop_eq : turn.stop = (deltas.filterMap stop?).getLast?
  read_eq : turn.read = ((deltas.filterMap usage?).map Prod.fst).sum
  written_eq : turn.written = ((deltas.filterMap usage?).map Prod.snd).sum
  started : ∀ index id name, .toolStart index id name ∈ deltas →
    turn.calls[index]? = some (sent index deltas)
  named : ∀ bound, StartsBelow bound deltas →
    turn.namedCalls = ((List.range bound).map (sent · deltas)).filter
      fun call => !call.name.isEmpty

/-- An answer comes to the same turn however its channels are interleaved, and
however its texts and inputs are cut. -/
theorem ofDeltas_of_sameChannels (hsame : SameChannels first second)
    (hstarts : StartsFirst first) :
    ofDeltas first = ofDeltas second ∧
    Reassembles first (ofDeltas first) ∧
    (∀ before after pieces,
      ofDeltas (before ++ pieces.map .text ++ after) =
        ofDeltas (before ++ .text (String.join pieces) :: after)) ∧
    ∀ before after index pieces,
      ofDeltas (before ++ pieces.map (.toolInput index) ++ after) =
        ofDeltas
          (before ++ .toolInput index (String.join pieces) :: after) := by
  have hfirst := assembled_ofDeltas first
  refine ⟨?_, ?_, fun before after pieces => ?_,
    fun before after index pieces => ?_⟩
  · exact hsame.turn_eq hstarts hfirst (assembled_ofDeltas second)
  · refine ⟨hfirst.text_eq, hfirst.stop_eq, hfirst.read_eq, hfirst.written_eq,
      fun index id name hmem => ?_, fun bound => ?_⟩
    · refine hfirst.getElem?_of_reached hstarts ?_
      exact List.any_eq_true.mpr ⟨_, hmem, decide_eq_true (Nat.le_refl index)⟩
    · exact hfirst.namedCalls_eq hstarts
  · simp only [ofDeltas, List.foldl_append, List.foldl_cons, foldl_take_texts]
  · simp only [ofDeltas, List.foldl_append, List.foldl_cons, foldl_take_inputs]

/-- Two requests, the later one begun first, and a position without any. -/
def braided : List Delta :=
  [.text "a", .toolStart 2 "late" "find", .usage 3 1, .toolInput 2 "\x7b",
    .toolStart 0 "soon" "list", .toolInput 2 "\x7d", .toolInput 0 "[]",
    .text "b", .stop .toolUse, .usage 0 2]

/-- The same requests one after the other. -/
def unbraided : List Delta :=
  [.toolStart 0 "soon" "list", .toolInput 0 "[]", .toolStart 2 "late" "find",
    .toolInput 2 "\x7b", .toolInput 2 "\x7d", .stop .toolUse, .usage 3 1,
    .usage 0 2, .text "a", .text "b"]

theorem sameChannels_braided : SameChannels braided unbraided := by
  rintro (_ | _ | _ | index)
  · decide
  · decide
  · decide
  · by_cases hsoon : index = 0
    · subst hsoon
      decide
    · by_cases hlate : index = 2
      · subst hlate
        decide
      · have hsoon' : ¬ 0 = index := Ne.symm hsoon
        have hlate' : ¬ 2 = index := Ne.symm hlate
        simp [braided, unbraided, Delta.channel, hsoon', hlate']

theorem startsFirst_braided : StartsFirst braided := by
  intro before index chunk after heq
  have hplace : braided[before.length]? = some (.toolInput index chunk) := by
    simp [heq]
  have hbefore : before = braided.take before.length := by
    simp [heq]
  have hlt : before.length < 10 := (List.getElem?_eq_some_iff.mp hplace).1
  generalize before.length = place at hplace hbefore hlt
  subst hbefore
  clear heq
  interval_cases place <;>
    simp only [braided, List.getElem?_cons_zero, List.getElem?_cons_succ,
      Option.some.injEq, reduceCtorEq, Delta.toolInput.injEq] at hplace
  · exact ⟨"late", "find", by rw [← hplace.1]; decide⟩
  · exact ⟨"late", "find", by rw [← hplace.1]; decide⟩
  · exact ⟨"soon", "list", by rw [← hplace.1]; decide⟩

theorem ofDeltas_of_braided :
    SameChannels braided unbraided ∧ StartsFirst braided ∧
    ofDeltas braided = ofDeltas unbraided ∧
    (ofDeltas unbraided).namedCalls =
      [⟨"soon", "list", "[]"⟩, ⟨"late", "find", "\x7b\x7d"⟩] := by
  refine ⟨sameChannels_braided, startsFirst_braided,
    (ofDeltas_of_sameChannels sameChannels_braided startsFirst_braided).1, ?_⟩
  decide

end Turn

end Agent

end Workflow
