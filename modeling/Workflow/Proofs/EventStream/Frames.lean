import Workflow.Proofs.EventStream.Chunks
import Workflow.Proofs.Json.Lines
import Workflow.Proofs.Text.Piece

/-!
# Frames are read as they are written

A block of lines is cut out of a text at the blank line after it and falls into
the same lines again (`cutBlock?_spread`, `lines_spread`).  So a frame whose kind
and data are each one line is read back (`framesOf_render`), and a comment is
read as nothing.  `Carries` are the bodies that hold given frames, with any
number of comments between them.
-/

namespace Workflow.EventStream

open Text (OneLine)

/-! ## Blocks of lines -/

/-- Lines as they stand in a text. -/
def spread (lines : List (List Char)) : List Char :=
  lines.flatMap (· ++ ['\n'])

@[simp] theorem spread_nil : spread [] = [] := rfl

@[simp] theorem spread_cons (line : List Char) (lines : List (List Char)) :
    spread (line :: lines) = line ++ '\n' :: spread lines := by
  simp [spread]

section

variable {line block text rest sofar : List Char} {lines : List (List Char)}

theorem cutBlock?_line (hline : '\n' ∉ line)
    (hcut : cutBlock? text = some (block, rest)) :
    cutBlock? (line ++ text) = some (line ++ block, rest) := by
  induction line with
  | nil => exact hcut
  | cons c line ih =>
      obtain ⟨hc, hline⟩ := List.ne_and_not_mem_of_not_mem_cons hline
      have htail := ih hline
      rw [List.cons_append,
        cutBlock?_cons (fun heq => absurd heq.symm hc), htail]
      rfl

/-- A block of lines ends at the first blank line. -/
theorem cutBlock?_spread (hne : lines ≠ [])
    (hlines : ∀ line ∈ lines, line ≠ [] ∧ '\n' ∉ line) :
    cutBlock? (spread lines ++ '\n' :: rest) = some (spread lines, rest) := by
  induction lines with
  | nil => exact absurd rfl hne
  | cons line lines ih =>
      obtain ⟨⟨-, hline⟩, hlater⟩ := List.forall_mem_cons.mp hlines
      rw [spread_cons, List.append_assoc, List.cons_append]
      refine cutBlock?_line hline ?_
      cases lines with
      | nil => rfl
      | cons next more =>
          -- The next line is not empty, so its line feed is not the next character.
          obtain ⟨hfilled, hnext⟩ := hlater next List.mem_cons_self
          have hblank : ¬ ['\n'] <+: spread (next :: more) ++ '\n' :: rest := by
            obtain ⟨c, tail, rfl⟩ := List.exists_cons_of_ne_nil hfilled
            intro hfeed
            rw [spread_cons, List.cons_append, List.cons_append] at hfeed
            obtain ⟨rfl, -⟩ := List.cons_prefix_cons.mp hfeed
            exact hnext List.mem_cons_self
          have hrest := ih (by simp) hlater
          rw [cutBlock?_cons (fun _ => hblank), hrest]
          rfl

theorem lines_line (hline : '\n' ∉ line) :
    EventStream.lines sofar (line ++ '\n' :: rest) =
      dropReturn (sofar.reverse ++ line) :: EventStream.lines [] rest := by
  induction line generalizing sofar with
  | nil => simp [EventStream.lines]
  | cons c line ih =>
      obtain ⟨hc, hline⟩ := List.ne_and_not_mem_of_not_mem_cons hline
      have hother : c = '\n' → False := fun heq => hc heq.symm
      rw [List.cons_append, EventStream.lines.eq_3 _ _ _ hother, ih hline]
      simp

/-- Lines come back as they are. -/
theorem lines_spread (hlines : ∀ line ∈ lines, OneLine line) :
    EventStream.lines [] (spread lines) = lines := by
  induction lines with
  | nil => rfl
  | cons line lines ih =>
      obtain ⟨hline, hlater⟩ := List.forall_mem_cons.mp hlines
      have hreturn : line.getLast? ≠ some '\r' := fun hlast =>
        hline.return_not_mem (List.mem_of_getLast? hlast)
      rw [spread_cons, lines_line hline.feed_not_mem, ih hlater]
      simp [dropReturn_of_last_ne hreturn]

/-- A block of lines is read by itself. -/
theorem framesOf_spread (hne : lines ≠ [])
    (hlines : ∀ line ∈ lines, line ≠ [] ∧ OneLine line) :
    framesOf (spread lines ++ '\n' :: rest) =
      ((frameOf? (spread lines)).toList ++ (framesOf rest).1,
        (framesOf rest).2) := by
  apply framesOf_of_some
  apply cutBlock?_spread hne
  intro line hline
  obtain ⟨hfilled, hone⟩ := hlines line hline
  exact ⟨hfilled, hone.feed_not_mem⟩

theorem joinLineEnds_of_not_mem (htext : '\r' ∉ text) :
    joinLineEnds text = text := by
  induction text with
  | nil => rfl
  | cons c text ih =>
      obtain ⟨hc, htext⟩ := List.ne_and_not_mem_of_not_mem_cons htext
      rw [joinLineEnds_cons (fun heq => absurd heq.symm hc), ih htext]

/-! ## Lines of a frame -/

theorem kindOf?_event : kindOf? ("event:".toList ++ text) =
    some (String.ofList (Text.trimLeft text)) := by
  rw [kindOf?, Text.dropHead?_append]
  rfl

theorem kindOf?_data : kindOf? ("data:".toList ++ text) = none := rfl

theorem dataOf?_data : dataOf? ("data:".toList ++ ' ' :: text) =
    some (String.ofList text) := by
  rw [dataOf?, Text.dropHead?_append]
  rfl

theorem dataOf?_event : dataOf? ("event:".toList ++ text) = none := rfl

theorem dataOf?_comment : dataOf? (':' :: text) = none := rfl

end

/-! ## Frames and comments -/

/-- A frame of two lines: its kind is named, and neither its kind nor its data
holds a line end. -/
structure Frame.Simple (frame : Frame) (kind : String) : Prop where
  named : frame.kind = some kind
  kind_oneLine : OneLine kind.toList
  data_oneLine : OneLine frame.data.toList
  untrimmed : Text.trimLeft (' ' :: kind.toList) = kind.toList

/-- The two lines of a frame. -/
def Frame.lines (frame : Frame) (kind : String) : List (List Char) :=
  ["event:".toList ++ ' ' :: kind.toList,
    "data:".toList ++ ' ' :: frame.data.toList]

/-- A comment, and the blank line after it. -/
def comment (text : String) : String :=
  ":" ++ text ++ "\n\n"

namespace Frame.Simple

variable {frame : Frame} {kind : String}

theorem lines_oneLine (hsimple : frame.Simple kind) :
    ∀ line ∈ frame.lines kind, line ≠ [] ∧ OneLine line := by
  obtain ⟨hfeed, hreturn⟩ := hsimple.kind_oneLine
  obtain ⟨hfeed', hreturn'⟩ := hsimple.data_oneLine
  intro line hline
  obtain rfl | rfl : line = "event:".toList ++ ' ' :: kind.toList ∨
      line = "data:".toList ++ ' ' :: frame.data.toList := by
    simpa [Frame.lines] using hline
  · exact ⟨by simp, by simp [hfeed], by simp [hreturn]⟩
  · exact ⟨by simp, by simp [hfeed'], by simp [hreturn']⟩

theorem render_eq (hsimple : frame.Simple kind) :
    frame.render.toList = spread (frame.lines kind) ++ ['\n'] := by
  have hsingle : frame.data.toList.splitOn '\n' = [frame.data.toList] :=
    List.splitOn_eq_singleton hsimple.data_oneLine.feed_not_mem
  simp [Frame.render, Frame.dataLines, hsimple.named, hsingle, Frame.lines]

theorem frameOf?_eq (hsimple : frame.Simple kind) :
    frameOf? (spread (frame.lines kind)) = some frame := by
  have hlines : EventStream.lines [] (spread (frame.lines kind)) =
      frame.lines kind :=
    lines_spread fun line hline => (hsimple.lines_oneLine line hline).2
  have hdata : (frame.lines kind).filterMap dataOf? = [frame.data] := by
    simp only [Frame.lines, List.filterMap_cons, List.filterMap_nil,
      dataOf?_event, dataOf?_data, String.ofList_toList]
  have hkind : (frame.lines kind).filterMap kindOf? = [kind] := by
    simp only [Frame.lines, List.filterMap_cons, List.filterMap_nil,
      kindOf?_event, kindOf?_data, hsimple.untrimmed, String.ofList_toList]
  obtain ⟨named, data⟩ := frame
  obtain rfl : named = some kind := hsimple.named
  simp [frameOf?, hlines, hdata, hkind]

/-- A frame is read back, whatever follows it. -/
theorem framesOf_render (hsimple : frame.Simple kind) (rest : List Char) :
    framesOf (frame.render.toList ++ rest) =
      (frame :: (framesOf rest).1, (framesOf rest).2) := by
  rw [hsimple.render_eq, List.append_assoc, List.singleton_append,
    framesOf_spread (by simp [Frame.lines]) hsimple.lines_oneLine,
    hsimple.frameOf?_eq]
  rfl

end Frame.Simple

/-- A comment is read as nothing. -/
theorem framesOf_comment {text : String} (htext : OneLine text.toList)
    (rest : List Char) :
    framesOf ((comment text).toList ++ rest) = framesOf rest := by
  have hspread : (comment text).toList =
      spread [':' :: text.toList] ++ ['\n'] := by
    simp [comment]
  have hlines : ∀ line ∈ [':' :: text.toList], line ≠ [] ∧ OneLine line := by
    intro line hline
    obtain rfl := List.mem_singleton.mp hline
    exact ⟨by simp, by simp [htext.feed_not_mem], by simp [htext.return_not_mem]⟩
  have hnothing : frameOf? (spread [':' :: text.toList]) = none := by
    unfold frameOf?
    rw [lines_spread fun line hline => (hlines line hline).2]
    simp [dataOf?_comment]
  rw [hspread, List.append_assoc, List.singleton_append,
    framesOf_spread (by simp) hlines, hnothing]
  simp

/-! ## Bodies -/

/-- A body that holds some frames, one after the other, with comments between
them. -/
inductive Carries : List Frame → String → Prop
  | nil : Carries [] ""
  | frame {frames : List Frame} {body : String} (frame : Frame)
      (hrest : Carries frames body) :
      Carries (frame :: frames) (frame.render ++ body)
  | comment {frames : List Frame} {body text : String}
      (htext : OneLine text.toList) (hrest : Carries frames body) :
      Carries frames (comment text ++ body)

/-- The frames alone are such a body. -/
theorem carries_join (frames : List Frame) :
    Carries frames (String.join (frames.map Frame.render)) := by
  induction frames with
  | nil => exact .nil
  | cons frame frames ih =>
      rw [List.map_cons, String.join_cons]
      exact ih.frame frame

namespace Carries

variable {frames more : List Frame} {body rest : String}

theorem append (hcarries : Carries frames body) (hrest : Carries more rest) :
    Carries (frames ++ more) (body ++ rest) := by
  induction hcarries with
  | nil => simpa using hrest
  | frame frame _ ih =>
      rw [List.cons_append, String.append_assoc]
      exact ih.frame frame
  | comment htext _ ih =>
      rw [String.append_assoc]
      exact ih.comment htext

theorem framesOf_eq (hcarries : Carries frames body)
    (hframes : ∀ frame ∈ frames, ∃ kind, frame.Simple kind) :
    framesOf body.toList = (frames, []) := by
  induction hcarries with
  | nil => exact framesOf_of_none rfl
  | frame frame _ ih =>
      obtain ⟨⟨kind, hsimple⟩, hlater⟩ := List.forall_mem_cons.mp hframes
      rw [String.toList_append, hsimple.framesOf_render, ih hlater]
  | comment htext _ ih =>
      rw [String.toList_append, framesOf_comment htext, ih hframes]

theorem return_not_mem (hcarries : Carries frames body)
    (hframes : ∀ frame ∈ frames, ∃ kind, frame.Simple kind) :
    '\r' ∉ body.toList := by
  induction hcarries with
  | nil => simp
  | frame frame _ ih =>
      obtain ⟨⟨kind, hsimple⟩, hlater⟩ := List.forall_mem_cons.mp hframes
      have hkind : '\r' ∉ kind.toList := hsimple.kind_oneLine.return_not_mem
      have hdata : '\r' ∉ frame.data.toList :=
        hsimple.data_oneLine.return_not_mem
      rw [String.toList_append, hsimple.render_eq]
      simp [Frame.lines, hkind, hdata, ih hlater]
  | @comment _ _ text htext _ ih =>
      simp [EventStream.comment, htext.return_not_mem, ih hframes]

/-- A reader that is fed such a body hands out the frames and keeps nothing
back. -/
theorem feed_eq (hcarries : Carries frames body)
    (hframes : ∀ frame ∈ frames, ∃ kind, frame.Simple kind) :
    Reader.fresh.feed body.toList = (Reader.fresh, frames) := by
  have hjoined := joinLineEnds_of_not_mem (hcarries.return_not_mem hframes)
  simp [Reader.feed, Reader.fresh, hjoined, hcarries.framesOf_eq hframes]

end Carries

end Workflow.EventStream
