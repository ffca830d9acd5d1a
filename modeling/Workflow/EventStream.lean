import Workflow.Text.Blank
import Workflow.Text.Utf8

/-!
# Event streams

A body of type `text/event-stream` is a sequence of frames; a blank line ends a frame.  A `Reader`
takes the body in chunks as they arrive and hands out the frames that each chunk completes.  A
character that is cut by the end of a chunk waits for the next one.
-/

namespace Workflow.EventStream

/-- A frame: the kind that it names, and its data lines. -/
structure Frame where
  kind : Option String
  data : String
deriving DecidableEq, Repr

namespace Frame

/-- The data lines of a frame. -/
def dataLines (frame : Frame) : List String :=
  (frame.data.toList.splitOn '\n').map fun line => "data: " ++ String.ofList line ++ "\n"

/-- A frame as it is written. -/
def render (frame : Frame) : String :=
  let kind := match frame.kind with
    | some kind => "event: " ++ kind ++ "\n"
    | none => ""
  kind ++ String.join frame.dataLines ++ "\n"

end Frame

/-- What a reader has taken in and not handed out. -/
structure Reader where
  /-- Text of a frame that is not complete. -/
  buffer : List Char
  /-- Bytes of a character that is not complete. -/
  pending : List UInt8
deriving DecidableEq, Repr

/-- A reader that has taken in nothing. -/
def Reader.fresh : Reader :=
  ⟨[], []⟩

/-- Join carriage returns with the line feeds after them. -/
def joinLineEnds : List Char → List Char
  | [] => []
  | '\r' :: '\n' :: rest => '\n' :: joinLineEnds rest
  | c :: rest => c :: joinLineEnds rest

/-- The text up to and with the first blank line, without its last line feed, and what follows. -/
def cutBlock? : List Char → Option (List Char × List Char)
  | [] => none
  | '\n' :: '\n' :: rest => some (['\n'], rest)
  | c :: rest => (cutBlock? rest).map fun (block, rest) => (c :: block, rest)

theorem length_of_cutBlock? {text block rest : List Char}
    (h : cutBlock? text = some (block, rest)) : rest.length < text.length := by
  induction text generalizing block with
  | nil => simp [cutBlock?] at h
  | cons c more ih =>
    unfold cutBlock? at h
    split at h
    · simp at h
    · rename_i heq
      simp only [List.cons.injEq] at heq
      simp only [Option.some.injEq, Prod.mk.injEq] at h
      obtain ⟨-, rfl⟩ := heq
      obtain ⟨-, rfl⟩ := h
      simp only [List.length_cons]
      omega
    · rename_i heq
      simp only [List.cons.injEq] at heq
      obtain ⟨-, rfl⟩ := heq
      simp only [Option.map_eq_some_iff, Prod.mk.injEq, Prod.exists] at h
      obtain ⟨block', rest', h', -, rfl⟩ := h
      have := ih h'
      simp only [List.length_cons]
      omega

/-- Drop a carriage return at the end of a line. -/
def dropReturn (line : List Char) : List Char :=
  match line.reverse with
  | '\r' :: rest => rest.reverse
  | _ => line

/-- The lines of a block, each of which ends with a line feed. -/
def lines : List Char → List Char → List (List Char)
  | sofar, [] => if sofar.isEmpty then [] else [sofar.reverse]
  | sofar, '\n' :: rest => dropReturn sofar.reverse :: lines [] rest
  | sofar, c :: rest => lines (c :: sofar) rest

/-- The kind that a line names. -/
def kindOf? (line : List Char) : Option String :=
  (Text.dropHead? "event:".toList line).map fun rest => String.ofList (Text.trimLeft rest)

/-- The data that a line holds; one blank after the colon does not count. -/
def dataOf? (line : List Char) : Option String :=
  (Text.dropHead? "data:".toList line).map fun rest =>
    String.ofList (match rest with
      | ' ' :: data => data
      | data => data)

/-- The frame of a block; none if it has no data.  The last kind that is named stands. -/
def frameOf? (block : List Char) : Option Frame :=
  let lines := lines [] block
  let data := lines.filterMap dataOf?
  if data.isEmpty then none
  else some ⟨(lines.filterMap kindOf?).getLast?, "\n".intercalate data⟩

/-- The frames of the complete blocks of a text, and the text after them. -/
def framesOf (text : List Char) : List Frame × List Char :=
  match _h : cutBlock? text with
  | none => ([], text)
  | some (block, rest) =>
    let (frames, left) := framesOf rest
    ((frameOf? block).toList ++ frames, left)
termination_by text.length
decreasing_by exact length_of_cutBlock? _h

namespace Reader

/-- Take in text. -/
def feed (reader : Reader) (text : List Char) : Reader × List Frame :=
  let (frames, left) := framesOf (reader.buffer ++ joinLineEnds text)
  ({ reader with buffer := left }, frames)

/-- Take in bytes.  Bytes that are not well formed, and all after them, are never read. -/
def feedBytes (reader : Reader) (bytes : List UInt8) : Reader × List Frame :=
  let (text, left) := Utf8.decode (reader.pending ++ bytes)
  feed { reader with pending := left } text

/-- Take in chunks of bytes one after the other. -/
def feedAll (reader : Reader) : List (List UInt8) → Reader × List Frame
  | [] => (reader, [])
  | chunk :: rest =>
    let (next, frames) := reader.feedBytes chunk
    let (last, more) := feedAll next rest
    (last, frames ++ more)

end Reader

end Workflow.EventStream
