import Workflow.Proofs.EventStream.Frames

/-!
# After bytes that are not well formed

Two line feeds end whatever block is open, so a frame that comes after them is
read by itself: `framesOf_after_blank`.  This needs the bytes before it to be
the encoding of a text.  A reader keeps the bytes that are no character, as if
they were the beginning of one, and all that come later wait behind them.
`Reader.feedAll_after` says both: after bytes that are well formed the frame is
the last one to be handed out, and after others nothing is handed out any more
(`Reader.feedAll_silenced`).
-/

namespace Workflow.EventStream

open Text (OneLine)

variable {text : List Char} {lines : List (List Char)}

/-! ## Frames of several lines -/

/-- Lines that make up a frame: none of them is empty or holds a line end, and
there is data. -/
structure Complete (lines : List (List Char)) : Prop where
  oneLine : ∀ line ∈ lines, line ≠ [] ∧ OneLine line
  data : ∃ line ∈ lines, "data:".toList <+: line

/-- The frame that lines make up: the last kind that is named, and the data of
all lines that hold some. -/
def frameOfLines (lines : List (List Char)) : Frame :=
  ⟨(lines.filterMap kindOf?).getLast?, "\n".intercalate (lines.filterMap dataOf?)⟩

theorem Complete.ne_nil (hcomplete : Complete lines) : lines ≠ [] := by
  rintro rfl
  obtain ⟨line, hmem, -⟩ := hcomplete.data
  contradiction

theorem Complete.frame_eq (hcomplete : Complete lines) :
    (if (lines.filterMap dataOf?).isEmpty then none
      else some (frameOfLines lines)) = some (frameOfLines lines) := by
  obtain ⟨line, hmem, rest, rfl⟩ := hcomplete.data
  refine if_neg ?_
  intro hempty
  have hnone := List.filterMap_eq_nil_iff.mp (List.isEmpty_iff.mp hempty) _ hmem
  rw [dataOf?, Text.dropHead?_append] at hnone
  contradiction

/-- Lines that make up a frame are read as it. -/
theorem Complete.frameOf?_eq (hcomplete : Complete lines) :
    frameOf? (spread lines) = some (frameOfLines lines) := by
  unfold frameOf?
  rw [lines_spread fun line hline => (hcomplete.oneLine line hline).2]
  exact hcomplete.frame_eq

/-- An empty line before them does not count. -/
theorem Complete.frameOf?_feed (hcomplete : Complete lines) :
    frameOf? ('\n' :: spread lines) = some (frameOfLines lines) := by
  have hlines : EventStream.lines [] ('\n' :: spread lines) = [] :: lines := by
    rw [EventStream.lines,
      lines_spread fun line hline => (hcomplete.oneLine line hline).2]
    rfl
  unfold frameOf?
  rw [hlines]
  exact hcomplete.frame_eq

theorem Complete.cutBlock?_feed (hcomplete : Complete lines) :
    cutBlock? ('\n' :: (spread lines ++ ['\n'])) =
      some ('\n' :: spread lines, []) := by
  have hcut : cutBlock? (spread lines ++ ['\n']) = some (spread lines, []) := by
    apply cutBlock?_spread hcomplete.ne_nil
    intro line hline
    obtain ⟨hfilled, hone⟩ := hcomplete.oneLine line hline
    exact ⟨hfilled, hone.feed_not_mem⟩
  have hblank : ¬ ['\n'] <+: spread lines ++ ['\n'] := by
    obtain ⟨line, later, rfl⟩ := List.exists_cons_of_ne_nil hcomplete.ne_nil
    obtain ⟨hfilled, hone⟩ := hcomplete.oneLine line List.mem_cons_self
    obtain ⟨c, line, rfl⟩ := List.exists_cons_of_ne_nil hfilled
    intro hfeed
    rw [spread_cons, List.cons_append, List.cons_append] at hfeed
    obtain ⟨rfl, -⟩ := List.cons_prefix_cons.mp hfeed
    exact hone.feed_not_mem List.mem_cons_self
  rw [cutBlock?_cons fun _ => hblank, hcut]
  rfl

/-! ## Frames after a blank line -/

/-- Two line feeds end a block, and one of them may be left. -/
theorem exists_cutBlock?_blank (hcut : cutBlock? text = none) :
    ∃ block rest, cutBlock? (text ++ ['\n', '\n']) = some (block, rest) ∧
      (rest = [] ∨ rest = ['\n']) := by
  induction text with
  | nil => exact ⟨['\n'], [], rfl, .inl rfl⟩
  | cons c text ih =>
      by_cases hblank : c = '\n' ∧ ['\n'] <+: text ++ ['\n', '\n']
      · obtain ⟨rfl, hfeed⟩ := hblank
        cases text with
        | nil => exact ⟨['\n'], ['\n'], rfl, .inr rfl⟩
        | cons d text =>
            rw [List.cons_append] at hfeed
            obtain ⟨rfl, -⟩ := List.cons_prefix_cons.mp hfeed
            simp [cutBlock?] at hcut
      · have hopen : c = '\n' → ¬ ['\n'] <+: text := by
          rintro rfl hfeed
          exact hblank ⟨rfl, hfeed.trans (List.prefix_append _ _)⟩
        rw [cutBlock?_cons hopen, Option.map_eq_none_iff] at hcut
        obtain ⟨block, rest, hblock, hrest⟩ := ih hcut
        refine ⟨c :: block, rest, ?_, hrest⟩
        rw [List.cons_append, cutBlock?_cons fun hc hfeed => hblank ⟨hc, hfeed⟩,
          hblock]
        rfl

theorem framesOf_blank (text : List Char) :
    (framesOf (text ++ ['\n', '\n'])).2 = [] ∨
      (framesOf (text ++ ['\n', '\n'])).2 = ['\n'] := by
  rw [framesOf_append]
  obtain ⟨block, rest, hcut, hrest⟩ :=
    exists_cutBlock?_blank (cutBlock?_framesOf text)
  rw [framesOf_of_some hcut]
  obtain rfl | rfl := hrest
  · exact .inl (congrArg Prod.snd (framesOf_of_none rfl))
  · exact .inr (congrArg Prod.snd (framesOf_of_none rfl))

/-- A frame after two line feeds is the last one of the text. -/
theorem framesOf_after_blank (hcomplete : Complete lines) (text : List Char) :
    (framesOf (text ++ ['\n', '\n'] ++ (spread lines ++ ['\n']))).1.getLast? =
      some (frameOfLines lines) := by
  have hempty : framesOf [] = ([], []) := framesOf_of_none rfl
  rw [framesOf_append]
  obtain hleft | hleft := framesOf_blank text
  · rw [hleft, List.nil_append,
      framesOf_spread hcomplete.ne_nil hcomplete.oneLine, hempty,
      hcomplete.frameOf?_eq]
    simp
  · rw [hleft, List.singleton_append,
      framesOf_of_some hcomplete.cutBlock?_feed, hempty,
      hcomplete.frameOf?_feed]
    simp

/-! ## Readers -/

theorem map_joinLineEnds {pieces : List (List Char)}
    (hreturn : '\r' ∉ pieces.flatten) : pieces.map joinLineEnds = pieces := by
  have hpiece : ∀ piece ∈ pieces, joinLineEnds piece = piece := by
    intro piece hmem
    apply joinLineEnds_of_not_mem
    intro hpiece
    exact hreturn (List.mem_flatten_of_mem hmem hpiece)
  rw [List.map_congr_left hpiece, List.map_id']

namespace Reader

variable {chunks : List (List UInt8)} {before more : List UInt8}

/-- Without carriage returns the cuts between chunks do not matter. -/
theorem feedAll_eq (hreturn : '\r' ∉ (Utf8.decode chunks.flatten).1) :
    (fresh.feedAll chunks).2 = (framesOf (Utf8.decode chunks.flatten).1).1 := by
  have htexts : (texts [] chunks).flatten = (Utf8.decode chunks.flatten).1 :=
    flatten_texts chunks rfl
  have hjoined := map_joinLineEnds (htexts ▸ hreturn)
  have hframes : (fresh.feedAll chunks).2 =
      (framesOf ([] ++ ((texts [] chunks).map joinLineEnds).flatten)).1 :=
    feedAll_frames chunks rfl
  rw [hframes, hjoined, htexts, List.nil_append]

theorem return_not_mem_decode (hreturn : 0x0D ∉ before) :
    '\r' ∉ (Utf8.decode before).1 := by
  intro hmem
  apply hreturn
  rw [← Utf8.flatMap_decode before, List.mem_append, List.mem_flatMap]
  exact .inl ⟨'\r', hmem, List.mem_singleton_self _⟩

/-- Bytes that are not well formed are the last ones that are looked at. -/
theorem feedAll_stuck (hreturn : 0x0D ∉ before)
    (hbroken : ¬ ∃ text, before = Utf8.encode text)
    (hchunks : chunks.flatten = before ++ 0x0A :: more) :
    (fresh.feedAll chunks).2 = (fresh.feedBytes before).2 := by
  have hwaits : (Utf8.decode before).2 ≠ [] := by
    intro hnothing
    apply hbroken
    refine ⟨String.ofList (Utf8.decode before).1, Utf8.decode_eq_iff.mp ?_⟩
    rw [String.toList_ofList, ← hnothing]
  have hread : (Utf8.decode chunks.flatten).1 = (Utf8.decode before).1 := by
    rw [hchunks, Utf8.decode_stuck hwaits (by decide)]
  have hnone := return_not_mem_decode hreturn
  rw [feedAll_eq (hread ▸ hnone), hread]
  have hjoined := joinLineEnds_of_not_mem hnone
  simp [feedBytes, feed, fresh, hjoined]

/-- Bytes that are well formed do not keep a frame back. -/
theorem feedAll_last (hreturn : 0x0D ∉ before) (hcomplete : Complete lines)
    (hbefore : ∃ text, before = Utf8.encode text)
    (hchunks : chunks.flatten = before ++ [0x0A, 0x0A] ++
      Utf8.encode (String.ofList (spread lines ++ ['\n']))) :
    (fresh.feedAll chunks).2.getLast? = some (frameOfLines lines) := by
  obtain ⟨text, rfl⟩ := hbefore
  have hread : Utf8.decode chunks.flatten =
      (text.toList ++ ['\n', '\n'] ++ (spread lines ++ ['\n']), []) := by
    have hfeeds : ([0x0A, 0x0A] : List UInt8) =
        ['\n', '\n'].flatMap String.utf8EncodeChar := rfl
    rw [hchunks, Utf8.encode_eq, Utf8.encode_eq, String.toList_ofList, hfeeds,
      ← List.flatMap_append, ← List.flatMap_append, Utf8.decode_flatMap]
  have htext : '\r' ∉ text.toList := by
    have hnone := return_not_mem_decode hreturn
    rwa [Utf8.decode_eq_iff.mpr rfl] at hnone
  have hlines : '\r' ∉ spread lines := by
    intro hmem
    obtain ⟨line, hline, hmem⟩ := List.mem_flatMap.mp hmem
    have hone := (hcomplete.oneLine line hline).2
    simp [hone.return_not_mem] at hmem
  have hnone : '\r' ∉ (Utf8.decode chunks.flatten).1 := by
    rw [hread]
    simp [htext, hlines]
  rw [feedAll_eq hnone, hread]
  exact framesOf_after_blank hcomplete text.toList

/-- After bytes and two line feeds a frame is the last one to be handed out,
however the bytes are cut, if they are well formed.  If they are not, nothing
after them is handed out. -/
theorem feedAll_after (hreturn : 0x0D ∉ before) (hcomplete : Complete lines)
    (hchunks : chunks.flatten = before ++ [0x0A, 0x0A] ++
      Utf8.encode (String.ofList (spread lines ++ ['\n']))) :
    ((∃ text, before = Utf8.encode text) →
      (fresh.feedAll chunks).2.getLast? = some (frameOfLines lines)) ∧
    ((¬ ∃ text, before = Utf8.encode text) →
      (fresh.feedAll chunks).2 = (fresh.feedBytes before).2) := by
  constructor
  · intro hbefore
    exact feedAll_last hreturn hcomplete hbefore hchunks
  · intro hbroken
    rw [List.append_assoc] at hchunks
    exact feedAll_stuck hreturn hbroken hchunks

/-- The lines of a frame with a comment, a kind and two lines of data. -/
def news : List (List Char) :=
  [": é".toList, "event: news".toList, "data: a".toList, "data:b".toList]

theorem complete_news : Complete news where
  oneLine := by
    have hcheck : ∀ line ∈ news, line ≠ [] ∧ '\n' ∉ line ∧ '\r' ∉ line := by
      decide
    intro line hline
    obtain ⟨hfilled, hfeed, hreturn⟩ := hcheck line hline
    exact ⟨hfilled, hfeed, hreturn⟩
  data := ⟨"data: a".toList, by decide, by decide⟩

/-- An open line before the frame, and a cut inside a character of it. -/
theorem feedAll_after_news :
    (0x0D : UInt8) ∉ Utf8.encode "data: è" ∧
    Complete news ∧
    [Utf8.encode "data: è" ++ [0x0A], [0x0A, 0x3A, 0x20, 0xC3],
        [0xA9] ++ Utf8.encode "\nevent: news\ndata: a\ndata:b\n\n"].flatten =
      Utf8.encode "data: è" ++ [0x0A, 0x0A] ++
        Utf8.encode (String.ofList (spread news ++ ['\n'])) ∧
    (fresh.feedAll [Utf8.encode "data: è" ++ [0x0A], [0x0A, 0x3A, 0x20, 0xC3],
        [0xA9] ++ Utf8.encode "\nevent: news\ndata: a\ndata:b\n\n"]).2.getLast? =
      some ⟨some "news", "a\nb"⟩ := by
  have hreturn : (0x0D : UInt8) ∉ Utf8.encode "data: è" := by decide +kernel
  have hchunks :
      [Utf8.encode "data: è" ++ [0x0A], [0x0A, 0x3A, 0x20, 0xC3],
          [0xA9] ++ Utf8.encode "\nevent: news\ndata: a\ndata:b\n\n"].flatten =
        Utf8.encode "data: è" ++ [0x0A, 0x0A] ++
          Utf8.encode (String.ofList (spread news ++ ['\n'])) := by
    decide +kernel
  have hframe : frameOfLines news = ⟨some "news", "a\nb"⟩ := by decide +kernel
  have hlast := (feedAll_after hreturn complete_news hchunks).1 ⟨_, rfl⟩
  exact ⟨hreturn, complete_news, hchunks, hframe ▸ hlast⟩

/-- One byte that is part of no character, and a frame that is never seen. -/
theorem feedAll_silenced :
    (fresh.feedAll [[0xFF], [0x0A, 0x0A], Utf8.encode "data: a\n\n"]).2 = [] ∧
      (fresh.feedAll [[0x0A, 0x0A], Utf8.encode "data: a\n\n"]).2 =
        [⟨none, "a"⟩] := by
  decide +kernel

end Reader

end Workflow.EventStream
