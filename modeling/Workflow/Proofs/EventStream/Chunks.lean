import Workflow.EventStream
import Workflow.Proofs.Text.Utf8

/-!
# Event streams in chunks

A reader takes in the body of a stream in chunks, and the cuts between them can
fall anywhere.  A cut inside a character does no harm, nor does one inside a
frame.  A cut between a carriage return and its line feed leaves the carriage
return in the buffer, since line ends are joined chunk by chunk.  At the end of
a line it is dropped later.  But where the two stand for a blank line, that line
is never seen, and the frame before it is not handed out
(`Reader.feedAll_ne_feedBytes`).

`Reader.feedAll_eq_feedBytes` says that this is all that can go wrong.  What a
reader buffers is related by `Loose` to the text whose line ends are all joined.
-/

namespace Workflow.EventStream

/-! ## Cuts -/

section

variable {α : Type}

/-- A cut that parts a carriage return from its line feed, right after another
line feed or carriage return. -/
def PartsBlankLine (cr lf : α) (before after : List α) : Prop :=
  ([lf, cr] <:+ before ∨ [cr, cr] <:+ before) ∧ [lf] <+: after

instance [DecidableEq α] (cr lf : α) (before after : List α) :
    Decidable (PartsBlankLine cr lf before after) :=
  inferInstanceAs (Decidable ((_ ∨ _) ∧ _))

/-- None of the cuts before some chunks parts a blank line. -/
def Careful (cr lf : α) (before : List α) : List (List α) → Prop
  | [] => True
  | chunk :: chunks =>
    ¬ PartsBlankLine cr lf before (chunk :: chunks).flatten ∧
      Careful cr lf (before ++ chunk) chunks

theorem Careful.not_parts {cr lf : α} {before : List α}
    {chunks : List (List α)} (hcareful : Careful cr lf before chunks) :
    ¬ PartsBlankLine cr lf before chunks.flatten := by
  cases chunks with
  | nil => simp [PartsBlankLine]
  | cons chunk chunks => exact hcareful.1

theorem careful_of_forall {cr lf : α} {before : List α}
    {chunks : List (List α)}
    (hcuts : ∀ n < chunks.length, ¬ PartsBlankLine cr lf
      (before ++ (chunks.take n).flatten) (chunks.drop n).flatten) :
    Careful cr lf before chunks := by
  induction chunks generalizing before with
  | nil => trivial
  | cons chunk chunks ih =>
      refine ⟨by simpa using hcuts 0 (by simp), ih fun n hn => ?_⟩
      simpa using hcuts (n + 1) (by simpa using hn)

end

/-! ## Line ends -/

/-- A text, last read after some character, in which the line ends are joined
but for some that do not belong to blank lines, and the text in which all of
them are. -/
inductive Loose : Option Char → List Char → List Char → Prop
  | nil {last : Option Char} : Loose last [] []
  | keep {last : Option Char} {loose joined : List Char} (c : Char)
      (htail : Loose (some c) loose joined) :
      Loose last (c :: loose) (c :: joined)
  | join {last : Option Char} {loose joined : List Char}
      (hreturn : last ≠ some '\r') (hfeed : last ≠ some '\n')
      (htail : Loose (some '\n') loose joined) :
      Loose last ('\r' :: '\n' :: loose) ('\n' :: joined)

theorem Loose.append {last : Option Char} {loose joined : List Char}
    (text : List Char) (hloose : Loose (text.getLast?.or last) loose joined) :
    Loose last (text ++ loose) (text ++ joined) := by
  induction text generalizing last with
  | nil => simpa using hloose
  | cons c text ih =>
      have hcons : (c :: text).getLast?.or last =
          text.getLast?.or (some c) := by
        cases hlast : text.getLast? <;> simp [List.getLast?_cons, hlast]
      exact .keep c (ih (hcons ▸ hloose))

/-- A line feed after a line feed or a carriage return stands for itself. -/
theorem Loose.of_joined {last : Option Char} {loose joined : List Char}
    (hlast : last = some '\r' ∨ last = some '\n')
    (hloose : Loose last loose ('\n' :: joined)) :
    ∃ rest, loose = '\n' :: rest ∧ Loose (some '\n') rest joined := by
  cases hloose with
  | keep _ htail => exact ⟨_, rfl, htail⟩
  | join hreturn hfeed _ => exact (hlast.elim hreturn hfeed).elim

/-- So does one of a loose text. -/
theorem Loose.of_loose {last : Option Char} {loose joined : List Char}
    (hloose : Loose last ('\n' :: loose) joined) :
    ∃ rest, joined = '\n' :: rest ∧ Loose (some '\n') loose rest := by
  cases hloose with
  | keep _ htail => exact ⟨_, rfl, htail⟩

theorem joinLineEnds_cons {c : Char} {text : List Char}
    (hcut : c = '\r' → ¬ ['\n'] <+: text) :
    joinLineEnds (c :: text) = c :: joinLineEnds text := by
  refine joinLineEnds.eq_3 c text ?_
  rintro rest rfl rfl
  exact hcut rfl ⟨rest, rfl⟩

/-- Line ends can be joined piece by piece where no cut parts one. -/
theorem joinLineEnds_append {front back : List Char}
    (hcut : ['\r'] <:+ front → ¬ ['\n'] <+: back) :
    joinLineEnds (front ++ back) = joinLineEnds front ++ joinLineEnds back := by
  induction front using joinLineEnds.induct with
  | case1 => rfl
  | case2 rest ih =>
      have htail := ih fun hreturn =>
        hcut (hreturn.trans (List.suffix_append ['\r', '\n'] rest))
      simp [joinLineEnds, htail]
  | case3 c rest hne ih =>
      have htail := ih fun hreturn =>
        hcut (hreturn.trans (List.suffix_cons c rest))
      have hhead : c = '\r' → ¬ ['\n'] <+: rest ++ back := by
        rintro rfl hfeed
        cases rest with
        | nil => exact hcut (List.suffix_refl _) hfeed
        | cons d rest =>
            obtain ⟨rfl, -⟩ := List.cons_prefix_cons.mp hfeed
            exact hne rest rfl rfl
      rw [joinLineEnds.eq_3 c rest hne, List.cons_append,
        joinLineEnds_cons hhead, htail, List.cons_append]

theorem getLast?_joinLineEnds (text : List Char) :
    (joinLineEnds text).getLast? = text.getLast? := by
  induction text using joinLineEnds.induct with
  | case1 => rfl
  | case2 rest ih => simp [joinLineEnds, List.getLast?_cons, ih]
  | case3 c rest hne ih =>
      rw [joinLineEnds.eq_3 c rest hne]
      simp [List.getLast?_cons, ih]

theorem last_of_not_parts {front back : List Char}
    (hparts : ¬ PartsBlankLine '\r' '\n' (front ++ ['\r']) back)
    (hfeed : ['\n'] <+: back) :
    front.getLast? ≠ some '\r' ∧ front.getLast? ≠ some '\n' := by
  constructor
  · intro hlast
    obtain ⟨rest, rfl⟩ := List.getLast?_eq_some_iff.mp hlast
    exact hparts ⟨.inr ⟨rest, by simp⟩, hfeed⟩
  · intro hlast
    obtain ⟨rest, rfl⟩ := List.getLast?_eq_some_iff.mp hlast
    exact hparts ⟨.inl ⟨rest, by simp⟩, hfeed⟩

/-- Where no cut parts a blank line, joining line ends piece by piece leaves a
text loose at most. -/
theorem loose_of_careful {before : List Char} {pieces : List (List Char)}
    (hcareful : Careful '\r' '\n' before pieces) :
    Loose before.getLast? (pieces.map joinLineEnds).flatten
      (joinLineEnds pieces.flatten) := by
  induction pieces generalizing before with
  | nil => exact .nil
  | cons piece pieces ih =>
      have htail := ih hcareful.2
      rw [List.map_cons, List.flatten_cons, List.flatten_cons]
      by_cases hcut : ['\r'] <:+ piece ∧ ['\n'] <+: pieces.flatten
      · -- The cut parts a line end, but not that of a blank line.
        obtain ⟨⟨front, rfl⟩, ⟨back, hback⟩⟩ := hcut
        have hparts := hcareful.2.not_parts
        rw [← List.append_assoc] at hparts htail
        obtain ⟨hreturn, hfeed⟩ := last_of_not_parts hparts ⟨back, hback⟩
        rw [← hback, List.getLast?_concat] at htail
        obtain ⟨rest, hrest, hloose⟩ := Loose.of_joined (.inl rfl) htail
        rw [hrest, ← hback, List.append_assoc, List.singleton_append,
          joinLineEnds_append (by simp), joinLineEnds_append (by simp),
          List.append_assoc]
        refine .append _ (.join ?_ ?_ hloose)
        all_goals rwa [getLast?_joinLineEnds, ← List.getLast?_append]
      · rw [joinLineEnds_append (fun hreturn hfeed => hcut ⟨hreturn, hfeed⟩)]
        refine .append _ ?_
        rwa [getLast?_joinLineEnds, ← List.getLast?_append]

/-! ## Blocks and frames -/

theorem cutBlock?_cons {c : Char} {text : List Char}
    (hblank : c = '\n' → ¬ ['\n'] <+: text) :
    cutBlock? (c :: text) =
      (cutBlock? text).map fun (block, rest) => (c :: block, rest) := by
  refine cutBlock?.eq_3 c text ?_
  rintro rest rfl rfl
  exact hblank rfl ⟨rest, rfl⟩

/-- Two texts have no complete block, or first blocks and rests that are loose
and joined. -/
def Together (last : Option Char) : Option (List Char × List Char) →
    Option (List Char × List Char) → Prop
  | none, none => True
  | some (block, rest), some (block', rest') =>
    Loose last block block' ∧ Loose (some '\n') rest rest'
  | _, _ => False

theorem Together.map {last next : Option Char} (head head' : List Char)
    {cut cut' : Option (List Char × List Char)}
    (hhead : ∀ {block block'}, Loose next block block' →
      Loose last (head ++ block) (head' ++ block'))
    (htogether : Together next cut cut') :
    Together last (cut.map fun (block, rest) => (head ++ block, rest))
      (cut'.map fun (block, rest) => (head' ++ block, rest)) := by
  cases cut <;> cases cut' <;> simp_all [Together]

/-- Blocks end at the same places, whether line ends are loose or joined. -/
theorem Loose.cutBlock? {last : Option Char} {loose joined : List Char}
    (hloose : Loose last loose joined) :
    Together last (EventStream.cutBlock? loose)
      (EventStream.cutBlock? joined) := by
  induction hloose with
  | nil => exact trivial
  | @keep last loose joined c htail ih =>
      by_cases hblank : c = '\n' ∧ ['\n'] <+: joined
      · obtain ⟨rfl, joined, rfl⟩ := hblank
        obtain ⟨loose, rfl, hrest⟩ := htail.of_joined (.inr rfl)
        exact ⟨.keep _ .nil, hrest⟩
      · have hloose : c = '\n' → ¬ ['\n'] <+: loose := by
          rintro rfl ⟨rest, rfl⟩
          obtain ⟨rest, rfl, -⟩ := htail.of_loose
          exact hblank ⟨rfl, rest, rfl⟩
        rw [cutBlock?_cons hloose, cutBlock?_cons fun hc hj => hblank ⟨hc, hj⟩]
        exact ih.map [c] [c] (.keep c)
  | @join last loose joined hreturn hfeed htail ih =>
      by_cases hblank : ['\n'] <+: joined
      · obtain ⟨joined, rfl⟩ := hblank
        obtain ⟨loose, rfl, hrest⟩ := htail.of_joined (.inr rfl)
        exact ⟨.join hreturn hfeed .nil, hrest⟩
      · have hloose : ¬ ['\n'] <+: loose := by
          rintro ⟨rest, rfl⟩
          obtain ⟨rest, rfl, -⟩ := htail.of_loose
          exact hblank ⟨rest, rfl⟩
        rw [cutBlock?_cons (by simp), cutBlock?_cons fun _ => hloose,
          cutBlock?_cons fun _ => hblank, Option.map_map]
        exact ih.map ['\r', '\n'] ['\n'] (.join hreturn hfeed)

theorem dropReturn_concat (line : List Char) :
    dropReturn (line ++ ['\r']) = line := by
  simp [dropReturn]

theorem dropReturn_of_last_ne {line : List Char}
    (hlast : line.getLast? ≠ some '\r') : dropReturn line = line := by
  unfold dropReturn
  split
  next rest hreverse =>
    simp [List.getLast?_eq_head?_reverse, hreverse] at hlast
  next => rfl

/-- The lines of a block are the same, since each loses its carriage return. -/
theorem Loose.lines {last : Option Char} {loose joined sofar : List Char}
    (hloose : Loose last loose joined)
    (hsofar : sofar = [] ∨ sofar.head? = last) :
    EventStream.lines sofar loose = EventStream.lines sofar joined := by
  induction hloose generalizing sofar with
  | nil => rfl
  | @keep last loose joined c htail ih =>
      by_cases hfeed : c = '\n'
      · subst hfeed
        rw [EventStream.lines, EventStream.lines, ih (.inl rfl)]
      · rw [EventStream.lines.eq_3 _ _ _ hfeed,
          EventStream.lines.eq_3 _ _ _ hfeed, ih (.inr rfl)]
  | @join last loose joined hreturn hfeed htail ih =>
      have hlast : sofar.reverse.getLast? ≠ some '\r' := by
        rw [List.getLast?_reverse]
        rcases hsofar with rfl | hsofar
        · simp
        · rwa [hsofar]
      rw [EventStream.lines.eq_3 _ _ _ (by simp), EventStream.lines,
        EventStream.lines, ih (.inl rfl), List.reverse_cons, dropReturn_concat,
        dropReturn_of_last_ne hlast]

theorem Loose.frameOf? {last : Option Char} {loose joined : List Char}
    (hloose : Loose last loose joined) :
    EventStream.frameOf? loose = EventStream.frameOf? joined := by
  unfold EventStream.frameOf?
  rw [hloose.lines (.inl rfl)]

theorem framesOf_of_none {text : List Char} (hcut : cutBlock? text = none) :
    framesOf text = ([], text) := by
  rw [framesOf]
  split
  next => rfl
  next heq => simp [hcut] at heq

theorem framesOf_of_some {text block rest : List Char}
    (hcut : cutBlock? text = some (block, rest)) :
    framesOf text =
      ((EventStream.frameOf? block).toList ++ (framesOf rest).1,
        (framesOf rest).2) := by
  rw [framesOf]
  split
  next heq => simp [hcut] at heq
  next heq =>
    obtain ⟨rfl, rfl⟩ := Prod.mk.inj (Option.some.inj (hcut.symm.trans heq))
    rfl

/-- Loose line ends do not show in the frames. -/
theorem Loose.framesOf {last : Option Char} {loose joined : List Char}
    (hloose : Loose last loose joined) :
    (EventStream.framesOf loose).1 = (EventStream.framesOf joined).1 := by
  induction joined using EventStream.framesOf.induct generalizing last loose with
  | case1 joined hcut =>
      have htogether := hloose.cutBlock?
      rw [hcut] at htogether
      cases hloosely : EventStream.cutBlock? loose with
      | none => rw [framesOf_of_none hloosely, framesOf_of_none hcut]
      | some _ => simp [hloosely, Together] at htogether
  | case2 joined block rest hcut _ _ _ ih =>
      have htogether := hloose.cutBlock?
      rw [hcut] at htogether
      cases hloosely : EventStream.cutBlock? loose with
      | none => simp [hloosely, Together] at htogether
      | some cut =>
          obtain ⟨block', rest'⟩ := cut
          rw [hloosely] at htogether
          obtain ⟨hblock, hrest⟩ := htogether
          rw [framesOf_of_some hloosely, framesOf_of_some hcut, hblock.frameOf?,
            ih hrest]

/-! ## Text in pieces -/

theorem cutBlock?_append {text block rest : List Char} (more : List Char)
    (hcut : cutBlock? text = some (block, rest)) :
    cutBlock? (text ++ more) = some (block, rest ++ more) := by
  induction text using cutBlock?.induct generalizing block with
  | case1 => simp [cutBlock?] at hcut
  | case2 tail =>
      obtain ⟨rfl, rfl⟩ := Prod.mk.inj (Option.some.inj hcut)
      rfl
  | case3 c tail hne ih =>
      rw [cutBlock?.eq_3 c tail hne] at hcut
      obtain ⟨⟨block, rest⟩, htail, hcut⟩ := Option.map_eq_some_iff.mp hcut
      obtain ⟨rfl, rfl⟩ := Prod.mk.inj hcut
      have hblank : c = '\n' → ¬ ['\n'] <+: tail ++ more := by
        rintro rfl hfeed
        cases tail with
        | nil => simp [cutBlock?] at htail
        | cons d tail =>
            obtain ⟨rfl, -⟩ := List.cons_prefix_cons.mp hfeed
            exact hne tail rfl rfl
      rw [List.cons_append, cutBlock?_cons hblank, ih htail]
      rfl

/-- The text after the last complete block waits for the text that comes
later. -/
theorem framesOf_append (text more : List Char) :
    framesOf (text ++ more) =
      ((framesOf text).1 ++ (framesOf ((framesOf text).2 ++ more)).1,
        (framesOf ((framesOf text).2 ++ more)).2) := by
  induction text using framesOf.induct with
  | case1 text hcut => simp [framesOf_of_none hcut]
  | case2 text block rest hcut _ _ _ ih =>
      rw [framesOf_of_some hcut,
        framesOf_of_some (cutBlock?_append more hcut), ih]
      simp

theorem cutBlock?_framesOf (text : List Char) :
    cutBlock? (framesOf text).2 = none := by
  induction text using framesOf.induct with
  | case1 text hcut => rwa [framesOf_of_none hcut]
  | case2 text block rest hcut _ _ _ ih => rwa [framesOf_of_some hcut]

/-! ## Readers -/

/-- The texts that some chunks complete one after the other, when some bytes
wait. -/
def texts (pending : List UInt8) : List (List UInt8) → List (List Char)
  | [] => []
  | chunk :: chunks =>
    (Utf8.decode (pending ++ chunk)).1 ::
      texts (Utf8.decode (pending ++ chunk)).2 chunks

/-- No text is lost in the cuts. -/
theorem flatten_texts {pending : List UInt8} (chunks : List (List UInt8))
    (hpending : Utf8.next? pending = none) :
    (texts pending chunks).flatten =
      (Utf8.decode (pending ++ chunks.flatten)).1 := by
  induction chunks generalizing pending with
  | nil => simp [texts, Utf8.decode_of_none hpending]
  | cons chunk chunks ih =>
      rw [texts, List.flatten_cons, ih (Utf8.next?_decode _), List.flatten_cons,
        ← List.append_assoc, Utf8.decode_append (pending ++ chunk)]

/-- A blank line that is parted in the text is parted among the bytes. -/
theorem PartsBlankLine.of_text {before after : List UInt8} {text : List Char}
    {pending : List UInt8} (hbefore : Utf8.decode before = (text, pending))
    (hparts : PartsBlankLine '\r' '\n' text
      (Utf8.decode (pending ++ after)).1) :
    PartsBlankLine 0x0D 0x0A before after := by
  obtain ⟨hends, ⟨more, hmore⟩⟩ := hparts
  have hfeed : Utf8.decode (pending ++ after) =
      ('\n' :: more, (Utf8.decode (pending ++ after)).2) :=
    Prod.ext hmore.symm rfl
  obtain ⟨rest, hnext, -⟩ := Utf8.exists_of_decode_cons hfeed
  have hwaits : Utf8.next? pending = none := by
    simpa [hbefore] using Utf8.next?_decode before
  obtain rfl := Utf8.eq_nil_of_next?_append hwaits hnext (by decide)
  obtain ⟨used, rfl, -, hbyte⟩ := Utf8.exists_of_next? hnext
  obtain rfl := hbyte (by decide)
  exact ⟨hends.imp (Utf8.suffix_of_decode (by decide) (by decide) hbefore)
    (Utf8.suffix_of_decode (by decide) (by decide) hbefore), ⟨rest, rfl⟩⟩

theorem careful_texts {before pending : List UInt8} {text : List Char}
    {chunks : List (List UInt8)}
    (hbefore : Utf8.decode before = (text, pending))
    (hcareful : Careful 0x0D 0x0A before chunks) :
    Careful '\r' '\n' text (texts pending chunks) := by
  induction chunks generalizing before pending text with
  | nil => trivial
  | cons chunk chunks ih =>
      have hwaits : Utf8.next? pending = none := by
        simpa [hbefore] using Utf8.next?_decode before
      refine ⟨fun hparts => hcareful.1 (.of_text hbefore ?_), ih ?_ hcareful.2⟩
      · rwa [← flatten_texts (chunk :: chunks) hwaits]
      · rw [Utf8.decode_append, hbefore]

namespace Reader

/-- A reader hands out the frames of the texts whose line ends it joins one by
one. -/
theorem feedAll_frames {reader : Reader} (chunks : List (List UInt8))
    (hbuffer : cutBlock? reader.buffer = none) :
    (reader.feedAll chunks).2 = (framesOf (reader.buffer ++
      ((texts reader.pending chunks).map joinLineEnds).flatten)).1 := by
  induction chunks generalizing reader with
  | nil => simp [feedAll, texts, framesOf_of_none hbuffer]
  | cons chunk chunks ih =>
      have hnext := @ih (reader.feedBytes chunk).1 (cutBlock?_framesOf _)
      have happend := framesOf_append
        (reader.buffer ++
          joinLineEnds (Utf8.decode (reader.pending ++ chunk)).1)
        ((texts (Utf8.decode (reader.pending ++ chunk)).2 chunks).map
          joinLineEnds).flatten
      rw [texts, List.map_cons, List.flatten_cons, ← List.append_assoc,
        happend]
      exact congrArg ((reader.feedBytes chunk).2 ++ ·) hnext

/-- The frames of a body do not depend on how it is cut into chunks, as long as
no cut parts the carriage return of a blank line from its line feed.  A cut
anywhere else does no harm: inside a character, at the end of a line that is not
blank, or between chunks that are empty. -/
theorem feedAll_eq_feedBytes (chunks : List (List UInt8))
    (hcuts : ∀ n < chunks.length, ¬ PartsBlankLine 0x0D 0x0A
      (chunks.take n).flatten (chunks.drop n).flatten) :
    (fresh.feedAll chunks).2 = (fresh.feedBytes chunks.flatten).2 := by
  have hcareful : Careful '\r' '\n' [] (texts [] chunks) :=
    careful_texts (Utf8.decode_of_none rfl)
      (careful_of_forall hcuts)
  have hloose := (loose_of_careful hcareful).framesOf
  rw [flatten_texts chunks rfl] at hloose
  rw [feedAll_frames chunks rfl]
  exact hloose

/-- Cuts inside a character, after a carriage return and between line ends. -/
def finelyCut : List (List UInt8) :=
  [[0x64, 0x61, 0x74, 0x61, 0x3A, 0xC3], [], [0xA9, 0x0D],
    [0x0A, 0x0D, 0x0A]]

theorem feedAll_eq_feedBytes_finelyCut :
    (∀ n < finelyCut.length, ¬ PartsBlankLine 0x0D 0x0A
      (finelyCut.take n).flatten (finelyCut.drop n).flatten) ∧
    (fresh.feedAll finelyCut).2 = (fresh.feedBytes finelyCut.flatten).2 ∧
    (fresh.feedAll finelyCut).2 = [⟨none, "é"⟩] :=
  ⟨by decide, feedAll_eq_feedBytes finelyCut (by decide), by decide +kernel⟩

/-- A frame whose blank line is cut between its carriage return and its line
feed. -/
def blankLineCut : List (List UInt8) :=
  [[0x64, 0x61, 0x74, 0x61, 0x3A, 0x20, 0x61, 0x0D, 0x0A, 0x0D], [0x0A]]

/-- The frame is handed out only if the blank line arrives as a whole. -/
theorem feedAll_ne_feedBytes :
    (fresh.feedAll blankLineCut).2 = [] ∧
      (fresh.feedBytes blankLineCut.flatten).2 = [⟨none, "a"⟩] := by
  decide +kernel

end Reader

end Workflow.EventStream
