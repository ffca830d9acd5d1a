import Workflow.Agent.Structured
import Workflow.Proofs.Json.Grammar
import Workflow.Proofs.Text.Piece

/-!
# Structured answers are read

A fence is looked for anywhere in an answer, also inside the texts of a JSON
value.  `Torn` says which answers are cut at fences for that reason; all other
answers are taken as they are (`unfenced_eq_trim_iff`).  A JSON answer is read
as the value that it spells if it is not torn, and inside a fence if it has no
fence of its own and the name behind the fence does not look like that of JSON
(`readStructured_of_spells`).
-/

namespace Workflow.Agent

open Text (Blank Tight breakOn?)

variable {text : List Char}

/-! ## Taking off a fence -/

theorem fence_ne_nil : fence ≠ [] := by
  decide

theorem newline_not_mem_fence : '\n' ∉ fence := by
  decide

/-- What stands before the next fence, trimmed. -/
def body? (content : List Char) : Option (List Char) :=
  (breakOn? fence content).map fun (body, _) => Text.trim body

/-- What stands behind the line of an opening fence, or behind the fence if
there is no further line. -/
def content (after : List Char) : List Char :=
  match breakOn? ['\n'] after with
  | some (_, rest) => rest
  | none => after

theorem marked?_eq (text : List Char) : marked? text =
    (breakOn? (fence ++ "json".toList) text).bind fun (_, after) =>
      body? after := by
  unfold marked? body?
  cases breakOn? (fence ++ "json".toList) text with
  | none => rfl
  | some parts => cases hbody : breakOn? fence parts.2 <;> simp [hbody]

theorem fenced?_eq (text : List Char) : fenced? text =
    (breakOn? fence text).bind fun (_, after) => body? (content after) := by
  unfold fenced? body?
  cases breakOn? fence text with
  | none => rfl
  | some parts =>
      change (breakOn? fence (content parts.2)).bind _ = _
      cases hbody : breakOn? fence (content parts.2) <;> simp [hbody]

theorem isSome_body?_iff : (body? text).isSome = true ↔ fence <:+: text := by
  rw [body?, Option.isSome_map, Text.isSome_breakOn?_iff]

/-- The body in front of a fence on a line of its own. -/
theorem body?_append (hfence : ¬ fence <:+: text) :
    body? (text ++ '\n' :: fence) = some (Text.trim (text ++ ['\n'])) := by
  have hbreak : breakOn? fence (text ++ ['\n'] ++ fence ++ []) =
      some (text ++ ['\n'], []) := by
    rw [Text.breakOn?_append_iff fence_ne_nil, List.append_assoc,
      List.singleton_append, Text.infix_append_cons_iff newline_not_mem_fence]
    rintro (htext | hlast)
    · exact hfence htext
    · exact absurd hlast (by decide)
  rw [List.append_nil, List.append_assoc, List.singleton_append] at hbreak
  rw [body?, hbreak]
  rfl

/-! ## Answers that are cut -/

/-- Two fences stand in a text, and what is between them starts with the name of
JSON or has a line end; or there is no line end behind the fences either. -/
def Torn (text : List Char) : Prop :=
  ∃ before inside after, text = before ++ fence ++ inside ++ fence ++ after ∧
    ("json".toList <+: inside ∨ '\n' ∈ inside ∨ '\n' ∉ after)

theorem isSome_marked?_iff : (marked? text).isSome = true ↔
    ∃ before inside after, text = before ++ fence ++ inside ++ fence ++ after ∧
      "json".toList <+: inside := by
  rw [marked?_eq]
  constructor
  · intro hsome
    cases hbreak : breakOn? (fence ++ "json".toList) text with
    | none =>
        rw [hbreak, Option.bind_none] at hsome
        simp at hsome
    | some parts =>
        obtain ⟨before, rest⟩ := parts
        simp only [hbreak, Option.bind_some] at hsome
        obtain ⟨body, after, rfl⟩ := isSome_body?_iff.mp hsome
        refine ⟨before, "json".toList ++ body, after, ?_,
          List.prefix_append _ _⟩
        rw [← Text.append_of_breakOn? hbreak]
        simp only [List.append_assoc]
  · rintro ⟨before, _, after, rfl, body, rfl⟩
    obtain ⟨first, last, hbreak, hlast⟩ :=
      Text.exists_breakOn?_append
        (show fence ++ "json".toList ≠ [] by decide) before
        (body ++ fence ++ after)
    simp only [List.append_assoc] at hbreak hlast ⊢
    rw [hbreak, Option.bind_some, isSome_body?_iff]
    have hfence : fence <:+: body ++ (fence ++ after) := ⟨body, after, by simp⟩
    exact hfence.trans hlast.isInfix

/-- The content of a text with lines is what stands behind its first line. -/
theorem content_of_break {line rest : List Char}
    (hbreak : breakOn? ['\n'] text = some (line, rest)) :
    content text = rest := by
  rw [content, hbreak]

theorem content_of_not_mem (hline : '\n' ∉ text) : content text = text := by
  have hbreak : breakOn? ['\n'] text = none := by
    rw [Text.breakOn?_eq_none_iff]
    intro hpart
    exact hline (hpart.subset List.mem_cons_self)
  rw [content, hbreak]

theorem isSome_fenced?_iff : (fenced? text).isSome = true ↔
    ∃ before inside after, text = before ++ fence ++ inside ++ fence ++ after ∧
      ('\n' ∈ inside ∨ '\n' ∉ after) := by
  rw [fenced?_eq]
  constructor
  · intro hsome
    cases hbreak : breakOn? fence text with
    | none =>
        rw [hbreak, Option.bind_none] at hsome
        simp at hsome
    | some parts =>
        obtain ⟨before, rest⟩ := parts
        rw [hbreak, Option.bind_some, isSome_body?_iff] at hsome
        rw [← Text.append_of_breakOn? hbreak]
        by_cases hline : '\n' ∈ rest
        · obtain ⟨⟨line, more⟩, hlines⟩ := Option.isSome_iff_exists.mp
            (Text.isSome_breakOn?_iff.mpr ((List.singleton_infix_iff _ _).mpr hline))
          rw [content_of_break hlines] at hsome
          obtain ⟨inside, after, hmore⟩ := hsome
          refine ⟨before, line ++ '\n' :: inside, after, ?_, .inl (by simp)⟩
          rw [← Text.append_of_breakOn? hlines, ← hmore]
          simp only [List.append_assoc, List.cons_append, List.nil_append]
        · rw [content_of_not_mem hline] at hsome
          obtain ⟨inside, after, rfl⟩ := hsome
          refine ⟨before, inside, after, by simp only [List.append_assoc], .inr ?_⟩
          intro hmem
          exact hline (List.mem_append_right _ hmem)
  · rintro ⟨before, inside, after, rfl, hline⟩
    obtain ⟨first, last, hbreak, skipped, rfl⟩ :=
      Text.exists_breakOn?_append fence_ne_nil before
        (inside ++ fence ++ after)
    simp only [List.append_assoc] at hbreak ⊢
    rw [hbreak, Option.bind_some, isSome_body?_iff, ← List.append_assoc]
    -- The first line end, if there is one, comes before the second fence.
    by_cases hearly : '\n' ∈ skipped ++ inside
    · obtain ⟨line, rest, hparts⟩ := List.append_of_mem hearly
      obtain ⟨front, more, hlines, hmore⟩ :=
        Text.exists_breakOn?_append (List.cons_ne_nil '\n' []) line
          (rest ++ (fence ++ after))
      have hwhole : skipped ++ inside ++ (fence ++ after) =
          line ++ ['\n'] ++ (rest ++ (fence ++ after)) := by
        rw [hparts]
        simp only [List.append_assoc, List.cons_append, List.nil_append]
      rw [hwhole, content_of_break hlines]
      have hfence : fence <:+: rest ++ (fence ++ after) := ⟨rest, after, by simp⟩
      exact hfence.trans hmore.isInfix
    · have hafter : '\n' ∉ after := by
        refine hline.resolve_left fun hinside => ?_
        exact hearly (List.mem_append_right _ hinside)
      rw [content_of_not_mem]
      · exact ⟨skipped ++ inside, after, by simp⟩
      · simp only [List.mem_append, not_or] at hearly ⊢
        exact ⟨hearly, newline_not_mem_fence, hafter⟩

theorem torn_iff :
    Torn text ↔ (marked? text).isSome = true ∨ (fenced? text).isSome = true := by
  rw [isSome_marked?_iff, isSome_fenced?_iff]
  constructor
  · rintro ⟨before, inside, after, htext, hjson | hline⟩
    · exact .inl ⟨before, inside, after, htext, hjson⟩
    · exact .inr ⟨before, inside, after, htext, hline⟩
  · rintro (⟨before, inside, after, htext, hjson⟩ |
      ⟨before, inside, after, htext, hline⟩)
    · exact ⟨before, inside, after, htext, .inl hjson⟩
    · exact ⟨before, inside, after, htext, .inr hline⟩

/-- A torn text has two fences. -/
theorem Torn.six_le_count (htorn : Torn text) : 6 ≤ text.count '`' := by
  obtain ⟨before, inside, after, rfl, -⟩ := htorn
  have hfence : fence.count '`' = 3 := by decide
  simp only [List.count_append, hfence]
  omega

theorem length_le_of_body? {content body : List Char}
    (hbody : body? content = some body) : body.length ≤ content.length := by
  obtain ⟨⟨inside, after⟩, hbreak, rfl⟩ := Option.map_eq_some_iff.mp hbody
  have hlength := congrArg List.length (Text.append_of_breakOn? hbreak)
  simp only [List.length_append] at hlength
  have htrim := Text.length_trim_le inside
  dsimp only
  omega

theorem length_content_le (after : List Char) :
    (content after).length ≤ after.length := by
  unfold content
  split
  next hbreak =>
    have hlength := congrArg List.length (Text.append_of_breakOn? hbreak)
    simp only [List.length_append] at hlength
    omega
  next => exact Nat.le_refl _

/-- What is cut out between fences is shorter than the text. -/
theorem length_lt_of_or {body : List Char}
    (hbody : (marked? text).or (fenced? text) = some body) :
    body.length < text.length := by
  have hshorter {piece before after : List Char} (hne : piece ≠ [])
      (hbreak : breakOn? piece text = some (before, after)) :
      after.length < text.length := by
    have hlength := congrArg List.length (Text.append_of_breakOn? hbreak)
    have hpos := List.length_pos_of_ne_nil hne
    simp only [List.length_append] at hlength
    omega
  obtain hmarked | ⟨-, hfenced⟩ := Option.or_eq_some_iff.mp hbody
  · rw [marked?_eq] at hmarked
    obtain ⟨⟨before, after⟩, hbreak, hbody⟩ := Option.bind_eq_some_iff.mp hmarked
    have hafter := hshorter (by decide) hbreak
    exact Nat.lt_of_le_of_lt (length_le_of_body? hbody) hafter
  · rw [fenced?_eq] at hfenced
    obtain ⟨⟨before, after⟩, hbreak, hbody⟩ := Option.bind_eq_some_iff.mp hfenced
    have hafter := hshorter fence_ne_nil hbreak
    have hcontent := (length_le_of_body? hbody).trans (length_content_le after)
    exact Nat.lt_of_le_of_lt hcontent hafter

/-- An answer is taken as it is, but for white space around it, just if it is
not torn. -/
theorem unfenced_eq_trim_iff :
    unfenced text = Text.trim text ↔ ¬ Torn (Text.trim text) := by
  have hunfenced : unfenced text =
      ((marked? (Text.trim text)).or (fenced? (Text.trim text))).getD
        (Text.trim text) := rfl
  rw [hunfenced, torn_iff, ← Bool.or_eq_true, ← Option.isSome_or]
  cases hcut : (marked? (Text.trim text)).or (fenced? (Text.trim text)) with
  | none => simp
  | some body =>
      have hlength := length_lt_of_or hcut
      refine iff_of_false (fun heq => ?_) (by simp)
      rw [Option.getD_some] at heq
      exact absurd (congrArg List.length heq) (Nat.ne_of_lt hlength)

/-! ## Answers in a fence -/

/-- What may stand behind an opening fence: one line without back-ticks, which
is the name of JSON if it starts with that name. -/
structure Tag (tag : List Char) : Prop where
  newline_not_mem : '\n' ∉ tag
  tick_not_mem : '`' ∉ tag
  blank_of_json : ∀ more, tag = "json".toList ++ more → Blank more

/-- A text between a line with a fence, which may bear a tag, and a line with
nothing but a fence. -/
def wrapped (tag body : List Char) : List Char :=
  fence ++ (tag ++ '\n' :: (body ++ '\n' :: fence))

theorem tick_not_mem_of_blank (hblank : Blank text) : '`' ∉ text :=
  fun hmem => absurd (hblank '`' hmem) (by decide)

theorem not_infix_of_not_mem (hmem : '`' ∉ text) : ¬ fence <:+: text :=
  fun hpart => hmem (hpart.subset List.mem_cons_self)

/-- White space around a text makes no fence in it. -/
theorem not_infix_padded {left right : List Char} (hleft : Blank left)
    (hfence : ¬ fence <:+: text) (hright : Blank right) :
    ¬ fence <:+: left ++ (text ++ right) := by
  have htick : Text.isBlank '`' = false := by decide
  have hdisjoint {c : Char} (hc : Text.isBlank c = true) : c ∉ fence := by
    rintro hmem
    have heq : c = '`' := by simpa [fence] using hmem
    rw [heq, htick] at hc
    contradiction
  rw [Text.infix_append_iff_of_disjoint fun c hc => hdisjoint (hleft c hc)]
  cases right with
  | nil => rwa [List.append_nil]
  | cons c right =>
      obtain ⟨hc, hright⟩ := List.forall_mem_cons.mp hright
      rw [Text.infix_append_cons_iff (hdisjoint hc)]
      rintro (htext | hright')
      · exact hfence htext
      · exact not_infix_of_not_mem (tick_not_mem_of_blank hright) hright'

section Wrapped

variable {tag left right : List Char}

theorem tight_wrapped (tag body : List Char) : Tight (wrapped tag body) := by
  have htick : Tight ['`'] := Text.tight_singleton (by decide)
  have hfence : Tight (['`'] ++ (['`'] ++ ['`'])) :=
    Text.tight_append htick htick
  have hwrapped : wrapped tag body =
      fence ++ ((tag ++ '\n' :: (body ++ ['\n'])) ++ fence) := by
    simp [wrapped]
  rw [hwrapped]
  exact Text.tight_append hfence hfence

theorem body?_padded (hleft : Blank left) (htight : Tight text)
    (hfence : ¬ fence <:+: text) (hright : Blank right) :
    body? (left ++ (text ++ right) ++ '\n' :: fence) = some text := by
  have htrim : Text.trim (left ++ (text ++ (right ++ ['\n']))) = text := by
    apply Text.trim_append hleft htight
    exact List.forall_mem_append.mpr
      ⟨hright, List.forall_mem_singleton.mpr (by decide)⟩
  rw [body?_append (not_infix_padded hleft hfence hright)]
  simp only [List.append_assoc, htrim]

/-- A text in a fence marked as JSON. -/
theorem marked?_wrapped {more : List Char} (hmore : Blank more)
    (hleft : Blank left) (htight : Tight text) (hfence : ¬ fence <:+: text)
    (hright : Blank right) :
    marked? (wrapped ("json".toList ++ more) (left ++ (text ++ right))) =
      some text := by
  have hbreak : breakOn? (fence ++ "json".toList)
      ([] ++ (fence ++ "json".toList) ++ (more ++ '\n' ::
        (left ++ (text ++ right) ++ '\n' :: fence))) = some ([], _) :=
    (Text.breakOn?_append_iff (by decide)).mpr (by decide)
  have hblank : Blank (more ++ '\n' :: left) :=
    List.forall_mem_append.mpr
      ⟨hmore, List.forall_mem_cons.mpr ⟨by decide, hleft⟩⟩
  have hbody := body?_padded hblank htight hfence hright
  rw [List.nil_append, List.append_assoc] at hbreak
  rw [marked?_eq, wrapped, List.append_assoc, hbreak]
  simpa only [Option.bind_some, List.append_assoc, List.cons_append] using hbody

/-- There is only one fence in front of a tag. -/
theorem not_infix_tagged (htag : Tag tag) (hjson : ¬ "json".toList <+: tag) :
    ¬ fence ++ "json".toList <:+: fence ++ tag := by
  rintro ⟨skipped, rest, heq⟩
  cases skipped with
  | nil =>
      rw [List.nil_append, List.append_assoc] at heq
      exact hjson ⟨rest, List.append_cancel_left heq⟩
  | cons c skipped =>
      obtain ⟨rfl, -⟩ := List.cons.inj heq
      have hticks := congrArg (List.count '`') heq
      have htag : tag.count '`' = 0 := List.count_eq_zero.mpr htag.tick_not_mem
      have hfence : fence.count '`' = 3 := by decide
      simp only [List.count_append, List.cons_append, List.count_cons_self,
        hfence, htag] at hticks
      omega

/-- A fence with another tag is not taken for one marked as JSON. -/
theorem marked?_wrapped_eq_none {body : List Char} (htag : Tag tag)
    (hjson : ¬ "json".toList <+: tag) (hbody : ¬ fence <:+: body) :
    marked? (wrapped tag body) = none := by
  have hmark : fence <:+: fence ++ "json".toList :=
    (List.prefix_append _ _).isInfix
  have hnewline : '\n' ∉ fence ++ "json".toList := by decide
  have hbreak : breakOn? (fence ++ "json".toList) (wrapped tag body) = none := by
    rw [Text.breakOn?_eq_none_iff, wrapped, ← List.append_assoc,
      Text.infix_append_cons_iff hnewline, Text.infix_append_cons_iff hnewline]
    rintro (hopening | hinside | hclosing)
    · exact not_infix_tagged htag hjson hopening
    · exact hbody (hmark.trans hinside)
    · exact absurd hclosing.length_le (by decide)
  rw [marked?_eq, hbreak, Option.bind_none]

/-- A text in a fence with a tag that is not the name of JSON. -/
theorem fenced?_wrapped (htag : Tag tag) (hleft : Blank left)
    (htight : Tight text) (hfence : ¬ fence <:+: text) (hright : Blank right) :
    fenced? (wrapped tag (left ++ (text ++ right))) = some text := by
  have hopening : breakOn? fence ([] ++ fence ++ (tag ++ '\n' ::
      (left ++ (text ++ right) ++ '\n' :: fence))) = some ([], _) :=
    (Text.breakOn?_append_iff fence_ne_nil).mpr (by decide)
  have hline : breakOn? ['\n'] (tag ++ ['\n'] ++
      (left ++ (text ++ right) ++ '\n' :: fence)) =
        some (tag, left ++ (text ++ right) ++ '\n' :: fence) := by
    rw [Text.breakOn?_append_iff (by decide), List.dropLast_singleton,
      List.append_nil, List.singleton_infix_iff]
    exact htag.newline_not_mem
  rw [List.append_assoc, List.singleton_append] at hline
  rw [List.nil_append] at hopening
  rw [fenced?_eq, wrapped, hopening]
  simp only [Option.bind_some, content_of_break hline]
  exact body?_padded hleft htight hfence hright

/-- A fence is taken off a text that has none of its own. -/
theorem unfenced_wrapped {lead trail : List Char} (hlead : Blank lead)
    (htag : Tag tag) (hleft : Blank left) (htight : Tight text)
    (hfence : ¬ fence <:+: text) (hright : Blank right) (htrail : Blank trail) :
    unfenced (lead ++ (wrapped tag (left ++ (text ++ right)) ++ trail)) =
      text := by
  have htrim := Text.trim_append hlead
    (tight_wrapped tag (left ++ (text ++ right))) htrail
  simp only [unfenced, htrim]
  by_cases hjson : "json".toList <+: tag
  · obtain ⟨more, rfl⟩ := hjson
    rw [marked?_wrapped (htag.blank_of_json more rfl) hleft htight hfence hright]
    rfl
  · rw [marked?_wrapped_eq_none htag hjson
        (not_infix_padded hleft hfence hright),
      fenced?_wrapped htag hleft htight hfence hright]
    rfl

end Wrapped

/-! ## Answers in JSON -/

theorem readStructured_of_unfenced {input : String} {value : Json}
    (hunfenced : unfenced input.toList = text)
    (hvalue : Json.Spells Json.maxDepth value text) :
    readStructured input none = .ok value := by
  have hparse : Json.parse? (String.ofList (unfenced input.toList)) =
      some value := by
    rw [hunfenced]
    exact Json.parse?_of_spells hvalue
  -- The equation that is made for `readStructured` would take long.
  delta readStructured
  rw [hparse]

/-- An answer that spells a value is read as the value.  It may have white space
around it if it is not torn, and stand in a fence if it has none of its own. -/
theorem readStructured_of_spells {value : Json} {text : List Char}
    (hvalue : Json.Spells Json.maxDepth value text) :
    (¬ Torn text → ∀ before after, Blank before → Blank after →
      readStructured (String.ofList (before ++ (text ++ after))) none =
        .ok value) ∧
    (¬ fence <:+: text → ∀ lead tag left right trail, Blank lead → Tag tag →
      Blank left → Blank right → Blank trail →
      readStructured (String.ofList
        (lead ++ (wrapped tag (left ++ (text ++ right)) ++ trail))) none =
        .ok value) := by
  have htight := Document.tight_of_spells hvalue
  constructor
  · intro htorn before after hbefore hafter
    have htrim := Text.trim_append hbefore htight hafter
    refine readStructured_of_unfenced ?_ hvalue
    rw [String.toList_ofList, unfenced_eq_trim_iff.mpr (htrim.symm ▸ htorn),
      htrim]
  · intro hfence lead tag left right trail hlead htag hleft hright htrail
    refine readStructured_of_unfenced ?_ hvalue
    rw [String.toList_ofList]
    exact unfenced_wrapped hlead htag hleft htight hfence hright htrail

/-- An answer with a back-tick is read, with white space around it and in a
fence. -/
theorem readStructured_of_spells_tick :
    Json.Spells Json.maxDepth (.list [.text "`"]) "[\"`\"]".toList ∧
      readStructured " [\"`\"]\n" none = .ok (.list [.text "`"]) ∧
      readStructured "```json\n[\"`\"]\n```" none =
        .ok (.list [.text "`"]) := by
  have hchars : Json.SpellsChars "`".toList ['`'] :=
    Json.spellsChars_self (by simp)
  have hgap : Json.Gap [] := Json.gap_nil
  have hvalue : Json.Spells Json.maxDepth (.list [.text "`"]) "[\"`\"]".toList :=
    .list (.last (.mk hgap (.text hchars) hgap))
  have hticks : "[\"`\"]".toList.count '`' = 1 := by decide
  have hbare : ¬ Torn "[\"`\"]".toList := by
    intro htorn
    have hsix := htorn.six_le_count
    omega
  have htag : Tag "json".toList := by
    refine ⟨by decide, by decide, ?_⟩
    intro more hmore
    obtain rfl : more = [] := by simpa using hmore
    exact Text.blank_nil
  obtain ⟨hread, hwrapped⟩ := readStructured_of_spells hvalue
  refine ⟨hvalue, ?_, ?_⟩
  · exact hread hbare [' '] ['\n'] (by decide) (by decide)
  · exact hwrapped (by decide) [] "json".toList [] [] [] Text.blank_nil htag
      Text.blank_nil Text.blank_nil Text.blank_nil

/-- A list of two fences is torn at them, and a name that only starts like that
of JSON is taken for text. -/
theorem readStructured_torn :
    Json.Spells Json.maxDepth (.list [.text "```", .text "```"])
        "[\"```\",\"```\"]".toList ∧
      readStructured "[\"```\",\"```\"]" none = .ok (.text ",") ∧
      Json.Spells Json.maxDepth (.list [.number (.int 1)]) "[1]".toList ∧
      readStructured "```json5\n[1]\n```" none =
        .error (malformed
          s!"answer is not valid JSON: {Wire.unreadableText}"
          "```json5\n[1]\n```") := by
  have hchars : Json.SpellsChars "```".toList ['`', '`', '`'] :=
    Json.spellsChars_self (by simp)
  have hgap : Json.Gap [] := Json.gap_nil
  have hdigits : Json.Digits ['1'] := ⟨by decide, by simp⟩
  have hvalue : Number.ofLiteral? false ['1'] [] none = some (.int 1) := rfl
  have hone : Json.SpellsNumber (.int 1) ['1'] :=
    .mk (.digits hdigits (by decide)) .absent .absent hvalue
  refine ⟨?_, rfl, ?_, rfl⟩
  · exact .list (.more (.mk hgap (.text hchars) hgap)
      (.last (.mk hgap (.text hchars) hgap)))
  · exact .list (.last (.mk hgap (.number hone) hgap))

end Workflow.Agent
