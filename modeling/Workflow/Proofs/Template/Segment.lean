import Workflow.Proofs.Template.Cut

/-!
# Templates made of segments

A segment is text without braces, or a block: such text between double braces.
Where the values that are put in have no braces either, a template made of
segments is resolved to one made of as many segments, and no block that is left
is a reference (`exists_filled`).  A template like that stands for itself
(`resolve_unreferring`), so resolving it once more changes nothing.

With braces in the values this is false: a value may spell a reference, and the
next pass puts in what it refers to.
-/

namespace Workflow.Template

variable {context : Context} {target : Reference} {expression content : List Char}

/-! ## Segments -/

/-- A text without braces. -/
def Plain (text : List Char) : Prop :=
  ∀ c ∈ text, isPlain c = true

instance (text : List Char) : Decidable (Plain text) :=
  List.decidableBAll _ text

/-- A part of a template that is written without stray braces. -/
inductive Segment where
  | text (content : List Char) (hplain : Plain content)
  | block (expression : List Char) (hplain : Plain expression)

namespace Segment

variable {segment filled : Segment}

/-- How a segment is written. -/
def write : Segment → List Char
  | text content _ => content
  | block expression _ => Template.block expression

/-- A segment is a block with a reference in it. -/
def RefersTo (segment : Segment) (target : Reference) : Prop :=
  ∃ expression hplain, segment = block expression hplain ∧
    target.Written (Text.trim expression)

/-- What comes of a segment: a value takes the place of a reference, and all else
stays. -/
inductive Fills (context : Context) : Segment → Segment → Prop
  | value {segment : Segment} {target : Reference}
      (hplain : Plain (target.render context).toList)
      (hrefers : segment.RefersTo target) :
      Fills context segment (text (target.render context).toList hplain)
  | kept {segment : Segment} (hnone : ∀ target, ¬ segment.RefersTo target) :
      Fills context segment segment

/-- What a segment refers to. -/
def target? : Segment → Option Reference
  | text _ _ => none
  | block expression _ => reference? (Text.trim expression)

theorem not_refersTo_text {hplain : Plain content} :
    ¬ (text content hplain).RefersTo target := by
  rintro ⟨expression, hother, heq, -⟩
  contradiction

theorem target?_eq_some_iff :
    segment.target? = some target ↔ segment.RefersTo target := by
  cases segment with
  | text content hplain => exact iff_of_false nofun not_refersTo_text
  | block expression hplain =>
      rw [target?, reference?_eq_some_iff]
      constructor
      · intro hwritten
        exact ⟨expression, hplain, rfl, hwritten⟩
      · rintro ⟨other, hother, heq, hwritten⟩
        obtain rfl := block.inj heq
        exact hwritten

/-- The piece that a segment is cut into. -/
def piece (segment : Segment) : Piece :=
  match segment.target? with
  | some target => .reference target
  | none => .literal segment.write

theorem piece_of_refersTo (hrefers : segment.RefersTo target) :
    segment.piece = .reference target := by
  rw [piece, target?_eq_some_iff.mpr hrefers]

theorem piece_of_not_refersTo (hnone : ∀ target, ¬ segment.RefersTo target) :
    segment.piece = .literal segment.write := by
  have htarget : segment.target? = none := by
    apply Option.eq_none_iff_forall_ne_some.mpr
    intro target hsome
    exact hnone target (target?_eq_some_iff.mp hsome)
  rw [piece, htarget]

theorem Fills.render_eq (hfills : Fills context segment filled) :
    segment.piece.render context = filled.write := by
  cases hfills with
  | value hplain hrefers => rw [piece_of_refersTo hrefers, Piece.render, write]
  | kept hnone => rw [piece_of_not_refersTo hnone, Piece.render]

theorem Fills.not_refersTo (hfills : Fills context segment filled) :
    ¬ filled.RefersTo target := by
  cases hfills with
  | value hplain hrefers => exact not_refersTo_text
  | kept hnone => exact hnone target

theorem exists_fills (hvalue : ∀ target, segment.RefersTo target →
      Plain (target.render context).toList) :
    ∃ filled, Fills context segment filled := by
  by_cases hrefers : ∃ target, segment.RefersTo target
  · obtain ⟨target, htarget⟩ := hrefers
    exact ⟨_, .value (hvalue target htarget) htarget⟩
  · exact ⟨segment, .kept (not_exists.mp hrefers)⟩

end Segment

/-! ## What comes out -/

variable {template : String} {segments filled : List Segment}

/-- A template made of segments is cut where they meet. -/
theorem cut_segments (segments : List Segment) :
    Cut (segments.flatMap Segment.write)
      ((segments.map Segment.piece).flatMap Piece.apart) := by
  induction segments with
  | nil => exact .nil
  | cons segment rest ih =>
      rw [List.flatMap_cons, List.map_cons, List.flatMap_cons]
      cases segment with
      | text content hplain =>
          refine Cut.append ?_ ih
          rintro c hc rfl
          exact absurd (hplain '{' hc) (by decide)
      | block expression hplain =>
          rw [Segment.piece, Segment.target?, Segment.write]
          cases href : reference? (Text.trim expression) with
          | none => exact .block hplain href ih
          | some target =>
              refine .reference (begins_iff.mpr ⟨expression, ?_, href⟩) ih
              exact blockAt?_eq_some_iff.mpr ⟨hplain, rfl⟩

theorem toList_resolve_segments
    (htemplate : template.toList = segments.flatMap Segment.write) :
    (resolve template context).text.toList =
      segments.flatMap fun segment => segment.piece.render context := by
  have hcut := cut_segments segments
  rw [← htemplate] at hcut
  rw [hcut.resolve, String.toList_ofList, List.flatMap_assoc, List.flatMap_map]
  exact List.flatMap_congr fun segment _ => segment.piece.flatMap_render_apart

/-- A template without references stands for itself, in every state. -/
theorem resolve_unreferring
    (htemplate : template.toList = segments.flatMap Segment.write)
    (hnone : ∀ segment ∈ segments, ∀ target, ¬ segment.RefersTo target)
    (context : Context) : resolve template context = ⟨template, []⟩ := by
  have hpiece : ∀ segment ∈ segments,
      segment.piece = .literal segment.write := fun segment hmem =>
    Segment.piece_of_not_refersTo (hnone segment hmem)
  have htext : (resolve template context).text = template := by
    rw [← String.toList_inj, toList_resolve_segments htemplate, htemplate]
    apply List.flatMap_congr
    intro segment hmem
    rw [hpiece segment hmem, Piece.render]
  have hwarnings : (resolve template context).warnings = [] := by
    have hcut := cut_segments segments
    rw [← htemplate, List.map_congr_left hpiece] at hcut
    rw [hcut.resolve]
    simp [List.filterMap_flatMap, List.flatMap_map, Piece.apart, Piece.missing?]
  calc resolve template context
      = ⟨(resolve template context).text,
          (resolve template context).warnings⟩ := rfl
    _ = ⟨template, []⟩ := by rw [htext, hwarnings]

/-- Segment by segment, a template can be filled with the values that it refers
to. -/
theorem exists_filled (hvalues : ∀ segment ∈ segments, ∀ target,
      segment.RefersTo target → Plain (target.render context).toList) :
    ∃ filled, List.Forall₂ (Segment.Fills context) segments filled := by
  induction segments with
  | nil => exact ⟨[], .nil⟩
  | cons segment rest ih =>
      obtain ⟨hsegment, hrest⟩ := List.forall_mem_cons.mp hvalues
      obtain ⟨first, hfirst⟩ := Segment.exists_fills hsegment
      obtain ⟨others, hothers⟩ := ih hrest
      exact ⟨first :: others, .cons hfirst hothers⟩

theorem flatMap_write_filled
    (hfilled : List.Forall₂ (Segment.Fills context) segments filled) :
    (segments.flatMap fun segment => segment.piece.render context) =
      filled.flatMap Segment.write := by
  induction hfilled with
  | nil => rfl
  | cons hfills _ ih =>
      rw [List.flatMap_cons, List.flatMap_cons, hfills.render_eq, ih]

theorem not_refersTo_of_filled
    (hfilled : List.Forall₂ (Segment.Fills context) segments filled) :
    ∀ segment ∈ filled, ∀ target, ¬ segment.RefersTo target := by
  induction hfilled with
  | nil => exact List.forall_mem_nil _
  | cons hfills _ ih =>
      exact List.forall_mem_cons.mpr ⟨fun target => hfills.not_refersTo, ih⟩

/-- No reference is left where no value has a brace, so that resolving the text
again, in the same state or in another, changes nothing and finds nothing
missing. -/
theorem resolve_resolve (segments : List Segment)
    (htemplate : template.toList = segments.flatMap Segment.write)
    (context : Context)
    (hvalues : ∀ segment ∈ segments, ∀ target, segment.RefersTo target →
      Plain (target.render context).toList) :
    (∃ filled, List.Forall₂ (Segment.Fills context) segments filled ∧
        (resolve template context).text.toList =
          filled.flatMap Segment.write) ∧
      ∀ other : Context,
        resolve (resolve template context).text other =
          ⟨(resolve template context).text, []⟩ := by
  obtain ⟨filled, hfilled⟩ := exists_filled hvalues
  have htext : (resolve template context).text.toList =
      filled.flatMap Segment.write := by
    rw [toList_resolve_segments htemplate, flatMap_write_filled hfilled]
  exact ⟨⟨filled, hfilled, htext⟩,
    resolve_unreferring htext (not_refersTo_of_filled hfilled)⟩

/-- A value, an absent output, a block that is no reference and a missing input,
side by side. -/
theorem resolve_resolve_mixed :
    let template := "{{input.q}}? {{ lastOutput }}{{env.HOME}}{{input.none}}"
    let context := Context.ofInputs [("q", .text "2+2")]
    (resolve template context).text = "2+2? {{env.HOME}}" ∧
      resolve "2+2? {{env.HOME}}" context = ⟨"2+2? {{env.HOME}}", []⟩ := by
  intro template context
  let segments : List Segment :=
    [.block "input.q".toList (by decide), .text "? ".toList (by decide),
      .block " lastOutput ".toList (by decide),
      .block "env.HOME".toList (by decide),
      .block "input.none".toList (by decide)]
  have htemplate : template.toList = segments.flatMap Segment.write := by decide
  have hplain : ∀ segment ∈ segments, ∀ target ∈ segment.target?,
      Plain (target.render context).toList := by decide
  have htext : (resolve template context).text = "2+2? {{env.HOME}}" := by
    rw [← String.toList_inj, toList_resolve_segments htemplate]
    decide
  obtain ⟨-, hagain⟩ := resolve_resolve segments htemplate context
    fun segment hmem target hrefers =>
      hplain segment hmem target (Segment.target?_eq_some_iff.mpr hrefers)
  have hcontext := hagain context
  rw [htext] at hcontext
  exact ⟨htext, hcontext⟩

/-- A value with braces may spell a reference, which is not looked at at once. -/
example : (resolve "{{input.q}}" (.ofInputs [("q", .text "{{lastOutput}}")])).text =
    "{{lastOutput}}" := by
  have hone : "{{input.q}}".toList =
      [Segment.block "input.q".toList (by decide)].flatMap Segment.write := by decide
  rw [← String.toList_inj, toList_resolve_segments hone]
  decide

end Workflow.Template
