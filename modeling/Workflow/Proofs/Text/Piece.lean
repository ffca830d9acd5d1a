import Mathlib.Data.List.Infix
import Workflow.Text.Blank

/-!
# Where a text is broken

A text is broken at the first occurrence of a piece.  If the piece has been put
between two texts, it may occur earlier as well: inside the first text, or
across its end.  `breakOn?_append_iff` says that the two texts come back just
if there is no such occurrence.
-/

namespace Workflow.Text

variable {piece before after rest : List Char} {c : Char}

theorem breakOn?_of_begins (hbegins : piece <+: c :: rest) :
    breakOn? piece (c :: rest) = some ([], (c :: rest).drop piece.length) := by
  rw [breakOn?, if_pos (List.isPrefixOf_iff_prefix.mpr hbegins)]

theorem breakOn?_of_not_begins (hbegins : ¬ piece <+: c :: rest) :
    breakOn? piece (c :: rest) =
      (breakOn? piece rest).map fun (before, after) => (c :: before, after) := by
  rw [breakOn?, if_neg (mt List.isPrefixOf_iff_prefix.mp hbegins)]

theorem dropHead?_append (head rest : List Char) :
    dropHead? head (head ++ rest) = some rest := by
  simp [dropHead?]

theorem dropHead?_eq_some_iff {head text : List Char} :
    dropHead? head text = some rest ↔ text = head ++ rest := by
  constructor
  · intro hdrop
    unfold dropHead? at hdrop
    split at hdrop
    next hhead =>
      rw [← Option.some.inj hdrop]
      exact (List.prefix_iff_eq_append.mp (List.isPrefixOf_iff_prefix.mp hhead)).symm
    next => contradiction
  · rintro rfl
    exact dropHead?_append head rest

/-- What a text is broken into makes up the text. -/
theorem append_of_breakOn? {text : List Char}
    (hbreak : breakOn? piece text = some (before, after)) :
    before ++ piece ++ after = text := by
  induction text generalizing before with
  | nil =>
      rw [breakOn?] at hbreak
      split at hbreak
      next hempty =>
        obtain rfl := List.isEmpty_iff.mp hempty
        obtain ⟨rfl, rfl⟩ := Prod.mk.inj (Option.some.inj hbreak)
        rfl
      next => simp at hbreak
  | cons c rest ih =>
      by_cases hbegins : piece <+: c :: rest
      · rw [breakOn?_of_begins hbegins] at hbreak
        obtain ⟨rfl, rfl⟩ := Prod.mk.inj (Option.some.inj hbreak)
        exact List.prefix_iff_eq_append.mp hbegins
      · rw [breakOn?_of_not_begins hbegins] at hbreak
        obtain ⟨⟨first, last⟩, hrest, hparts⟩ := Option.map_eq_some_iff.mp hbreak
        obtain ⟨rfl, rfl⟩ := Prod.mk.inj hparts
        rw [List.cons_append, List.cons_append, ih hrest]

/-- A piece that starts before the end of a text ends before the last character
of the piece that follows the text. -/
theorem prefix_cons_append_iff (after : List Char) :
    piece <+: c :: (before ++ piece ++ after) ↔
      piece <+: c :: (before ++ piece.dropLast) := by
  have hshorter : c :: (before ++ piece.dropLast) <+:
      c :: (before ++ piece ++ after) := by
    rw [List.append_assoc, List.prefix_cons_inj, List.prefix_append_right_inj]
    exact (List.dropLast_prefix piece).trans (List.prefix_append _ _)
  constructor
  · intro hbegins
    refine List.prefix_of_prefix_length_le hbegins hshorter ?_
    simp only [List.length_cons, List.length_append, List.length_dropLast]
    omega
  · intro hbegins
    exact hbegins.trans hshorter

/-- A text is broken at the piece that was put in just if the piece does not
occur before. -/
theorem breakOn?_append_iff (hne : piece ≠ []) :
    breakOn? piece (before ++ piece ++ after) = some (before, after) ↔
      ¬ piece <:+: before ++ piece.dropLast := by
  induction before with
  | nil =>
      obtain ⟨c, rest, rfl⟩ := List.exists_cons_of_ne_nil hne
      have hbreak : breakOn? (c :: rest) (c :: rest ++ after) =
          some ([], after) := by
        rw [List.cons_append, breakOn?_of_begins (List.prefix_append _ _)]
        simp
      rw [List.nil_append, List.nil_append, hbreak]
      simp only [true_iff]
      intro hinfix
      have hlength := hinfix.length_le
      simp only [List.length_dropLast, List.length_cons] at hlength
      omega
  | cons c before ih =>
      -- The piece occurs at the first character, or it occurs later.
      simp only [List.cons_append, List.infix_cons_iff]
      rw [← prefix_cons_append_iff after]
      by_cases hbegins : piece <+: c :: (before ++ piece ++ after)
      · rw [breakOn?_of_begins hbegins]
        exact iff_of_false (by simp) (fun hnone => hnone (.inl hbegins))
      · rw [breakOn?_of_not_begins hbegins, or_iff_right hbegins, ← ih]
        cases breakOn? piece (before ++ piece ++ after) <;> simp [Prod.ext_iff]

/-! ## Where a piece occurs -/

theorem isSome_breakOn?_iff {text : List Char} :
    (breakOn? piece text).isSome = true ↔ piece <:+: text := by
  induction text with
  | nil =>
      rw [breakOn?, List.infix_nil]
      cases piece <;> simp
  | cons c rest ih =>
      rw [List.infix_cons_iff]
      by_cases hbegins : piece <+: c :: rest
      · simp [breakOn?_of_begins hbegins, hbegins]
      · rw [breakOn?_of_not_begins hbegins, Option.isSome_map, ih,
          or_iff_right hbegins]

theorem breakOn?_eq_none_iff {text : List Char} :
    breakOn? piece text = none ↔ ¬ piece <:+: text := by
  rw [← isSome_breakOn?_iff, Option.not_isSome_iff_eq_none]

theorem contains_iff {piece text : String} :
    contains piece text = true ↔ piece.toList <:+: text.toList :=
  isSome_breakOn?_iff

/-- A text is broken no later than at a given occurrence of the piece. -/
theorem exists_breakOn?_append (hne : piece ≠ [])
    (before after : List Char) : ∃ first last, breakOn? piece (before ++ piece ++ after) =
      some (first, last) ∧ after <:+ last := by
  induction before with
  | nil =>
      obtain ⟨c, rest, rfl⟩ := List.exists_cons_of_ne_nil hne
      refine ⟨[], after, ?_, List.suffix_rfl⟩
      rw [List.nil_append, List.cons_append,
        breakOn?_of_begins (List.prefix_append _ _)]
      simp
  | cons c before ih =>
      rw [List.cons_append, List.cons_append]
      by_cases hbegins : piece <+: c :: (before ++ piece ++ after)
      · refine ⟨[], _, breakOn?_of_begins hbegins, ?_⟩
        have hafter : after <:+ c :: (before ++ piece ++ after) :=
          (List.suffix_append _ after).trans (List.suffix_cons c _)
        apply List.suffix_of_suffix_length_le hafter (List.drop_suffix _ _)
        simp only [List.length_drop, List.length_cons, List.length_append]
        omega
      · obtain ⟨first, last, hbreak, hafter⟩ := ih
        refine ⟨c :: first, last, ?_, hafter⟩
        rw [breakOn?_of_not_begins hbegins, hbreak]
        rfl

theorem prefix_append_cons (hmem : c ∉ piece)
    (hbegins : piece <+: before ++ c :: rest) : piece <+: before := by
  by_cases hlength : piece.length ≤ before.length
  · exact List.prefix_of_prefix_length_le hbegins (List.prefix_append _ _) hlength
  · have hlonger : before ++ [c] <+: piece := by
      have hpart : before ++ [c] <+: before ++ c :: rest := ⟨rest, by simp⟩
      refine List.prefix_of_prefix_length_le hpart hbegins ?_
      simp only [List.length_append, List.length_singleton]
      omega
    exact absurd (hlonger.subset (by simp)) hmem

/-- A piece does not reach across a character that it does not have. -/
theorem infix_append_cons_iff (hmem : c ∉ piece) :
    piece <:+: before ++ c :: rest ↔ piece <:+: before ∨ piece <:+: rest := by
  constructor
  · intro hinfix
    induction before with
    | nil =>
        obtain hbegins | hinfix := List.infix_cons_iff.mp hinfix
        · have hnil : piece <+: [] := prefix_append_cons hmem hbegins
          exact .inl hnil.isInfix
        · exact .inr hinfix
    | cons d before ih =>
        obtain hbegins | hinfix := List.infix_cons_iff.mp hinfix
        · have hbefore : piece <+: d :: before := prefix_append_cons hmem hbegins
          exact .inl hbefore.isInfix
        · exact (ih hinfix).imp_left fun hbefore =>
            List.infix_cons_iff.mpr (.inr hbefore)
  · rintro (hbefore | hrest)
    · exact hbefore.trans (List.prefix_append _ _).isInfix
    · have hsuffix : rest <:+ before ++ c :: rest :=
        (List.suffix_cons c rest).trans (List.suffix_append before _)
      exact hrest.trans hsuffix.isInfix

/-- A piece does not start in a text that has none of its characters. -/
theorem infix_append_iff_of_disjoint (hdisjoint : ∀ c ∈ before, c ∉ piece) :
    piece <:+: before ++ rest ↔ piece <:+: rest := by
  induction before with
  | nil => rw [List.nil_append]
  | cons c before ih =>
      obtain ⟨hc, hbefore⟩ := List.forall_mem_cons.mp hdisjoint
      have hskip : piece <:+: [] ++ c :: (before ++ rest) ↔
          piece <:+: [] ∨ piece <:+: before ++ rest :=
        infix_append_cons_iff hc
      rw [List.cons_append, ← ih hbefore]
      rw [List.nil_append] at hskip
      rw [hskip, or_iff_right_of_imp]
      intro hnil
      exact hnil.trans List.nil_infix

end Workflow.Text
