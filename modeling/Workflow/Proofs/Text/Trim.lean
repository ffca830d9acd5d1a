import Mathlib.Data.List.TakeWhile
import Workflow.Proofs.Text.Digits
import Workflow.Text.Blank

/-!
# White space around a text

Trimming takes off what white space has been put around a text, and nothing
more, if the text itself neither starts nor ends with any.
-/

namespace Workflow.Text

variable {c : Char} {before text after rest : List Char}

theorem isBlank_eq_false_of_isDigit (hdigit : c.isDigit = true) :
    isBlank c = false := by
  have hrange := isDigit_iff.mp hdigit
  simp [isBlank, blankRanges]
  omega

theorem trimLeft_cons (hblank : isBlank c = false) :
    trimLeft (c :: rest) = c :: rest :=
  List.dropWhile_cons_of_neg (by simp [hblank])

theorem trimRight_concat (hblank : isBlank c = false) :
    trimRight (rest ++ [c]) = rest ++ [c] := by
  rw [trimRight, List.reverse_append, List.reverse_singleton,
    List.singleton_append, List.dropWhile_cons_of_neg (by simp [hblank])]
  simp

/-- Nothing but white space. -/
def Blank (text : List Char) : Prop :=
  ∀ c ∈ text, isBlank c = true

instance : Decidable (Blank text) :=
  List.decidableBAll _ text

theorem blank_nil : Blank [] :=
  List.forall_mem_nil _

/-- No white space at the start and at the end, and something in between. -/
structure Tight (text : List Char) : Prop where
  first : ∃ c rest, text = c :: rest ∧ isBlank c = false
  last : ∃ rest c, text = rest ++ [c] ∧ isBlank c = false

theorem tight_of_forall (hne : text ≠ [])
    (hblank : ∀ c ∈ text, isBlank c = false) : Tight text where
  first := by
    obtain ⟨c, rest, rfl⟩ := List.exists_cons_of_ne_nil hne
    exact ⟨c, rest, rfl, hblank c List.mem_cons_self⟩
  last := by
    refine ⟨text.dropLast, text.getLast hne, ?_, ?_⟩
    · exact (List.dropLast_concat_getLast hne).symm
    · exact hblank _ (List.getLast_mem hne)

theorem tight_singleton (hblank : isBlank c = false) : Tight [c] :=
  tight_of_forall (List.cons_ne_nil c []) (List.forall_mem_singleton.mpr hblank)

/-- What a text starts with and ends with decides whether it is tight. -/
theorem tight_append {first last : List Char} (hfirst : Tight first)
    (hlast : Tight last) : Tight (first ++ (text ++ last)) where
  first := by
    obtain ⟨c, rest, rfl, hblank⟩ := hfirst.first
    exact ⟨c, _, List.cons_append, hblank⟩
  last := by
    obtain ⟨rest, c, rfl, hblank⟩ := hlast.last
    exact ⟨first ++ (text ++ rest), c, by simp, hblank⟩

theorem trim_append (hbefore : Blank before) (htight : Tight text)
    (hafter : Blank after) : trim (before ++ (text ++ after)) = text := by
  have hleft : trimLeft (before ++ (text ++ after)) = text ++ after := by
    obtain ⟨c, rest, rfl, hblank⟩ := htight.first
    rw [trimLeft, List.dropWhile_append_of_pos hbefore, List.cons_append]
    exact trimLeft_cons hblank
  have hright : trimRight (text ++ after) = trimRight text := by
    have hreversed : ∀ c ∈ after.reverse, isBlank c = true := fun c hc =>
      hafter c (List.mem_reverse.mp hc)
    rw [trimRight, List.reverse_append, List.dropWhile_append_of_pos hreversed,
      trimRight]
  rw [trim, hleft, hright]
  obtain ⟨rest, c, rfl, hblank⟩ := htight.last
  exact trimRight_concat hblank

theorem length_trim_le (text : List Char) : (trim text).length ≤ text.length := by
  have hright : (trimRight (trimLeft text)).length ≤ (trimLeft text).length := by
    rw [trimRight, List.length_reverse]
    exact (List.length_dropWhile_le _ _).trans_eq List.length_reverse
  exact hright.trans (List.length_dropWhile_le _ _)

end Workflow.Text
